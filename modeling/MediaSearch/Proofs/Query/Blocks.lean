import MediaSearch.Proofs.Query.Scanning
import Mathlib.Data.List.TakeWhile

set_option autoImplicit false

namespace MediaSearch.Query

open Text (isBlank isWordChar sameIgnoringCase)

def IsRangePart (token : Token) : Prop :=
  token = .to ∨ ∃ text, token = .value text ∧ IsBound text.toList

inductive IsOperand (op : Operator) : List Token → Prop
  | value {text : String} (written : IsQuoted text.toList ∨ IsBareValue op text.toList) :
      IsOperand op [.value text]
  | range {inside : List Token} (parts : ∀ token ∈ inside, IsRangePart token) :
      IsOperand op (.rangeOpen :: (inside ++ [.rangeClose]))

def marks : List Token := [.groupOpen, .groupClose, .and, .or, .not]

inductive IsBlock : List Token → Prop
  | mark {token : Token} (member : token ∈ marks) : IsBlock [token]
  | test {field : String} {op : Operator} {operand : List Token} (named : IsFieldName field.toList)
      (follows : IsOperand op operand) : IsBlock (.field field :: .operator op :: operand)

inductive Blocks : List Token → Prop
  | none : Blocks []
  | more {block others : List Token} (first : IsBlock block) (rest : Blocks others) :
      Blocks (block ++ others)

section Words

variable {text rest word : List Char} {op : Operator}

theorem forall_mem_word {ends : Char → Bool} {c : Char} (plain : ends c = false) :
    ∀ d ∈ c :: rest.takeWhile (!ends ·), ends d = false := by
  intro d member
  rcases List.mem_cons.mp member with rfl | later
  · exact plain
  · simpa using List.mem_takeWhile_imp later

theorem isQuoted_of_quotedValue? {value : List Char} (read : quotedValue? text = some (value, rest)) :
    IsQuoted value := by
  unfold quotedValue? at read
  split at read
  · cases read
  · cases read
    refine ⟨text.takeWhile (· != '"'), rfl, fun member => ?_⟩
    simpa using List.mem_takeWhile_imp member

theorem apart_of_operator? (read : operator? text = some (op, rest)) :
    op = .less ∨ op = .greater → rest.head? ≠ some '=' := by
  unfold operator? at read
  split at read <;> cases read
  case h_3 notAtMost _ => cases rest <;> simp_all
  case h_4 notAtLeast _ => cases rest <;> simp_all
  all_goals simp

theorem isBareValue_of_word {c : Char} (apart : op = .less ∨ op = .greater → c ≠ '=')
    (noRange : c ≠ '[') (noQuote : c ≠ '"') (plain : endsWord c = false) :
    IsBareValue op (c :: rest.takeWhile (!endsWord ·)) := by
  constructor
  case nonempty => simp
  case plain => exact fun d member => by simpa [endsWord, and_assoc] using forall_mem_word plain d member
  case noRange => simpa using noRange
  case noQuote => simpa using noQuote
  case noEqual => simpa using apart

theorem isRangePart_of_word {c : Char} (noQuote : c ≠ '"') (plain : endsBound c = false) :
    IsRangePart (boundToken (c :: rest.takeWhile (!endsBound ·))) := by
  unfold boundToken
  split
  · exact Or.inl rfl
  · next notTo =>
    refine Or.inr ⟨_, rfl, Or.inr ?_⟩
    rw [String.toList_ofList]
    constructor
    case nonempty => simp
    case plain => exact fun d member => by simpa [endsBound] using forall_mem_word plain d member
    case noQuote => simpa using noQuote
    case notTo => simpa using notTo

end Words

section Scans

variable {offset : Nat} {text : List Char} {scan : Scan}

theorem scanRange_parts {start : Nat} (read : scanRange start offset text = .ok scan) :
    ∃ inside, (∀ token ∈ inside, IsRangePart token) ∧
      scan.lexemes.map Lexeme.token = inside ++ [.rangeClose] := by
  fun_induction scanRange start offset text generalizing scan with
  | case1 => cases read
  | case2 offset c rest blank ih => exact ih read
  | case3 offset rest =>
    cases read
    exact ⟨[], by simp, rfl⟩
  | case4 => cases read
  | case5 offset rest value after found shorter _ _ ih =>
    obtain ⟨inner, tail, rfl⟩ := exists_ok_of_map_eq_ok read
    obtain ⟨inside, parts, split⟩ := ih tail
    have quoted : IsBound (String.ofList value).toList := by
      rw [String.toList_ofList]
      exact Or.inl (isQuoted_of_quotedValue? found)
    exact ⟨.value (String.ofList value) :: inside,
      List.forall_mem_cons.mpr ⟨Or.inr ⟨_, rfl, quoted⟩, parts⟩, by simp [split]⟩
  | case6 offset c rest notBlank notClose noQuote word shorter =>
    rename_i ih
    obtain ⟨inner, tail, rfl⟩ := exists_ok_of_map_eq_ok read
    obtain ⟨inside, parts, split⟩ := ih tail
    have part : IsRangePart (boundToken word) :=
      isRangePart_of_word noQuote (by simp [endsBound, notBlank, notClose])
    exact ⟨boundToken word :: inside, List.forall_mem_cons.mpr ⟨part, parts⟩, by simp [split]⟩

theorem scanOperand_isOperand {op : Operator}
    (apart : op = .less ∨ op = .greater → text.head? ≠ some '=')
    (read : scanOperand offset text = .ok scan) :
    IsOperand op (scan.lexemes.map Lexeme.token) := by
  rcases text with _ | ⟨c, rest⟩
  · cases read
  · simp only [scanOperand] at read
    split at read
    · obtain ⟨inner, tail, rfl⟩ := exists_ok_of_map_eq_ok read
      obtain ⟨inside, parts, split⟩ := scanRange_parts tail
      rw [List.map_cons, split]
      exact .range parts
    · next noRange =>
      split at read
      · split at read
        · cases read
        · next found =>
          cases read
          apply IsOperand.value
          rw [String.toList_ofList]
          exact Or.inl (isQuoted_of_quotedValue? found)
      · next noQuote =>
        split at read
        · cases read
        · next plain =>
          cases read
          apply IsOperand.value
          rw [String.toList_ofList]
          exact Or.inr (isBareValue_of_word (by simpa using apart) noRange noQuote (by simpa using plain))

theorem keyword?_mem_marks {word : List Char} {token : Token} (found : keyword? word = some token) :
    token ∈ marks := by
  unfold keyword? at found
  split at found
  · cases found
    decide
  · split at found
    · cases found
      decide
    · split at found
      · cases found
        decide
      · cases found

theorem scanWord_isBlock (read : scanWord offset text = .ok scan) :
    IsBlock (scan.lexemes.map Lexeme.token) := by
  simp only [scanWord] at read
  split at read
  · next op operand found =>
    split at read
    · cases read
    · next named =>
      obtain ⟨inner, tail, rfl⟩ := exists_ok_of_map_eq_ok read
      have isName : IsFieldName (String.ofList (text.takeWhile isWordChar)).toList := by
        rw [String.toList_ofList]
        exact ⟨by simpa using named, fun c member => List.mem_takeWhile_imp member⟩
      exact .test isName (scanOperand_isOperand (apart_of_operator? found) tail)
  · split at read
    · next token found =>
      cases read
      exact .mark (keyword?_mem_marks found)
    · split at read <;> cases read

theorem scanFrom_blocks {lexemes : List Lexeme} (read : scanFrom offset text = .ok lexemes) :
    Blocks (lexemes.map Lexeme.token) := by
  fun_induction scanFrom offset text generalizing lexemes with
  | case1 =>
    cases read
    exact .none
  | case2 offset c rest blank ih => exact ih read
  | case3 offset rest blank ih =>
    obtain ⟨others, tail, rfl⟩ := exists_ok_of_map_eq_ok read
    have opens : IsBlock [.groupOpen] := .mark (by decide)
    exact .more opens (ih tail)
  | case4 offset rest blank notOpen ih =>
    obtain ⟨others, tail, rfl⟩ := exists_ok_of_map_eq_ok read
    have closes : IsBlock [.groupClose] := .mark (by decide)
    exact .more closes (ih tail)
  | case5 => cases read
  | case6 offset c rest notBlank notOpen notClose scan word shorter ih =>
    obtain ⟨others, tail, rfl⟩ := exists_ok_of_map_eq_ok read
    rw [List.map_append]
    exact .more (scanWord_isBlock word) (ih tail)

end Scans

theorem tokenize_blocks {input : String} {lexemes : List Lexeme}
    (scanned : tokenize input = .ok lexemes) : Blocks (lexemes.map Lexeme.token) := by
  unfold tokenize at scanned
  cases read : scanFrom 0 input.toList with
  | error failure =>
    rw [read] at scanned
    cases scanned
  | ok found =>
    rw [read] at scanned
    cases scanned
    exact scanFrom_blocks read

end MediaSearch.Query
