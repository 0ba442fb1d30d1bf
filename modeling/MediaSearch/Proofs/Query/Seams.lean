import MediaSearch.Proofs.Query.Blocks
import MediaSearch.Proofs.Query.Layout
import Mathlib.Data.List.TakeWhile

set_option autoImplicit false

namespace MediaSearch.Query

open Text (byteLength isBlank isWordChar)

def IsGap (text : List Char) : Prop := ∀ c ∈ text, isBlank c = true

def Lexeme.moved (distance : Nat) (lexeme : Lexeme) : Lexeme :=
  { lexeme with offset := lexeme.offset + distance }

def Failure.moved (distance : Nat) (failure : Failure) : Failure :=
  { failure with offset := failure.offset + distance }

def Scan.moved (distance : Nat) (rest : List Char) (scan : Scan) : Scan :=
  { lexemes := scan.lexemes.map (Lexeme.moved distance)
    offset := scan.offset + distance
    rest := scan.rest ++ rest }

variable {distance offset : Nat} {text rest : List Char}

theorem IsGap.endsWord (gap : IsGap rest) : EndsWord rest := by
  intro c first
  simp [Query.endsWord, gap c (List.mem_of_head? first)]

theorem IsGap.endsBound (gap : IsGap rest) : EndsBound rest := by
  intro c first
  simp [Query.endsBound, gap c (List.mem_of_head? first)]

section Runs

variable {p : Char → Bool}

-- A run that reaches the end of a text stops there, unless what follows goes on with it.
theorem takeWhile_seam (text : List Char) (stops : text.dropWhile p = [] → ∀ c ∈ rest.head?, p c = false) :
    (text ++ rest).takeWhile p = text.takeWhile p ∧ (text ++ rest).dropWhile p = text.dropWhile p ++ rest := by
  induction text with
  | nil =>
    have stop := stops rfl
    have none : ∀ c ∈ ([] : List Char), p c = true := by simp
    exact ⟨takeWhile_append_of_stop none stop, dropWhile_append_of_stop none stop⟩
  | cons c text ih =>
    cases inRun : p c with
    | false => simp [inRun]
    | true =>
      have later := ih (by simpa [inRun] using stops)
      simp [inRun, later]

theorem quotedValue?_seam {value after : List Char} (read : quotedValue? text = some (value, after)) :
    quotedValue? (text ++ rest) = some (value, after ++ rest) := by
  obtain ⟨inner, rfl, plain⟩ := isQuoted_of_quotedValue? read
  obtain ⟨whole, -⟩ := quotedValue?_eq read
  obtain rfl : text = inner ++ '"' :: after := by simpa using whole
  simpa using quotedValue?_append plain (after ++ rest)

theorem quotedValue?_eq_none : quotedValue? text = none ↔ ∀ c ∈ text, (c != '"') = true := by
  rw [← List.dropWhile_eq_nil_iff]
  unfold quotedValue?
  split <;> simp_all

theorem quotedValue?_gap (unclosed : quotedValue? text = none) (gap : IsGap rest) :
    quotedValue? (text ++ rest) = none := by
  refine quotedValue?_eq_none.mpr (List.forall_mem_append.mpr ⟨quotedValue?_eq_none.mp unclosed, ?_⟩)
  intro c member
  rw [bne_iff_ne]
  rintro rfl
  cases gap _ member

theorem operator?_cons_eq_none {c : Char} :
    operator? (c :: text) = none ↔ c ∉ ['<', '>', '=', '~', ':'] := by
  unfold operator?
  split <;> simp_all

theorem operator?_seam (ends : EndsWord rest) :
    operator? (text ++ rest) = (operator? text).map fun found => (found.1, found.2 ++ rest) := by
  cases read : operator? text with
  | some found =>
    obtain ⟨op, operand⟩ := found
    have apart : op = .less ∨ op = .greater → (operand ++ rest).head? ≠ some '=' := by
      intro ordered
      have alone := apart_of_operator? read ordered
      cases operand with
      | nil =>
        intro equal
        cases ends _ equal
      | cons c operand => exact alone
    rw [operator?_eq read, List.append_assoc]
    exact operator?_symbol apart
  | none =>
    cases text with
    | nil => exact operator?_of_endsWord ends
    | cons c text =>
      rw [operator?_cons_eq_none] at read
      rw [List.cons_append, operator?_cons_eq_none.mpr read]
      rfl

end Runs

structure Scan.GoesOn (distance : Nat) (rest : List Char) (offset : Nat) (text : List Char)
    (elsewhere : Except Failure Scan) (scan : Scan) : Prop where
  spans : scan.offset + byteLength scan.rest = offset + byteLength text
  moved : elsewhere = .ok (scan.moved distance rest)

def GoesOn (distance : Nat) (rest : List Char) (offset : Nat) (text : List Char)
    (alone elsewhere : Except Failure Scan) : Prop :=
  Ends (Scan.GoesOn distance rest offset text elsewhere)
    (fun failure => IsGap rest → elsewhere = .error (failure.moved distance)) alone

section Scans

variable {alone elsewhere : Except Failure Scan} {read after : List Char}

theorem GoesOn.cons {token : Token} (whole : text = read ++ after)
    (goesOn : GoesOn distance rest (offset + byteLength read) after alone elsewhere) :
    GoesOn distance rest offset text (alone.map (Scan.cons ⟨token, offset⟩))
      (elsewhere.map (Scan.cons ⟨token, offset + distance⟩)) := by
  refine Ends.map goesOn (fun scan known => ⟨?_, ?_⟩) fun failure known gap => ?_
  · rw [whole, Text.byteLength_append, ← Nat.add_assoc]
    exact known.spans
  · rw [known.moved]
    rfl
  · rw [known gap]
    rfl

theorem GoesOn.last {token : Token} (whole : text = read ++ after) :
    GoesOn distance rest offset text (.ok ⟨[⟨token, offset⟩], offset + byteLength read, after⟩)
      (.ok ⟨[⟨token, offset + distance⟩], offset + distance + byteLength read, after ++ rest⟩) := by
  refine .ok ⟨?_, ?_⟩
  · rw [whole, Text.byteLength_append, ← Nat.add_assoc]
  · rw [Scan.moved, Nat.add_right_comm offset distance]
    rfl

theorem scanRange_gap {start : Nat} (gap : IsGap rest) :
    scanRange start offset rest = .error ⟨.unclosedRange, start⟩ := by
  induction rest generalizing offset with
  | nil => rw [scanRange]
  | cons c rest ih =>
    obtain ⟨blank, later⟩ := List.forall_mem_cons.mp gap
    rw [scanRange_blank blank, ih later]

theorem scanRange_unclosed {start : Nat} (unclosed : quotedValue? text = none) :
    scanRange start offset ('"' :: text) = .error ⟨.unclosedQuote, offset⟩ := by
  have blank : ¬ isBlank '"' = true := by decide
  have noClose : '"' ≠ ']' := by decide
  rw [scanRange.eq_def]
  simp only [if_neg blank, if_neg noClose, if_true]
  split
  · rfl
  · next found => simp [found] at unclosed

theorem scanRange_goesOn (start offset : Nat) (text : List Char) :
    GoesOn distance rest offset text (scanRange start offset text)
      (scanRange (start + distance) (offset + distance) (text ++ rest)) := by
  fun_induction scanRange start offset text with
  | case1 => exact .error scanRange_gap
  | case2 offset c text blank ih =>
    rw [List.cons_append, scanRange_blank blank, Nat.add_right_comm]
    refine Ends.mono ih (fun scan known => ⟨?_, known.moved⟩) fun _ => id
    rw [byteLength, ← Nat.add_assoc]
    exact known.spans
  | case3 offset text =>
    have close : ']' :: text = [']'] ++ text := rfl
    rw [List.cons_append, scanRange_close]
    exact .last close
  | case4 offset text unclosed _ _ =>
    refine .error fun gap => ?_
    rw [List.cons_append, scanRange_unclosed (quotedValue?_gap unclosed gap)]
    rfl
  | case5 offset text value after found shorter _ _ ih =>
    rw [List.cons_append, scanRange_quoted (quotedValue?_seam found), Nat.add_right_comm]
    exact .cons (quotedValue?_eq found).1 ih
  | case6 offset c text notBlank notClose noQuote word shorter =>
    rename_i ih
    have plain : endsBound c = false := by simp [endsBound, notBlank, notClose]
    rw [List.cons_append, scanRange_word plain noQuote]
    -- a word that reaches the end of the text leaves the range open
    by_cases cut : text.dropWhile (!endsBound ·) = [] ∧ ¬ EndsBound rest
    · rw [cut.1, scanRange]
      exact .error fun gap => absurd gap.endsBound cut.2
    · have stops (ends : text.dropWhile (!endsBound ·) = []) : ∀ d ∈ rest.head?, (!endsBound d) = false := by
        have bound : EndsBound rest := Classical.not_not.mp fun goesOn => cut ⟨ends, goesOn⟩
        intro d first
        simp [bound d first]
      obtain ⟨taken, dropped⟩ := takeWhile_seam text stops
      rw [taken, dropped, Nat.add_right_comm]
      refine .cons ?_ ih
      simp [word]

theorem scanOperand_gap (gap : IsGap rest) :
    scanOperand offset rest = .error ⟨.operatorWithoutValue, offset⟩ := by
  cases rest with
  | nil => rfl
  | cons c rest =>
    have blank := gap c List.mem_cons_self
    have noRange : c ≠ '[' := by rintro rfl; cases blank
    have noQuote : c ≠ '"' := by rintro rfl; cases blank
    have ends := gap.endsWord c rfl
    simp only [scanOperand, if_neg noRange, if_neg noQuote, ends, if_true]

theorem scanOperand_goesOn (ends : EndsWord rest) (offset : Nat) (text : List Char) :
    GoesOn distance rest offset text (scanOperand offset text)
      (scanOperand (offset + distance) (text ++ rest)) := by
  have stop : ∀ c ∈ rest.head?, (!endsWord c) = false := fun c first => by simp [ends c first]
  rcases text with _ | ⟨c, text⟩
  · exact .error scanOperand_gap
  · rw [List.cons_append, scanOperand, scanOperand]
    split
    · next opens =>
      subst opens
      have bracket : '[' :: text = ['['] ++ text := rfl
      rw [Nat.add_right_comm]
      exact .cons bracket (scanRange_goesOn offset (offset + 1) text)
    · split
      · next quote =>
        subst quote
        cases read : quotedValue? text with
        | none =>
          refine .error fun gap => ?_
          rw [quotedValue?_gap read gap]
          rfl
        | some found =>
          rw [quotedValue?_seam read]
          exact .last (quotedValue?_eq read).1
      · split
        · exact .error fun _ => rfl
        · obtain ⟨taken, dropped⟩ := takeWhile_seam text fun _ => stop
          rw [taken, dropped]
          refine .last ?_
          simp

theorem map_cons_cons (result : Except Failure Scan) (first second : Lexeme) :
    (result.map fun scan => { scan with lexemes := first :: second :: scan.lexemes }) =
      (result.map (Scan.cons second)).map (Scan.cons first) := by
  cases result <;> rfl

theorem scanWord_goesOn {c : Char} (ends : EndsWord rest) (offset : Nat) (text : List Char) :
    GoesOn distance rest offset (c :: text) (scanWord offset (c :: text))
      (scanWord (offset + distance) (c :: text ++ rest)) := by
  have stop : ∀ d ∈ rest.head?, (!endsWord d) = false := fun d first => by simp [ends d first]
  obtain ⟨name, afterName⟩ := takeWhile_seam (c :: text) fun _ => isWordChar_of_endsWord ends
  obtain ⟨word, afterWord⟩ := takeWhile_seam (c :: text) fun _ => stop
  simp only [scanWord, name, afterName, word, afterWord, operator?_seam ends]
  cases found : operator? ((c :: text).dropWhile isWordChar) with
  | some read =>
    obtain ⟨op, operand⟩ := read
    simp only [Option.map_some]
    split
    · refine .error fun _ => ?_
      rw [Nat.add_right_comm]
      rfl
    · have whole : c :: text = (c :: text).takeWhile isWordChar ++ (op.symbol.toList ++ operand) := by
        rw [← operator?_eq found, List.takeWhile_append_dropWhile]
      rw [map_cons_cons, map_cons_cons, Nat.add_right_comm offset distance,
        Nat.add_right_comm _ distance (byteLength op.symbol.toList)]
      exact .cons whole (.cons rfl (scanOperand_goesOn ends _ operand))
  | none =>
    simp only [Option.map_none]
    cases keyword : keyword? ((c :: text).takeWhile (!endsWord ·)) with
    | some token =>
      have whole := (List.takeWhile_append_dropWhile (p := (!endsWord ·)) (l := c :: text)).symm
      exact .last whole
    | none =>
      simp only
      cases name : (c :: text).takeWhile isWordChar with
      | nil => exact .error fun _ => rfl
      | cons d name =>
        refine .error fun _ => ?_
        simp only [Failure.moved, Nat.add_right_comm offset distance]

end Scans

theorem scanFrom_gap (gap : IsGap rest) : scanFrom offset rest = .ok [] := by
  induction rest generalizing offset with
  | nil => exact scanFrom_nil
  | cons c rest ih =>
    obtain ⟨blank, later⟩ := List.forall_mem_cons.mp gap
    rw [scanFrom_blank blank, ih later]

theorem scanFrom_refused {c : Char} {failure : Failure} (word : endsWord c = false)
    (refused : scanWord offset (c :: text) = .error failure) :
    scanFrom offset (c :: text) = .error failure := by
  simp only [endsWord, Bool.or_eq_false_iff, beq_eq_false_iff_ne] at word
  obtain ⟨⟨blank, opens⟩, closes⟩ := word
  rw [scanFrom.eq_def]
  simp only [blank, Bool.false_eq_true, dite_false, dif_neg opens, dif_neg closes]
  split
  · next found => rw [← Except.error.inj (found.symm.trans refused)]
  · next found => cases found.symm.trans refused

def FoundIn (distance : Nat) (rest : List Char) (offset : Nat) (text : List Char) (lexemes : List Lexeme) :
    Prop :=
  scanFrom (offset + distance) (text ++ rest) =
    (scanFrom (offset + distance + byteLength text) rest).map (lexemes.map (Lexeme.moved distance) ++ ·)

namespace FoundIn

variable {lexemes : List Lexeme}

theorem none : FoundIn distance rest offset [] [] := by
  have atOnce : offset + distance + byteLength [] = offset + distance := rfl
  rw [FoundIn, atOnce, List.nil_append]
  cases scanFrom (offset + distance) rest <;> rfl

theorem blank {c : Char} (isBlank : isBlank c = true)
    (later : FoundIn distance rest (offset + c.utf8Size) text lexemes) :
    FoundIn distance rest offset (c :: text) lexemes := by
  rw [FoundIn, Nat.add_right_comm] at later
  rw [FoundIn, List.cons_append, scanFrom_blank isBlank, later, byteLength, Nat.add_assoc _ c.utf8Size]

theorem more {first : List Lexeme} {next : Nat} {after : List Char}
    (read : scanFrom (offset + distance) (text ++ rest) =
      (scanFrom (next + distance) (after ++ rest)).map (first.map (Lexeme.moved distance) ++ ·))
    (spans : next + byteLength after = offset + byteLength text)
    (later : FoundIn distance rest next after lexemes) :
    FoundIn distance rest offset text (first ++ lexemes) := by
  have same : next + distance + byteLength after = offset + distance + byteLength text := by omega
  rw [FoundIn, read, later, same, map_append_map_append, List.map_append]

end FoundIn

def ScanGoesOn (distance : Nat) (rest : List Char) (offset : Nat) (text : List Char) : Prop :=
  Ends (FoundIn distance rest offset text)
    (fun failure => IsGap rest → scanFrom (offset + distance) (text ++ rest) = .error (failure.moved distance))
    (scanFrom offset text)

theorem ScanGoesOn.parenthesis {c : Char} {token : Token} (size : c.utf8Size = 1)
    (reads : ∀ offset text,
      scanFrom offset (c :: text) = (scanFrom (offset + 1) text).map (⟨token, offset⟩ :: ·))
    (inside : ScanGoesOn distance rest (offset + 1) text) : ScanGoesOn distance rest offset (c :: text) := by
  have elsewhere := reads (offset + distance) (text ++ rest)
  rw [Nat.add_right_comm] at elsewhere
  rw [ScanGoesOn, reads, List.cons_append, elsewhere]
  refine Ends.map inside (fun lexemes found => ?_) fun failure refused gap => ?_
  · have spans : offset + 1 + byteLength text = offset + byteLength (c :: text) := by
      rw [byteLength, size, Nat.add_assoc]
    have whole : FoundIn distance rest offset (c :: text) ([⟨token, offset⟩] ++ lexemes) :=
      .more elsewhere spans found
    exact whole
  · rw [refused gap]
    rfl

theorem scanFrom_goesOn (ends : EndsWord rest) (offset : Nat) (text : List Char) :
    ScanGoesOn distance rest offset text := by
  induction offset, text using scanFrom.induct with
  | case1 offset =>
    rw [ScanGoesOn, scanFrom_nil]
    exact .ok .none
  | case2 offset c text blank ih =>
    rw [ScanGoesOn, List.cons_append, scanFrom_blank blank, scanFrom_blank blank, Nat.add_right_comm]
    exact Ends.mono ih (fun _ found => found.blank blank) fun _ => id
  | case3 offset text blank ih => exact ih.parenthesis rfl fun _ _ => scanFrom_open
  | case4 offset text blank notOpen ih => exact ih.parenthesis rfl fun _ _ => scanFrom_close
  | case5 offset c text notBlank notOpen notClose failure failed =>
    have word : endsWord c = false := by simp [endsWord, notBlank, notOpen, notClose]
    rw [ScanGoesOn, scanFrom_refused word failed]
    refine .error fun gap => ?_
    exact scanFrom_refused word ((scanWord_goesOn ends offset text).of_error failed gap)
  | case6 offset c text notBlank notOpen notClose scan read shorter ih =>
    have word : endsWord c = false := by simp [endsWord, notBlank, notOpen, notClose]
    obtain ⟨spans, moved⟩ := (scanWord_goesOn ends offset text).of_ok read
    have elsewhere : scanFrom (offset + distance) (c :: text ++ rest) = _ := scanFrom_word word moved
    rw [ScanGoesOn, scanFrom_word word read, elsewhere]
    refine Ends.map ih (fun _ found => .more elsewhere spans found) fun failure refused gap => ?_
    rw [Scan.moved, refused gap]
    rfl

theorem tokenize_eq_ok {input : String} {lexemes : List Lexeme} :
    tokenize input = .ok lexemes ↔ scanFrom 0 input.toList = .ok lexemes := by
  unfold tokenize
  cases scanFrom 0 input.toList with
  | error failure => exact ⟨nofun, nofun⟩
  | ok found =>
    constructor
    · intro same
      cases same
      rfl
    · intro same
      cases same
      rfl

theorem scans_of_tokenize {input : String} {lexemes : List Lexeme} (scanned : tokenize input = .ok lexemes) :
    Scans input.toList (lexemes.map Lexeme.token) := by
  intro offset rest ends
  have found : FoundIn offset rest 0 input.toList lexemes :=
    (scanFrom_goesOn ends 0 input.toList).of_ok (tokenize_eq_ok.mp scanned)
  rw [FoundIn, Nat.zero_add] at found
  exact ⟨_, _, by simp [Lexeme.moved], found⟩

end MediaSearch.Query
