import Mathlib.Data.List.Find
import MediaSearch.Proofs.Query.Faults
import MediaSearch.Proofs.Query.OrderLists
import MediaSearch.Proofs.Query.Padding

set_option autoImplicit false

/-!
What the hint of an error depends on. Hints are chosen by words in the message, and a message may quote the user.
The quoted texts make no difference for queries. For order lists they alone decide, since the refused field is
quoted whole and the other words of the message call for no hint.
-/

namespace MediaSearch

namespace Text

variable {needle first second : List Char} {c : Char}

theorem occursIn_iff (needle text : List Char) : occursIn needle text = true ↔ needle <:+: text := by
  induction text with
  | nil => simp [occursIn]
  | cons c rest ih => rw [occursIn, Bool.or_eq_true, List.isPrefixOf_iff_prefix, ih, List.infix_cons_iff]

theorem isPrefix_append_cons (apart : c ∉ needle) : needle <+: first ++ c :: second ↔ needle <+: first := by
  induction first generalizing needle with
  | nil =>
    rw [List.nil_append, List.prefix_nil]
    refine ⟨fun starts => ?_, fun none => none ▸ List.nil_prefix⟩
    cases needle with
    | nil => rfl
    | cons d needle => exact absurd ((List.cons_prefix_cons.mp starts).1 ▸ List.mem_cons_self) apart
  | cons d first ih =>
    cases needle with
    | nil => simp
    | cons e needle =>
      rw [List.cons_append, List.cons_prefix_cons, List.cons_prefix_cons,
        ih fun member => apart (List.mem_cons_of_mem e member)]

theorem occursIn_append_cons (apart : c ∉ needle) (first second : List Char) :
    occursIn needle (first ++ c :: second) = (occursIn needle first || occursIn needle second) := by
  rw [Bool.eq_iff_iff, Bool.or_eq_true, occursIn_iff, occursIn_iff, occursIn_iff]
  induction first with
  | nil =>
    have start : needle <+: [] ++ c :: second ↔ needle <+: [] := isPrefix_append_cons apart
    rw [List.nil_append] at start ⊢
    rw [List.infix_cons_iff, start, List.prefix_nil, List.infix_nil]
  | cons d first ih =>
    rw [List.cons_append, List.infix_cons_iff, List.infix_cons_iff, ih, ← List.cons_append,
      isPrefix_append_cons apart, or_assoc]

theorem occursIn_eq_false_of_mem {text : List Char} (within : c ∈ needle) (absent : c ∉ text) :
    occursIn needle text = false := by
  rw [← Bool.not_eq_true, occursIn_iff]
  exact fun occurs => absent (occurs.subset within)

theorem occursIn_eq_false_of_length {text : List Char} (longer : text.length < needle.length) :
    occursIn needle text = false := by
  rw [← Bool.not_eq_true, occursIn_iff]
  intro occurs
  have := occurs.length_le
  omega

end Text

namespace Query

open Text (occursIn)

def Fault.wording : Fault → List String
  | .unexpectedCharacter _ => ["unexpected character '", "'"]
  | .wordWithoutOperator _ => ["expected operator after '", "'"]
  | .unexpectedToken _ => ["unexpected token: ", ""]
  | .operatorExpected _ => ["expected operator after '", "'"]
  | .valueExpected _ _ => ["expected value after '", "'"]
  | .rangeAfterOperator _ => ["range requires ':' or '=', found '", "'"]
  | .characterInOrderField _ _ => ["unexpected character '", "' in order field '", "'"]
  | .stated _ => ["", ""]
  | fault => [fault.message]

-- The texts of the user that a message quotes, each between two of its words.
def Fault.quotes : Fault → List String
  | .unexpectedCharacter c => [c.toString]
  | .wordWithoutOperator word => [word]
  | .unexpectedToken token => [token.label]
  | .operatorExpected field => [field]
  | .valueExpected field op => [field ++ op.symbol]
  | .rangeAfterOperator op => [op.symbol]
  | .characterInOrderField c field => [c.toString, field]
  | .stated text => [text]
  | _ => []

def weave : List String → List String → String
  | word :: words, text :: texts => word ++ text ++ weave words texts
  | words, _ => String.join words

theorem weave_nil (words : List String) : weave words [] = String.join words := by
  cases words <;> rfl

theorem weave_around (front text back : String) : weave [front, back] [text] = front ++ text ++ back := by
  simp [weave, String.join]

theorem Fault.message_eq_weave (fault : Fault) : fault.message = weave fault.wording fault.quotes := by
  cases fault with
  | unexpectedCharacter | wordWithoutOperator | operatorExpected | rangeAfterOperator =>
    exact (weave_around _ _ _).symm
  | valueExpected field op =>
    refine Eq.trans ?_ (weave_around "expected value after '" (field ++ op.symbol) "'").symm
    rw [← String.append_assoc]
    rfl
  | unexpectedToken token =>
    refine Eq.trans ?_ (weave_around "unexpected token: " token.label "").symm
    rw [String.append_empty]
    rfl
  | characterInOrderField c field =>
    refine Eq.trans ?_ (congrArg (_ ++ ·) (weave_around "' in order field '" field "'")).symm
    rw [← String.append_assoc, ← String.append_assoc]
    rfl
  | stated text =>
    refine Eq.trans ?_ (weave_around "" text "").symm
    rw [String.append_empty, String.empty_append]
    rfl
  | _ => exact (by simp [String.join] : ∀ word : String, word = String.join [word]) _

theorem hintFor_congr {message message' : String}
    (same : ∀ hint ∈ hints, occursIn hint.1.toList message.toList = occursIn hint.1.toList message'.toList) :
    hintFor message = hintFor message' := by
  rw [hintFor, hintFor, List.find?_congr same]

theorem words_of_hints {hint : String × String} (listed : hint ∈ hints) :
    '\'' ∉ hint.1.toList ∧ ∀ text : List Char, text.length ≤ 1 → occursIn hint.1.toList text = false := by
  have all : ∀ hint ∈ hints, '\'' ∉ hint.1.toList ∧ 1 < hint.1.toList.length := by decide
  obtain ⟨apart, long⟩ := all hint listed
  exact ⟨apart, fun text short => Text.occursIn_eq_false_of_length (Nat.lt_of_le_of_lt short long)⟩

def Fault.HasOwnHint (fault : Fault) : Prop := hintFor fault.message = hintFor (String.join fault.wording)

namespace Fault

variable {fault : Fault}

theorem hasOwnHint_of_quotes (none : fault.quotes = []) : fault.HasOwnHint := by
  rw [HasOwnHint, message_eq_weave, none, weave_nil]

-- The text stands in quotes, so words of a hint would have to lie in it.
theorem hasOwnHint_of_unheard (words : List Char) {front text : String} (opens : front.toList = words ++ ['\''])
    (wording : fault.wording = [front, "'"]) (quotes : fault.quotes = [text])
    (unheard : ∀ hint ∈ hints, occursIn hint.1.toList text.toList = false) : fault.HasOwnHint := by
  rw [HasOwnHint, message_eq_weave, wording, quotes, weave_around]
  refine hintFor_congr fun hint member => ?_
  obtain ⟨apart, short⟩ := words_of_hints member
  have quoted : (front ++ text ++ "'").toList = words ++ '\'' :: (text.toList ++ '\'' :: []) := by
    simp [opens]
  have alone : (String.join [front, "'"]).toList = words ++ '\'' :: ([] ++ '\'' :: []) := by
    simp [String.join, opens]
  simp only [quoted, alone, Text.occursIn_append_cons apart, unheard hint member, short [] (Nat.zero_le 1)]

theorem hasOwnHint_unexpectedCharacter (c : Char) : (unexpectedCharacter c).HasOwnHint := by
  refine hasOwnHint_of_unheard "unexpected character ".toList (by decide) rfl rfl fun hint member => ?_
  exact (words_of_hints member).2 _ (by simp)

theorem hasOwnHint_rangeAfterOperator (op : Operator) : (rangeAfterOperator op).HasOwnHint := by
  refine hasOwnHint_of_unheard "range requires ':' or '=', found ".toList (by decide) rfl rfl ?_
  cases op <;> decide

end Fault

-- The hints in front of the one for operators have a space in their words.
theorem hintFor_expectedOperator {message : String} (after : List Char)
    (reads : message.toList = "expected operator after ".toList ++ '\'' :: after) (unbroken : ' ' ∉ after) :
    hintFor message = some "Predicates look like field:value, field=value, field~regexp or field>=value" := by
  have absent {needle : List Char} (apart : '\'' ∉ needle) (spaced : ' ' ∈ needle)
      (silent : occursIn needle "expected operator after ".toList = false) :
      occursIn needle message.toList = false := by
    rw [reads, Text.occursIn_append_cons apart, silent, Text.occursIn_eq_false_of_mem spaced unbroken]
    rfl
  have quote : occursIn "unclosed quote".toList message.toList = false :=
    absent (by decide) (by decide) (by decide)
  have close : occursIn "closing parenthesis".toList message.toList = false :=
    absent (by decide) (by decide) (by decide)
  have operator : occursIn "expected operator".toList message.toList = true := by
    rw [reads, Text.occursIn_append_cons (by decide), Bool.or_eq_true]
    exact .inl (by decide)
  simp only [hintFor, hints, List.find?_cons, quote, close, operator, Option.map_some]

namespace Fault

theorem hasOwnHint_wordWithoutOperator {word : List Char} (unbroken : ' ' ∉ word) :
    (wordWithoutOperator (String.ofList word)).HasOwnHint := by
  have quoted : hintFor ("expected operator after '" ++ String.ofList word ++ "'") = _ :=
    hintFor_expectedOperator (word ++ ['\'']) (by simp) (by simp [unbroken])
  have alone : hintFor (String.join ["expected operator after '", "'"]) = _ :=
    hintFor_expectedOperator ['\''] (by simp [String.join]) (by simp)
  exact quoted.trans alone.symm

theorem hintFor_characterInOrderField (c : Char) (field : String) :
    hintFor (characterInOrderField c field).message = hintFor field := by
  change hintFor ("unexpected character '" ++ c.toString ++ "' in order field '" ++ field ++ "'") = hintFor field
  refine hintFor_congr fun hint member => ?_
  obtain ⟨apart, short⟩ := words_of_hints member
  have message : ("unexpected character '" ++ c.toString ++ "' in order field '" ++ field ++ "'").toList =
      "unexpected character ".toList ++ '\'' :: ([c] ++ '\'' ::
        (" in order field ".toList ++ '\'' :: (field.toList ++ '\'' :: []))) := by
    simp
  have silent : ∀ hint ∈ hints, occursIn hint.1.toList "unexpected character ".toList = false ∧
      occursIn hint.1.toList " in order field ".toList = false := by
    decide
  simp only [message, Text.occursIn_append_cons apart, silent hint member, short [c] (Nat.le_refl 1),
    short [] (Nat.zero_le 1), Bool.false_or, Bool.or_false]

def Settled (fault : Fault) : Prop := fault.isStray = true ∨ fault.HasOwnHint

theorem settled_of_quotes {fault : Fault} (none : fault.quotes = []) : fault.Settled :=
  .inr (hasOwnHint_of_quotes none)

end Fault

abbrev Settles {α : Type} (result : Except Failure α) : Prop :=
  Ends (fun _ => True) (fun failure => failure.fault.Settled) result

theorem Settles.map {α β : Type} {result : Except Failure α} (settles : Settles result) (f : α → β) :
    Settles (result.map f) :=
  Ends.map settles (fun _ _ => trivial) fun _ => id

section Lexer

open Fault (settled_of_quotes)

theorem scanRange_settles (start offset : Nat) (text : List Char) : Settles (scanRange start offset text) := by
  fun_induction scanRange start offset text with
  | case1 => exact .error (settled_of_quotes rfl)
  | case2 _ _ _ _ ih => exact ih
  | case3 => exact .ok trivial
  | case4 => exact .error (settled_of_quotes rfl)
  | case5 _ _ _ _ _ _ _ _ ih => exact ih.map _
  | case6 =>
    rename_i ih
    exact ih.map _

theorem scanOperand_settles (offset : Nat) (text : List Char) : Settles (scanOperand offset text) := by
  unfold scanOperand
  split
  · exact .error (settled_of_quotes rfl)
  · split
    · exact (scanRange_settles _ _ _).map _
    · split
      · split
        · exact .error (settled_of_quotes rfl)
        · exact .ok trivial
      · split
        · exact .error (settled_of_quotes rfl)
        · exact .ok trivial

theorem scanWord_settles (offset : Nat) (text : List Char) : Settles (scanWord offset text) := by
  have unbroken : ' ' ∉ text.takeWhile (!endsWord ·) := by
    intro member
    have within : (!endsWord ' ') = true := List.mem_takeWhile_imp (p := (!endsWord ·)) member
    cases isBlank_eq_false_of_not_endsWord within
  simp only [scanWord]
  split
  · split
    · exact .error (settled_of_quotes rfl)
    · exact (scanOperand_settles _ _).map _
  · split
    · exact .ok trivial
    · split
      · exact .error (.inr (Fault.hasOwnHint_unexpectedCharacter _))
      · exact .error (.inr (Fault.hasOwnHint_wordWithoutOperator unbroken))

theorem scanFrom_settles (offset : Nat) (text : List Char) : Settles (scanFrom offset text) := by
  fun_induction scanFrom offset text with
  | case1 => exact .ok trivial
  | case2 _ _ _ _ ih => exact ih
  | case3 _ _ _ ih => exact ih.map _
  | case4 _ _ _ _ ih => exact ih.map _
  | case5 _ _ _ _ _ _ _ failed => exact .error ((scanWord_settles _ _).of_error failed)
  | case6 _ _ _ _ _ _ _ _ _ ih => exact ih.map _

end Lexer

section Parser

open Fault (settled_of_quotes)

variable {queryEnd : Nat} {operand : (lexemes : List Lexeme) → Parsed Expr lexemes}

theorem parseBounds_settles (lexemes : List Lexeme) : Settles (parseBounds queryEnd lexemes) := by
  unfold parseBounds
  split
  · exact .ok trivial
  all_goals exact .error (settled_of_quotes rfl)

theorem parsePredicate_settles (lexemes : List Lexeme) : Settles (parsePredicate queryEnd lexemes) := by
  unfold parsePredicate
  split
  · exact .ok trivial
  · split
    · split
      · next failed => exact .error ((parseBounds_settles _).of_error failed)
      · exact .ok trivial
    · exact .error (.inr (Fault.hasOwnHint_rangeAfterOperator _))
  -- the tokens do not come as the lexer writes them
  all_goals exact .error (.inl rfl)

theorem parsePredicates_settles (lexemes : List Lexeme) : Settles (parsePredicates queryEnd lexemes) := by
  fun_induction parsePredicates queryEnd lexemes with
  | case1 _ _ failed => exact .error ((parsePredicate_settles _).of_error failed)
  | case2 _ _ _ _ _ _ _ failed ih => exact .error (ih.of_error failed)
  | case3 | case4 => exact .ok trivial

theorem parseOperands_settles (each : ∀ lexemes, Settles (operand lexemes)) (lexemes : List Lexeme) :
    Settles (parseOperands operand lexemes) := by
  fun_induction parseOperands operand lexemes with
  | case1 _ _ failed => exact .error ((each _).of_error failed)
  | case2 =>
    rename_i failed _ _ ih
    exact .error (ih.of_error failed)
  | case4 =>
    rename_i failed _ _ ih
    exact .error (ih.of_error failed)
  | case3 | case5 | case6 => exact .ok trivial

theorem parseAlternatives_settles (each : ∀ lexemes, Settles (operand lexemes)) (lexemes : List Lexeme) :
    Settles (parseAlternatives operand lexemes) := by
  fun_induction parseAlternatives operand lexemes with
  | case1 _ _ failed => exact .error ((parseOperands_settles each _).of_error failed)
  | case2 =>
    rename_i failed _ _ ih
    exact .error (ih.of_error failed)
  | case3 | case4 => exact .ok trivial

theorem parseExpr_settles (each : ∀ lexemes, Settles (operand lexemes)) (lexemes : List Lexeme) :
    Settles (parseExpr operand lexemes) := by
  unfold parseExpr
  split
  · next failed => exact .error ((parseAlternatives_settles each _).of_error failed)
  · exact .ok trivial

theorem parseGroup_settles {start : Nat} (each : ∀ lexemes, Settles (operand lexemes)) (lexemes : List Lexeme) :
    Settles (parseGroup start operand lexemes) := by
  unfold parseGroup
  split
  · exact .error (settled_of_quotes rfl)
  · split
    · next failed => exact .error ((parseExpr_settles each _).of_error failed)
    · split
      · exact .error (settled_of_quotes rfl)
      · exact .ok trivial
      · exact .error (settled_of_quotes rfl)

theorem parseOperand_tests_settles (depth offset : Nat) (name : String) (lexemes : List Lexeme) :
    Settles (parseOperand queryEnd depth (⟨.field name, offset⟩ :: lexemes)) := by
  cases depth
  all_goals
    rw [parseOperand]
    split
    · next failed => exact .error ((parsePredicates_settles _).of_error failed)
    · exact .ok trivial

theorem parseOperand_settles (depth : Nat) (lexemes : List Lexeme) :
    Settles (parseOperand queryEnd depth lexemes) := by
  induction depth generalizing lexemes with
  | zero =>
    rcases lexemes with _ | ⟨⟨token, offset⟩, lexemes⟩
    · exact .error (settled_of_quotes rfl)
    · cases token with
      | field name => exact parseOperand_tests_settles 0 offset name lexemes
      | not | groupOpen | groupClose | or | and => exact .error (settled_of_quotes rfl)
      | _ => exact .error (.inl rfl)
  | succ depth ih =>
    rcases lexemes with _ | ⟨⟨token, offset⟩, lexemes⟩
    · exact .error (settled_of_quotes rfl)
    · cases token with
      | field name => exact parseOperand_tests_settles (depth + 1) offset name lexemes
      | not =>
        rw [parseOperand]
        split
        · next failed => exact .error ((ih _).of_error failed)
        · exact .ok trivial
      | groupOpen =>
        rw [parseOperand]
        split
        · next failed => exact .error ((parseGroup_settles ih _).of_error failed)
        · exact .ok trivial
      | groupClose | or | and => exact .error (settled_of_quotes rfl)
      | _ => exact .error (.inl rfl)

theorem parseTokens_settles (lexemes : List Lexeme) : Settles (parseTokens queryEnd lexemes) := by
  unfold parseTokens
  split
  · exact .error (settled_of_quotes rfl)
  · split
    · next failed => exact .error ((parseExpr_settles (parseOperand_settles maxDepth) _).of_error failed)
    · split
      · exact .ok trivial
      · exact .error (settled_of_quotes rfl)
      · exact .error (.inl rfl)

end Parser

theorem parse_hasOwnHint {query : String} {error : ParseError} (refused : parse query = .error error) :
    ∃ found, error = .malformed found ∧ found.fault.HasOwnHint := by
  have settles : Ends (fun _ => True) (fun error : ParseError => error.fault.Settled) (parse query) := by
    unfold parse tokenize
    have scanned := scanFrom_settles 0 query.toList
    generalize scanFrom 0 query.toList = lexemes at scanned ⊢
    cases scanned with
    | error settled => exact .error (Failure.fault_toParseError _ query ▸ settled)
    | ok =>
      exact (parseTokens_settles _).mapError fun failure settled => failure.fault_toParseError query ▸ settled
  obtain ⟨fault, before, notStray, -, rfl⟩ := (parse_ends query).of_error refused
  refine ⟨_, rfl, (settles.of_error refused).resolve_left ?_⟩
  exact fun stray => Bool.false_ne_true (notStray.symm.trans stray)

def Failure.InOrderField (failure : Failure) : Prop := ∃ c field, failure.fault = .characterInOrderField c field

theorem OrderKey.ofWord?_reports (direction : Direction) (offset : Nat) (word : List Char) :
    Ends (fun _ => True) Failure.InOrderField (ofWord? direction offset word) := by
  unfold ofWord?
  split
  · exact .error ⟨_, _, rfl⟩
  · split
    · exact .ok trivial
    · exact .ok trivial

theorem OrderKey.ofPieces_reports (offset : Nat) (pieces : List (List Char)) :
    Ends (fun _ => True) Failure.InOrderField (ofPieces offset pieces) := by
  have first (offset : Nat) (piece : List Char) :
      Ends (fun _ => True) Failure.InOrderField (ofPiece? offset piece) := by
    unfold ofPiece?
    split
    · exact ofWord?_reports _ _ _
    · exact ofWord?_reports _ _ _
  induction pieces generalizing offset with
  | nil => exact .ok trivial
  | cons piece pieces ih =>
    unfold ofPieces
    split
    · next failed => exact .error ((first _ _).of_error failed)
    · exact (ih _).map (fun _ _ => trivial) fun _ => id

theorem parseOrder_hint {order : String} {error : ParseError} (refused : parseOrder order = .error error) :
    ∃ found c field, error = .malformed found ∧ found.fault = .characterInOrderField c field ∧
      found.hint = hintFor field := by
  have reports : Ends (fun _ => True)
      (fun error : ParseError => ∃ c field, error.fault = .characterInOrderField c field) (parseOrder order) :=
    (OrderKey.ofPieces_reports 0 _).mapError fun failure known => failure.fault_toParseError order ▸ known
  obtain ⟨fault, before, -, -, rfl⟩ := (parseOrder_ends order).of_error refused
  obtain ⟨c, field, same⟩ := reports.of_error refused
  cases same
  exact ⟨_, c, field, rfl, rfl, Fault.hintFor_characterInOrderField c field⟩

theorem hints_of_refused_texts (text text' : String) :
    (∀ error error', parse text = .error error → parse text' = .error error' →
      error.fault.wording = error'.fault.wording →
      ∃ found found', error = .malformed found ∧ error' = .malformed found' ∧ found.hint = found'.hint) ∧
    (∀ error error', parseOrder text = .error error → parseOrder text' = .error error' →
      ∃ found found' c c' field field', error = .malformed found ∧ error' = .malformed found' ∧
        found.fault = .characterInOrderField c field ∧ found'.fault = .characterInOrderField c' field' ∧
        (found.hint = found'.hint ↔ hintFor field = hintFor field')) := by
  constructor
  · intro error error' refused refused' alike
    obtain ⟨found, rfl, own⟩ := parse_hasOwnHint refused
    obtain ⟨found', rfl, own'⟩ := parse_hasOwnHint refused'
    have words : found.fault.wording = found'.fault.wording := alike
    refine ⟨found, found', rfl, rfl, ?_⟩
    calc found.hint = hintFor (String.join found.fault.wording) := own
      _ = hintFor (String.join found'.fault.wording) := by rw [words]
      _ = found'.hint := own'.symm
  · intro error error' refused refused'
    obtain ⟨found, c, field, rfl, fault, hint⟩ := parseOrder_hint refused
    obtain ⟨found', c', field', rfl, fault', hint'⟩ := parseOrder_hint refused'
    exact ⟨found, found', c, c', field, field', rfl, rfl, fault, fault', by rw [hint, hint']⟩

theorem hints_of_refused_texts_range :
    parse "range" = .error (.malformed ⟨.wordWithoutOperator "range", "range", 5, ⟨1, 5⟩⟩) ∧
    parse "beatles" = .error (.malformed ⟨.wordWithoutOperator "beatles", "beatles", 7, ⟨1, 7⟩⟩) ∧
    SyntaxError.hint ⟨.wordWithoutOperator "range", "range", 5, ⟨1, 5⟩⟩ =
      SyntaxError.hint ⟨.wordWithoutOperator "beatles", "beatles", 7, ⟨1, 7⟩⟩ ∧
    parseOrder "range!" = .error (.malformed ⟨.characterInOrderField '!' "range!", "range!", 5, ⟨1, 5⟩⟩) ∧
    parseOrder "a range" = .error (.malformed ⟨.characterInOrderField ' ' "a range", "a range", 1, ⟨1, 1⟩⟩) ∧
    SyntaxError.hint ⟨.characterInOrderField '!' "range!", "range!", 5, ⟨1, 5⟩⟩ =
      SyntaxError.hint ⟨.characterInOrderField ' ' "a range", "a range", 1, ⟨1, 1⟩⟩ := by
  have word : scanWord 0 ('r' :: "ange".toList) = .error ⟨.wordWithoutOperator "range", 5⟩ := rfl
  have word' : scanWord 0 ('b' :: "eatles".toList) = .error ⟨.wordWithoutOperator "beatles", 7⟩ := rfl
  have refused : parse "range" = .error (.malformed ⟨.wordWithoutOperator "range", "range", 5, ⟨1, 5⟩⟩) := by
    have scanned : scanFrom 0 "range".toList = _ := scanFrom_refused (by decide) word
    rw [parse, tokenize, scanned]
    rfl
  have refused' : parse "beatles" =
      .error (.malformed ⟨.wordWithoutOperator "beatles", "beatles", 7, ⟨1, 7⟩⟩) := by
    have scanned : scanFrom 0 "beatles".toList = _ := scanFrom_refused (by decide) word'
    rw [parse, tokenize, scanned]
    rfl
  have order : parseOrder "range!" =
      .error (.malformed ⟨.characterInOrderField '!' "range!", "range!", 5, ⟨1, 5⟩⟩) := rfl
  have order' : parseOrder "a range" =
      .error (.malformed ⟨.characterInOrderField ' ' "a range", "a range", 1, ⟨1, 1⟩⟩) := rfl
  obtain ⟨_, _, same, same', queries⟩ := (hints_of_refused_texts _ _).1 _ _ refused refused' rfl
  cases same
  cases same'
  obtain ⟨_, _, _, _, _, _, same, same', fault, fault', orders⟩ :=
    (hints_of_refused_texts _ _).2 _ _ order order'
  cases same
  cases same'
  cases fault
  cases fault'
  exact ⟨refused, refused', queries, order, order', orders.mpr (by decide)⟩

theorem hints_of_order_lists_differ :
    ∃ found found', parseOrder "release date" = .error (.malformed found) ∧
      parseOrder "price range" = .error (.malformed found') ∧ found.fault.wording = found'.fault.wording ∧
      found.hint = none ∧ found'.hint = some "Ranges look like year:[1990 TO 1999]" := by
  refine ⟨⟨.characterInOrderField ' ' "release date", "release date", 7, ⟨1, 7⟩⟩,
    ⟨.characterInOrderField ' ' "price range", "price range", 5, ⟨1, 5⟩⟩, rfl, rfl, rfl, ?_, ?_⟩
  · exact (Fault.hintFor_characterInOrderField ' ' "release date").trans (by decide)
  · exact (Fault.hintFor_characterInOrderField ' ' "price range").trans (by decide)

end Query

end MediaSearch
