import MediaSearch.Query.SyntaxError
import MediaSearch.Text.Ascii
import MediaSearch.Text.Blank

set_option autoImplicit false

/-!
Reading a query into tokens. A query is a row of blocks with white space between them: a parenthesis,
a connective, or a field with its operator and its operand. White space ends a word and a bare value,
never a quoted one.
-/

namespace MediaSearch.Query

open Text (isBlank isWordChar byteLength sameIgnoringCase)

structure Scan where
  lexemes : List Lexeme
  offset : Nat
  rest : List Char

def endsWord (c : Char) : Bool := isBlank c || c == '(' || c == ')'

def endsBound (c : Char) : Bool := isBlank c || c == ']'

def operator? : List Char → Option (Operator × List Char)
  | '<' :: '=' :: rest => some (.atMost, rest)
  | '>' :: '=' :: rest => some (.atLeast, rest)
  | '<' :: rest => some (.less, rest)
  | '>' :: rest => some (.greater, rest)
  | '=' :: rest => some (.exactly, rest)
  | '~' :: rest => some (.regexp, rest)
  | ':' :: rest => some (.contains, rest)
  | _ => none

/-- The value whose opening quote stands right before a text, quotes included, and what follows its
closing quote. -/
def quotedValue? (text : List Char) : Option (List Char × List Char) :=
  match text.dropWhile (· != '"') with
  | [] => none
  | _ :: rest => some ('"' :: text.takeWhile (· != '"') ++ ['"'], rest)

theorem quotedValue?_shorter {text value rest : List Char}
    (read : quotedValue? text = some (value, rest)) : rest.length < text.length := by
  unfold quotedValue? at read
  have bound := (List.dropWhile_sublist (l := text) (· != '"')).length_le
  split at read
  · simp at read
  · next tail dropped =>
    simp only [Option.some.injEq, Prod.mk.injEq] at read
    rw [dropped, List.length_cons, read.2] at bound
    omega

def keyword? (word : List Char) : Option Token :=
  if sameIgnoringCase word "AND".toList then some .and
  else if sameIgnoringCase word "OR".toList then some .or
  else if sameIgnoringCase word "NOT".toList then some .not
  else none

def boundToken (word : List Char) : Token :=
  if sameIgnoringCase word "TO".toList then .to else .value (String.ofList word)

/-- The rest of a range that opened at `start`, up to its closing bracket. -/
def scanRange (start offset : Nat) : List Char → Except Failure Scan
  | [] => .error ⟨.unclosedRange, start⟩
  | c :: rest =>
    if isBlank c then scanRange start (offset + c.utf8Size) rest
    else if c = ']' then .ok ⟨[⟨.rangeClose, offset⟩], offset + 1, rest⟩
    else if c = '"' then
      match read : quotedValue? rest with
      | none => .error ⟨.unclosedQuote, offset⟩
      | some (value, after) =>
        have : after.length < rest.length := quotedValue?_shorter read
        (scanRange start (offset + byteLength value) after).map fun scan =>
          { scan with lexemes := ⟨.value (String.ofList value), offset⟩ :: scan.lexemes }
    else
      let word := c :: rest.takeWhile (!endsBound ·)
      have := (List.dropWhile_sublist (l := rest) (!endsBound ·)).length_le
      (scanRange start (offset + byteLength word) (rest.dropWhile (!endsBound ·))).map fun scan =>
        { scan with lexemes := ⟨boundToken word, offset⟩ :: scan.lexemes }
termination_by text => text.length

def scanOperand (offset : Nat) : List Char → Except Failure Scan
  | [] => .error ⟨.operatorWithoutValue, offset⟩
  | c :: rest =>
    if c = '[' then
      (scanRange offset (offset + 1) rest).map fun scan =>
        { scan with lexemes := ⟨.rangeOpen, offset⟩ :: scan.lexemes }
    else if c = '"' then
      match quotedValue? rest with
      | none => .error ⟨.unclosedQuote, offset⟩
      | some (value, after) =>
        .ok ⟨[⟨.value (String.ofList value), offset⟩], offset + byteLength value, after⟩
    else if endsWord c then .error ⟨.operatorWithoutValue, offset⟩
    else
      let word := c :: rest.takeWhile (!endsWord ·)
      .ok ⟨[⟨.value (String.ofList word), offset⟩], offset + byteLength word,
        rest.dropWhile (!endsWord ·)⟩

def scanWord (offset : Nat) (text : List Char) : Except Failure Scan :=
  let name := text.takeWhile isWordChar
  let after := text.dropWhile isWordChar
  let next := offset + byteLength name
  match operator? after with
  | some (op, operand) =>
    if name.isEmpty then .error ⟨.operatorWithoutField, next⟩
    else
      (scanOperand (next + byteLength op.symbol.toList) operand).map fun scan =>
        { scan with
          lexemes := ⟨.field (String.ofList name), offset⟩ :: ⟨.operator op, next⟩ :: scan.lexemes }
  | none =>
    let word := text.takeWhile (!endsWord ·)
    match keyword? word with
    | some token =>
      .ok ⟨[⟨token, offset⟩], offset + byteLength word, text.dropWhile (!endsWord ·)⟩
    | none =>
      match name, text with
      | [], c :: _ => .error ⟨.unexpectedCharacter c, offset⟩
      | _, _ => .error ⟨.wordWithoutOperator (String.ofList word), offset + byteLength word⟩

theorem exists_ok_of_map_eq_ok {ε α β : Type} {f : α → β} {result : Except ε α} {b : β}
    (mapped : result.map f = .ok b) : ∃ a, result = .ok a ∧ f a = b := by
  cases result with
  | error e => simp [Except.map] at mapped
  | ok a => exact ⟨a, rfl, by simpa [Except.map] using mapped⟩

theorem scanRange_shorter {start offset : Nat} {text : List Char} {scan : Scan}
    (read : scanRange start offset text = .ok scan) : scan.rest.length < text.length := by
  fun_induction scanRange start offset text generalizing scan with
  | case1 => simp at read
  | case2 offset c rest blank ih => have := ih read; simp; omega
  | case3 offset rest => cases read; simp
  | case4 => simp at read
  | case5 offset rest _ _ value after found shorter ih =>
    obtain ⟨inner, tail, rfl⟩ := exists_ok_of_map_eq_ok read
    have := ih tail
    simp
    omega
  | case6 offset c rest =>
    rename_i shorter ih
    obtain ⟨inner, tail, rfl⟩ := exists_ok_of_map_eq_ok read
    have := ih tail
    simp
    omega

theorem scanOperand_shorter {offset : Nat} {text : List Char} {scan : Scan}
    (read : scanOperand offset text = .ok scan) : scan.rest.length < text.length := by
  cases text with
  | nil => simp [scanOperand] at read
  | cons c rest =>
    simp only [scanOperand] at read
    split at read
    · obtain ⟨inner, tail, rfl⟩ := exists_ok_of_map_eq_ok read
      have := scanRange_shorter tail
      simp
      omega
    · split at read
      · split at read
        · simp at read
        · next found =>
          have := quotedValue?_shorter found
          cases read
          simp
          omega
      · split at read
        · simp at read
        · have := (List.dropWhile_sublist (l := rest) (!endsWord ·)).length_le
          cases read
          simp
          omega

theorem operator?_shorter {text rest : List Char} {op : Operator}
    (read : operator? text = some (op, rest)) : rest.length < text.length := by
  unfold operator? at read
  split at read <;> cases read
  all_goals
    simp only [List.length_cons]
    omega

theorem scanWord_shorter {offset : Nat} {c : Char} {rest : List Char} {scan : Scan}
    (word : endsWord c = false) (read : scanWord offset (c :: rest) = .ok scan) :
    scan.rest.length < (c :: rest).length := by
  simp only [scanWord] at read
  split at read
  · next op operand found =>
    split at read
    · simp at read
    · obtain ⟨inner, tail, rfl⟩ := exists_ok_of_map_eq_ok read
      have := scanOperand_shorter tail
      have := operator?_shorter found
      have := (List.dropWhile_sublist (l := c :: rest) isWordChar).length_le
      simp only
      omega
  · split at read
    · have := (List.dropWhile_sublist (l := rest) (!endsWord ·)).length_le
      cases read
      simp [word]
      omega
    · split at read <;> simp at read

def scanFrom (offset : Nat) : List Char → Except Failure (List Lexeme)
  | [] => .ok []
  | c :: rest =>
    if blank : isBlank c then scanFrom (offset + c.utf8Size) rest
    else if opens : c = '(' then (scanFrom (offset + 1) rest).map (⟨.groupOpen, offset⟩ :: ·)
    else if closes : c = ')' then (scanFrom (offset + 1) rest).map (⟨.groupClose, offset⟩ :: ·)
    else
      match read : scanWord offset (c :: rest) with
      | .error failure => .error failure
      | .ok scan =>
        have := Nat.le_of_lt_succ
          (scanWord_shorter (by simp [endsWord, blank, opens, closes]) read)
        (scanFrom scan.offset scan.rest).map (scan.lexemes ++ ·)
termination_by text => text.length

def tokenize (input : String) : Except ParseError (List Lexeme) :=
  (scanFrom 0 input.toList).mapError (Failure.toParseError input)

end MediaSearch.Query
