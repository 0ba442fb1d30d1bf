import MediaSearch.Toml.Item

set_option autoImplicit false

namespace MediaSearch.Toml

inductive Token where
  | newline
  | equals
  | comma
  -- An opening bracket, and whether another follows at once.
  | bracketOpen (doubled : Bool)
  | bracketClose (doubled : Bool)
  | braceOpen
  | braceClose
  -- Characters without quotes: parts of a key with their dots, a number, a date, … Tabs may lie
  -- between them.
  | word (text : List Char)
  | text (value : String) (isLong : Bool)
  deriving DecidableEq, Repr

def isQuote (c : Char) : Bool := c == '"' || c == '\''

def endsWord (c : Char) : Bool :=
  c == ' ' || c == '\n' || c == '\r' || c == '#' || c == '=' || c == ',' || c == '[' || c == ']' ||
    c == '\x7b' || c == '\x7d'

/-- The rest of a word behind its character `last`, and what comes after it. A tab belongs to the
word if more of it follows. A quote ends the word only behind a dot or a tab, where a text starts. -/
def takeWord (last : Char) : List Char → List Char × List Char
  | [] => ([], [])
  | c :: rest =>
    if endsWord c || (isQuote c && (last == '.' || last == '\t')) then ([], c :: rest)
    else
      let (word, after) := takeWord c rest
      if c == '\t' && word.isEmpty then ([], c :: rest) else (c :: word, after)

theorem takeWord_le (last : Char) (text : List Char) :
    (takeWord last text).2.length ≤ text.length := by
  induction text generalizing last with
  | nil => simp [takeWord]
  | cons c rest ih =>
    simp only [takeWord]
    split
    · simp
    · split
      · simp
      · exact Nat.le_succ_of_le (ih c)

def isDateBeforeTime (word rest : List Char) : Bool :=
  match afterDate? word, rest with
  | some [], ' ' :: c :: _ => isDecimalDigit c
  | _, _ => false

def splitWord (first : Char) (text : List Char) : List Char × List Char :=
  let (tail, rest) := takeWord first text
  if isDateBeforeTime (first :: tail) rest then
    let (time, rest) := takeWord ' ' (rest.drop 1)
    (first :: tail ++ ' ' :: time, rest)
  else (first :: tail, rest)

theorem splitWord_le (first : Char) (text : List Char) :
    (splitWord first text).2.length ≤ text.length := by
  have tail := takeWord_le first text
  have time := takeWord_le ' ' ((takeWord first text).2.drop 1)
  simp only [splitWord]
  split
  · rw [List.length_drop] at time
    exact Nat.le_trans time (Nat.le_trans (Nat.sub_le _ _) tail)
  · exact tail

def tokens? : List Char → Option (List Token)
  | [] => some []
  | c :: rest =>
    if isSpace c then tokens? rest
    else if c = '\n' then (tokens? rest).map (.newline :: ·)
    else if c = '\r' then if rest.head? = some '\n' then tokens? rest else none
    else if c = '#' then
      have := (List.dropWhile_sublist (l := rest) isPlain).length_le
      tokens? (rest.dropWhile isPlain)
    else if c = '=' then (tokens? rest).map (.equals :: ·)
    else if c = ',' then (tokens? rest).map (.comma :: ·)
    else if c = '[' then (tokens? rest).map (.bracketOpen (rest.head? == some '[') :: ·)
    else if c = ']' then (tokens? rest).map (.bracketClose (rest.head? == some ']') :: ·)
    else if c = '\x7b' then (tokens? rest).map (.braceOpen :: ·)
    else if c = '\x7d' then (tokens? rest).map (.braceClose :: ·)
    else if c = '"' then
      match read : readDoubleQuoted rest with
      | none => none
      | some found =>
        have := readDoubleQuoted_le read
        (tokens? found.rest).map (.text (String.ofList found.value) found.isLong :: ·)
    else if c = '\'' then
      match read : readSingleQuoted rest with
      | none => none
      | some found =>
        have := readSingleQuoted_le read
        (tokens? found.rest).map (.text (String.ofList found.value) found.isLong :: ·)
    else
      have := splitWord_le c rest
      (tokens? (splitWord c rest).2).map (.word (splitWord c rest).1 :: ·)
termination_by text => text.length

end MediaSearch.Toml
