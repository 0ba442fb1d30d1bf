import MediaSearch.Text.Search

set_option autoImplicit false

/-!
Texts in a TOML document: in double quotes with escapes, or in single quotes as they stand; on one
line, or between tripled quotes on any number of lines. Every reader starts behind the opening quotes,
and gives the text and what follows the closing quotes.
-/

namespace MediaSearch.Toml

/-- The characters that stand for themselves in a text on one line and in a comment: all but the
controls, of which only the tab is one. -/
def isPlain (c : Char) : Bool := c == '\t' || (0x20 ≤ c.toNat && c.toNat != 0x7F)

def isSpace (c : Char) : Bool := c == ' ' || c == '\t'

def hexValue? (c : Char) : Option Nat :=
  if '0' ≤ c ∧ c ≤ '9' then some (c.toNat - '0'.toNat)
  else if 'a' ≤ c ∧ c ≤ 'f' then some (c.toNat - 'a'.toNat + 10)
  else if 'A' ≤ c ∧ c ≤ 'F' then some (c.toNat - 'A'.toNat + 10)
  else none

def hexNumber? (value : Nat) : List Char → Option Nat
  | [] => some value
  | c :: rest =>
    match hexValue? c with
    | some digit => hexNumber? (16 * value + digit) rest
    | none => none

def codeEscape? (count : Nat) (text : List Char) : Option (Char × List Char) :=
  if text.length < count then none
  else
    match hexNumber? 0 (text.take count) with
    | some code => if code.isValidChar then some (Char.ofNat code, text.drop count) else none
    | none => none

def letterEscape? (c : Char) : Option Char :=
  if c = 'b' then some '\x08'
  else if c = 't' then some '\t'
  else if c = 'n' then some '\n'
  else if c = 'f' then some '\x0c'
  else if c = 'r' then some '\r'
  else if c = 'e' then some '\x1b'
  else if c = '"' then some '"'
  else if c = '\\' then some '\\'
  else none

def codeLength? (c : Char) : Option Nat :=
  if c = 'x' then some 2 else if c = 'u' then some 4 else if c = 'U' then some 8 else none

def escape? : List Char → Option (Char × List Char)
  | [] => none
  | c :: rest =>
    match letterEscape? c with
    | some escaped => some (escaped, rest)
    | none =>
      match codeLength? c with
      | some count => codeEscape? count rest
      | none => none

theorem codeEscape?_le {count : Nat} {text rest : List Char} {c : Char}
    (read : codeEscape? count text = some (c, rest)) : rest.length ≤ text.length := by
  simp only [codeEscape?] at read
  split at read
  · simp at read
  · split at read
    · split at read
      · simp only [Option.some.injEq, Prod.mk.injEq] at read
        rw [← read.2]
        simp
      · simp at read
    · simp at read

theorem escape?_shorter {text rest : List Char} {c : Char}
    (read : escape? text = some (c, rest)) : rest.length < text.length := by
  cases text with
  | nil => simp [escape?] at read
  | cons first tail =>
    simp only [escape?] at read
    split at read
    · simp only [Option.some.injEq, Prod.mk.injEq] at read
      simp [read.2]
    · split at read
      · exact Nat.lt_succ_of_le (codeEscape?_le read)
      · simp at read

def readBasic : List Char → Option (List Char × List Char)
  | [] => none
  | c :: rest =>
    if c = '"' then some ([], rest)
    else if c = '\\' then
      match read : escape? rest with
      | none => none
      | some (escaped, after) =>
        have := escape?_shorter read
        (readBasic after).map fun (text, tail) => (escaped :: text, tail)
    else if isPlain c then (readBasic rest).map fun (text, tail) => (c :: text, tail)
    else none
termination_by text => text.length

def readLiteral : List Char → Option (List Char × List Char)
  | [] => none
  | c :: rest =>
    if c = '\'' then some ([], rest)
    else if isPlain c then (readLiteral rest).map fun (text, tail) => (c :: text, tail)
    else none

def skipBlankLines : List Char → List Char
  | [] => []
  | c :: rest =>
    if c = '\r' then if rest.head? = some '\n' then skipBlankLines rest else c :: rest
    else if isSpace c || c == '\n' then skipBlankLines rest
    else c :: rest

theorem skipBlankLines_le (text : List Char) : (skipBlankLines text).length ≤ text.length := by
  induction text with
  | nil => simp [skipBlankLines]
  | cons c rest ih =>
    simp only [skipBlankLines]
    repeat' split
    all_goals simp; try omega

/-- What follows a line break that a backslash hides, with the blanks around it; the backslash has
been read. -/
def afterHiddenBreak? (text : List Char) : Option (List Char) :=
  match text.dropWhile isSpace with
  | '\n' :: rest => some (skipBlankLines rest)
  | '\r' :: '\n' :: rest => some (skipBlankLines rest)
  | _ => none

theorem afterHiddenBreak?_shorter {text rest : List Char}
    (read : afterHiddenBreak? text = some rest) : rest.length < text.length := by
  have bound := (List.dropWhile_sublist (l := text) isSpace).length_le
  simp only [afterHiddenBreak?] at read
  split at read
  · next tail dropped =>
    have := skipBlankLines_le tail
    simp only [Option.some.injEq] at read
    rw [dropped, List.length_cons] at bound
    rw [← read]
    omega
  · next tail dropped =>
    have := skipBlankLines_le tail
    simp only [Option.some.injEq] at read
    rw [dropped, List.length_cons, List.length_cons] at bound
    rw [← read]
    omega
  · simp at read

def afterTwo? (quote : Char) : List Char → Option (List Char)
  | first :: second :: rest => if first = quote ∧ second = quote then some rest else none
  | _ => none

/-- The quotes right behind three of them: up to two more belong to the text. -/
def closingQuotes (quote : Char) : List Char → List Char × List Char
  | first :: second :: rest =>
    if first = quote then
      if second = quote then ([first, second], rest) else ([first], second :: rest)
    else ([], first :: second :: rest)
  | [first] => if first = quote then ([first], []) else ([], [first])
  | [] => ([], [])

def readLongBasic : List Char → Option (List Char × List Char)
  | [] => none
  | c :: rest =>
    if c = '"' then
      match afterTwo? '"' rest with
      | some after => some (closingQuotes '"' after)
      | none => (readLongBasic rest).map fun (text, tail) => (c :: text, tail)
    else if c = '\\' then
      match hidden : afterHiddenBreak? rest with
      | some after =>
        have := afterHiddenBreak?_shorter hidden
        readLongBasic after
      | none =>
        match read : escape? rest with
        | none => none
        | some (escaped, after) =>
          have := escape?_shorter read
          (readLongBasic after).map fun (text, tail) => (escaped :: text, tail)
    else if isPlain c || c == '\n' || (c == '\r' && rest.head? == some '\n') then
      (readLongBasic rest).map fun (text, tail) => (c :: text, tail)
    else none
termination_by text => text.length

def readLongLiteral : List Char → Option (List Char × List Char)
  | [] => none
  | c :: rest =>
    if c = '\'' then
      match afterTwo? '\'' rest with
      | some after => some (closingQuotes '\'' after)
      | none => (readLongLiteral rest).map fun (text, tail) => (c :: text, tail)
    else if isPlain c || c == '\n' || (c == '\r' && rest.head? == some '\n') then
      (readLongLiteral rest).map fun (text, tail) => (c :: text, tail)
    else none

theorem afterTwo?_le {quote : Char} {text rest : List Char}
    (read : afterTwo? quote text = some rest) : rest.length ≤ text.length := by
  unfold afterTwo? at read
  split at read
  · split at read
    · simp only [Option.some.injEq] at read
      rw [← read]
      simp
      omega
    · simp at read
  · simp at read

theorem closingQuotes_le (quote : Char) (text : List Char) :
    (closingQuotes quote text).2.length ≤ text.length := by
  unfold closingQuotes
  repeat' split
  all_goals simp; try omega

theorem exists_some_of_map_cons {c : Char} {read : Option (List Char × List Char)}
    {text rest : List Char}
    (mapped : (read.map fun (text, tail) => (c :: text, tail)) = some (text, rest)) :
    ∃ tail, read = some (tail, rest) := by
  cases read with
  | none => simp at mapped
  | some pair =>
    simp only [Option.map_some, Option.some.injEq, Prod.mk.injEq] at mapped
    exact ⟨pair.1, by rw [← mapped.2]⟩

theorem readBasic_le {text value rest : List Char} (read : readBasic text = some (value, rest)) :
    rest.length ≤ text.length := by
  fun_induction readBasic text generalizing value rest with
  | case1 => simp at read
  | case2 tail => simp_all
  | case3 => simp at read
  | case4 tail _ escaped after found shorter ih =>
    obtain ⟨inner, more⟩ := exists_some_of_map_cons read
    have := ih more
    simp
    omega
  | case5 c tail _ _ _ ih =>
    obtain ⟨inner, more⟩ := exists_some_of_map_cons read
    have := ih more
    simp
    omega
  | case6 => simp at read

theorem readLiteral_le {text value rest : List Char}
    (read : readLiteral text = some (value, rest)) : rest.length ≤ text.length := by
  fun_induction readLiteral text generalizing value rest with
  | case1 => simp at read
  | case2 tail => simp_all
  | case3 c tail _ _ ih =>
    obtain ⟨inner, more⟩ := exists_some_of_map_cons read
    have := ih more
    simp
    omega
  | case4 => simp at read

theorem readLongBasic_le {text value rest : List Char}
    (read : readLongBasic text = some (value, rest)) : rest.length ≤ text.length := by
  fun_induction readLongBasic text generalizing value rest with
  | case1 => simp at read
  | case2 tail after found =>
    have closing := closingQuotes_le '"' after
    have := afterTwo?_le found
    simp only [Option.some.injEq] at read
    simp only [read, List.length_cons] at closing ⊢
    omega
  | case3 tail found ih =>
    obtain ⟨inner, more⟩ := exists_some_of_map_cons read
    have := ih more
    simp
    omega
  | case4 tail _ after hidden shorter ih => have := ih read; simp; omega
  | case5 => simp at read
  | case6 tail _ _ escaped after found shorter ih =>
    obtain ⟨inner, more⟩ := exists_some_of_map_cons read
    have := ih more
    simp
    omega
  | case7 c tail _ _ _ ih =>
    obtain ⟨inner, more⟩ := exists_some_of_map_cons read
    have := ih more
    simp
    omega
  | case8 => simp at read

theorem readLongLiteral_le {text value rest : List Char}
    (read : readLongLiteral text = some (value, rest)) : rest.length ≤ text.length := by
  fun_induction readLongLiteral text generalizing value rest with
  | case1 => simp at read
  | case2 tail after found =>
    have closing := closingQuotes_le '\'' after
    have := afterTwo?_le found
    simp only [Option.some.injEq] at read
    simp only [read, List.length_cons] at closing ⊢
    omega
  | case3 tail found ih =>
    obtain ⟨inner, more⟩ := exists_some_of_map_cons read
    have := ih more
    simp
    omega
  | case4 c tail _ _ ih =>
    obtain ⟨inner, more⟩ := exists_some_of_map_cons read
    have := ih more
    simp
    omega
  | case5 => simp at read

def dropFirstBreak : List Char → List Char
  | '\n' :: rest => rest
  | '\r' :: '\n' :: rest => rest
  | text => text

theorem dropFirstBreak_le (text : List Char) : (dropFirstBreak text).length ≤ text.length := by
  unfold dropFirstBreak
  split <;> simp; try omega

structure ReadText where
  value : List Char
  isLong : Bool
  rest : List Char

def ReadText.of? (isLong : Bool) : Option (List Char × List Char) → Option ReadText
  | some (value, rest) => some ⟨value, isLong, rest⟩
  | none => none

def readQuoted (quote : Char) (short long : List Char → Option (List Char × List Char))
    (text : List Char) : Option ReadText :=
  match afterTwo? quote text with
  | some rest => ReadText.of? true (long (dropFirstBreak rest))
  | none => ReadText.of? false (short text)

theorem ReadText.of?_eq_some {isLong : Bool} {read : Option (List Char × List Char)}
    {found : ReadText} (built : ReadText.of? isLong read = some found) :
    read = some (found.value, found.rest) := by
  unfold ReadText.of? at built
  split at built
  · simp only [Option.some.injEq] at built
    rw [← built]
  · simp at built

theorem readQuoted_le {quote : Char} {short long : List Char → Option (List Char × List Char)}
    (shortLe : ∀ {text value rest}, short text = some (value, rest) → rest.length ≤ text.length)
    (longLe : ∀ {text value rest}, long text = some (value, rest) → rest.length ≤ text.length)
    {text : List Char} {found : ReadText} (read : readQuoted quote short long text = some found) :
    found.rest.length ≤ text.length := by
  unfold readQuoted at read
  split at read
  · next rest two =>
    have := longLe (ReadText.of?_eq_some read)
    have := dropFirstBreak_le rest
    have := afterTwo?_le two
    omega
  · exact shortLe (ReadText.of?_eq_some read)

def readDoubleQuoted (text : List Char) : Option ReadText :=
  readQuoted '"' readBasic readLongBasic text

theorem readDoubleQuoted_le {text : List Char} {found : ReadText}
    (read : readDoubleQuoted text = some found) : found.rest.length ≤ text.length :=
  readQuoted_le readBasic_le readLongBasic_le read

def readSingleQuoted (text : List Char) : Option ReadText :=
  readQuoted '\'' readLiteral readLongLiteral text

theorem readSingleQuoted_le {text : List Char} {found : ReadText}
    (read : readSingleQuoted text = some found) : found.rest.length ≤ text.length :=
  readQuoted_le readLiteral_le readLongLiteral_le read

end MediaSearch.Toml
