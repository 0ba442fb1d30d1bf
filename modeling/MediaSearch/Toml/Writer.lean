set_option autoImplicit false

namespace MediaSearch.Toml

def isControl (c : Char) : Bool :=
  (c.toNat < 0x20 && c != '\t' && c != '\n') || c.toNat == 0x7F

/-- Whether a text has `count` of a character in a row, when `seen` of them stand right before it. -/
def hasRun (quote : Char) (count seen : Nat) : List Char → Bool
  | [] => count ≤ seen
  | c :: rest =>
    if count ≤ seen then true
    else if c = quote then hasRun quote count (seen + 1) rest
    else hasRun quote count 0 rest

inductive TextForm where
  | basic
  | literal
  | longBasic
  | longLiteral
  deriving DecidableEq, Repr

/-- The first form that needs no escapes but for tabs, and else one in double quotes. -/
def TextForm.choose (text : List Char) : TextForm :=
  let plain := !text.any isControl
  if plain && !text.contains '\\' && !text.contains '"' && !text.contains '\n' then .basic
  else if plain && !text.contains '\'' && !text.contains '\n' then .literal
  else if plain && !text.contains '\\' && !hasRun '"' 3 0 text then .longBasic
  else if plain && !hasRun '\'' 3 0 text then .longLiteral
  else if text.contains '\n' then .longBasic
  else .basic

def codeEscape (c : Char) : List Char :=
  let digits := (Nat.toDigits 16 c.toNat).map Char.toUpper
  ['\\', 'u'] ++ List.replicate (4 - digits.length) '0' ++ digits

def writeChar (c : Char) : List Char :=
  if c = '\x08' then ['\\', 'b']
  else if c = '\t' then ['\\', 't']
  else if c = '\x0c' then ['\\', 'f']
  else if c = '\r' then ['\\', 'r']
  else if c = '\\' then ['\\', '\\']
  else if isControl c then codeEscape c
  else [c]

def writeBasic : List Char → List Char
  | [] => []
  | c :: rest =>
    (if c = '"' then ['\\', '"'] else if c = '\n' then ['\\', 'n'] else writeChar c) ++
      writeBasic rest

/-- The inside of a text in tripled double quotes. Of quotes in a row, each third is escaped; `quotes`
of them stand right before the text since the last escape. -/
def writeLongBasic (quotes : Nat) : List Char → List Char
  | [] => []
  | c :: rest =>
    if c = '"' then
      if quotes = 2 then '\\' :: '"' :: writeLongBasic 0 rest
      else '"' :: writeLongBasic (quotes + 1) rest
    else if c = '\n' then '\n' :: writeLongBasic 0 rest
    else writeChar c ++ writeLongBasic 0 rest

def firstBreak (text : List Char) : List Char := if text.contains '\n' then ['\n'] else []

def writeTextAs (text : List Char) : TextForm → List Char
  | .basic => '"' :: writeBasic text ++ ['"']
  | .literal => '\'' :: text ++ ['\'']
  | .longBasic => ['"', '"', '"'] ++ firstBreak text ++ writeLongBasic 0 text ++ ['"', '"', '"']
  | .longLiteral => ['\'', '\'', '\''] ++ firstBreak text ++ text ++ ['\'', '\'', '\'']

def writeText (text : String) : String :=
  String.ofList (writeTextAs text.toList (TextForm.choose text.toList))

end MediaSearch.Toml
