import MediaSearch.Toml.Text

set_option autoImplicit false

namespace MediaSearch.Toml

/-- A number with a fraction or an exponent. The sign does not matter to any rule here. -/
inductive RealNumber where
  | infinite
  | notANumber
  | decimal (coefficient : Nat) (exponent : Int)
  deriving DecidableEq, Repr

def plainDigits? (isDigit : Char → Bool) : List Char → Option (List Char)
  | [] => none
  | [c] => if isDigit c then some [c] else none
  | c :: '_' :: rest => if isDigit c then (plainDigits? isDigit rest).map (c :: ·) else none
  | c :: rest => if isDigit c then (plainDigits? isDigit rest).map (c :: ·) else none

def ofDigits (base : Nat) (digits : List Char) : Nat :=
  digits.foldl (fun value c => base * value + (hexValue? c).getD 0) 0

def isDecimalDigit (c : Char) : Bool := '0' ≤ c && c ≤ '9'

def isBinaryDigit (c : Char) : Bool := c == '0' || c == '1'

def isOctalDigit (c : Char) : Bool := '0' ≤ c && c ≤ '7'

def isHexDigit (c : Char) : Bool := (hexValue? c).isSome

def wholeDigits? (word : List Char) : Option (List Char) :=
  match plainDigits? isDecimalDigit word with
  | some ('0' :: _ :: _) => none
  | digits => digits

def splitSign : List Char → Bool × List Char
  | '-' :: rest => (true, rest)
  | '+' :: rest => (false, rest)
  | word => (false, word)

def signed (negative : Bool) (value : Nat) : Int := if negative then -(value : Int) else value

def integer? : List Char → Option Int
  | '0' :: 'x' :: rest => (plainDigits? isHexDigit rest).map fun digits => ofDigits 16 digits
  | '0' :: 'o' :: rest => (plainDigits? isOctalDigit rest).map fun digits => ofDigits 8 digits
  | '0' :: 'b' :: rest => (plainDigits? isBinaryDigit rest).map fun digits => ofDigits 2 digits
  | word =>
    let (negative, digits) := splitSign word
    (wholeDigits? digits).map fun digits => signed negative (ofDigits 10 digits)

/-- Whether every underscore in a word stands between two hexadecimal digits. `isBehindDigit` tells
whether a digit comes before the word. -/
def dividesDigits (isBehindDigit : Bool) : List Char → Bool
  | [] => true
  | c :: rest =>
    (c != '_' || (isBehindDigit && rest.head?.any isHexDigit)) && dividesDigits (isHexDigit c) rest

/-- Whether a word may be part of a document in the place of an integer: a base of which the digits
are missing, or decimal digits with underscores, behind the first of which only the neighbours of an
underscore and the marks of a real number matter. `integer?` tells whether it writes a number. -/
def isIntegerLike (word : List Char) : Bool :=
  word == "0x".toList || word == "0o".toList || word == "0b".toList ||
    let digits := (splitSign word).2
    match digits.takeWhile isDecimalDigit, digits.dropWhile isDecimalDigit with
    | first :: _, '_' :: rest =>
      first != '0' && dividesDigits true ('_' :: rest) &&
        !rest.any fun c => c == '.' || c == 'e' || c == 'E'
    | _, _ => false

def exponent? (word : List Char) : Option Int :=
  let (negative, digits) := splitSign word
  (plainDigits? isDecimalDigit digits).map fun digits => signed negative (ofDigits 10 digits)

def realTail? (whole fraction : List Char) : List Char → Option RealNumber
  | [] =>
    if fraction.isEmpty then none
    else some (.decimal (ofDigits 10 (whole ++ fraction)) (-(fraction.length : Int)))
  | c :: rest =>
    if c = 'e' ∨ c = 'E' then
      (exponent? rest).map fun exponent =>
        .decimal (ofDigits 10 (whole ++ fraction)) (exponent - fraction.length)
    else none

def isDigitOrUnderscore (c : Char) : Bool := isDecimalDigit c || c == '_'

def real? (word : List Char) : Option RealNumber :=
  let unsigned := (splitSign word).2
  if unsigned = "inf".toList then some .infinite
  else if unsigned = "nan".toList then some .notANumber
  else
    match wholeDigits? (unsigned.takeWhile isDigitOrUnderscore) with
    | none => none
    | some whole =>
      match unsigned.dropWhile isDigitOrUnderscore with
      | '.' :: rest =>
        match plainDigits? isDecimalDigit (rest.takeWhile isDigitOrUnderscore) with
        | none => none
        | some fraction => realTail? whole fraction (rest.dropWhile isDigitOrUnderscore)
      | rest => realTail? whole [] rest

def integerFits (value : Int) : Bool :=
  -(Nat.pow 2 127 : Int) ≤ value && value < (Nat.pow 2 128 : Int)

/-- The least number that rounds to infinity in double precision. -/
def doubleLimit : Nat := Nat.pow 2 1024 - Nat.pow 2 970

/-- Whether a number has a value in double precision: rounding a decimal must not give infinity. The
tests on the exponent keep the powers small. -/
def RealNumber.fits : RealNumber → Bool
  | .infinite => true
  | .notANumber => true
  | .decimal coefficient exponent =>
    let digits : Int := (Nat.toDigits 10 coefficient).length
    if coefficient = 0 || digits + exponent ≤ 308 then true
    else if 310 ≤ digits + exponent then false
    else if 0 ≤ exponent then coefficient * Nat.pow 10 exponent.toNat < doubleLimit
    else coefficient < doubleLimit * Nat.pow 10 (-exponent).toNat

end MediaSearch.Toml
