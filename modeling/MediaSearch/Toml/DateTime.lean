import MediaSearch.Toml.Number

set_option autoImplicit false

namespace MediaSearch.Toml

def twoDigits? : List Char → Option (Nat × List Char)
  | a :: b :: rest =>
    if isDecimalDigit a && isDecimalDigit b then some (ofDigits 10 [a, b], rest) else none
  | _ => none

def after? (expected : Char) : List Char → Option (List Char)
  | c :: rest => if c = expected then some rest else none
  | [] => none

def isLeapYear (year : Nat) : Bool := year % 4 == 0 && (year % 100 != 0 || year % 400 == 0)

def daysInMonth (year month : Nat) : Nat :=
  if month = 2 then if isLeapYear year then 29 else 28
  else if month = 4 ∨ month = 6 ∨ month = 9 ∨ month = 11 then 30
  else 31

def afterDate? (word : List Char) : Option (List Char) := do
  let (century, rest) ← twoDigits? word
  let (yearOfCentury, rest) ← twoDigits? rest
  let (month, rest) ← twoDigits? (← after? '-' rest)
  let (day, rest) ← twoDigits? (← after? '-' rest)
  let year := 100 * century + yearOfCentury
  if 1 ≤ month && month ≤ 12 && 1 ≤ day && day ≤ daysInMonth year month then some rest else none

def afterFraction? : List Char → Option (List Char)
  | '.' :: c :: rest => if isDecimalDigit c then some (rest.dropWhile isDecimalDigit) else none
  | ['.'] => none
  | word => some word

/-- What follows the seconds of a time, which may be left out. A leap second is the 60th. -/
def afterSeconds? : List Char → Option (List Char)
  | ':' :: rest => do
    let (second, rest) ← twoDigits? rest
    if second ≤ 60 then afterFraction? rest else none
  | word => some word

def afterTime? (word : List Char) : Option (List Char) := do
  let (hour, rest) ← twoDigits? word
  let (minute, rest) ← twoDigits? (← after? ':' rest)
  if hour ≤ 23 && minute ≤ 59 then afterSeconds? rest else none

def isOffset : List Char → Bool
  | [] => true
  | c :: rest =>
    if c = 'Z' ∨ c = 'z' then rest.isEmpty
    else if c = '+' ∨ c = '-' then
      match twoDigits? rest with
      | some (hour, ':' :: rest) =>
        match twoDigits? rest with
        | some (minute, []) => hour ≤ 23 && minute ≤ 59
        | _ => false
      | _ => false
    else false

def isDateTime (word : List Char) : Bool :=
  match afterDate? word with
  | some [] => true
  | some (c :: rest) =>
    if c = 'T' ∨ c = 't' ∨ c = ' ' then
      match afterTime? rest with
      | some offset => isOffset offset
      | none => false
    else false
  | none =>
    match afterTime? word with
    | some [] => true
    | _ => false

end MediaSearch.Toml
