import MediaSearch.Text.Ascii
import MediaSearch.Text.Quoted

set_option autoImplicit false

namespace MediaSearch

inductive Level where
  | error
  | warn
  | info
  | debug
  | trace
  deriving DecidableEq, Repr

namespace Level

def every : List Level := [.error, .warn, .info, .debug, .trace]

def rank : Level → Nat
  | .error => 1
  | .warn => 2
  | .info => 3
  | .debug => 4
  | .trace => 5

def name : Level → String
  | .error => "ERROR"
  | .warn => "WARN"
  | .info => "INFO"
  | .debug => "DEBUG"
  | .trace => "TRACE"

end Level

/-- The least important level that is still shown; none shows nothing. -/
abbrev Verbosity := Option Level

namespace Verbosity

def shows : Verbosity → Level → Bool
  | none, _ => false
  | some least, level => level.rank ≤ least.rank

def ofName? (name : String) : Option Verbosity :=
  if Text.sameIgnoringCase "off".toList name.toList then some none
  else
    (Level.every.find? fun level =>
      Text.sameIgnoringCase level.name.toList name.toList).map some

def named (name : Option String) : Verbosity := (name.bind ofName?).getD (some .warn)

end Verbosity

structure Event where
  level : Level
  message : String
  values : List (String × String) := []
  deriving DecidableEq, Repr

namespace Event

/-- A message cannot steer a terminal: the characters that could are written as escapes. -/
def harmless (c : Char) : List Char :=
  let code := c.toNat
  if code = 0x07 || code = 0x08 || code = 0x0C || code = 0x1B || code = 0x7F then
    let digits := Text.hexDigits code
    ['\\', 'x'] ++ List.replicate (2 - digits.length) '0' ++ digits
  else if 0x80 ≤ code && code ≤ 0x9F then Text.codeEscape c
  else [c]

def line (event : Event) : String :=
  event.level.name ++ " " ++ String.ofList (event.message.toList.flatMap harmless) ++
    String.join (event.values.map fun (name, value) => " " ++ name ++ "=" ++ value)

end Event

end MediaSearch
