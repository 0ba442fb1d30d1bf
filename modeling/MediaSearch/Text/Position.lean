set_option autoImplicit false

namespace MediaSearch.Text

def byteLength : List Char → Nat
  | [] => 0
  | c :: rest => c.utf8Size + byteLength rest

/-- The characters before a byte offset; none if the offset lies past the end or inside a
character. -/
def before? : List Char → Nat → Option (List Char)
  | _, 0 => some []
  | [], _ + 1 => none
  | c :: rest, offset + 1 =>
    if c.utf8Size ≤ offset + 1 then (before? rest (offset + 1 - c.utf8Size)).map (c :: ·) else none

/-- A place in a text: lines count from 1, and columns count characters from 0. -/
structure Position where
  line : Nat
  column : Nat
  deriving DecidableEq, Repr

def Position.after (before : List Char) : Position :=
  { line := before.count '\n' + 1
    column := (before.reverse.takeWhile (· != '\n')).length }

end MediaSearch.Text
