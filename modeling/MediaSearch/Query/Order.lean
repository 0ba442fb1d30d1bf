import MediaSearch.Query.SyntaxError
import MediaSearch.Text.Ascii
import MediaSearch.Text.Blank

set_option autoImplicit false

namespace MediaSearch.Query

open Text (isBlank isWordChar byteLength trim trimStart)

inductive Direction where
  | ascending
  | descending
  deriving DecidableEq, Repr

def Direction.sql : Direction → String
  | .ascending => "ASC"
  | .descending => "DESC"

def Direction.name : Direction → String
  | .ascending => "ascending"
  | .descending => "descending"

structure OrderKey where
  field : String
  direction : Direction
  deriving DecidableEq, Repr

namespace OrderKey

def render (key : OrderKey) : String :=
  match key.direction with
  | .ascending => key.field
  | .descending => "-" ++ key.field

def ofWord? (direction : Direction) (offset : Nat) (word : List Char) :
    Except Failure (Option OrderKey) :=
  match word.dropWhile isWordChar with
  | c :: _ =>
    .error
      { fault := .characterInOrderField c (String.ofList word)
        offset := offset + byteLength (word.takeWhile isWordChar) }
  | [] =>
    if word.isEmpty then .ok none
    else .ok (some { field := String.ofList (word.map Text.asciiLower), direction })

/-- The key that a piece of an order list stands for; the piece starts at byte `offset`. A blank
piece, or a minus sign alone, stands for none. -/
def ofPiece? (offset : Nat) (piece : List Char) : Except Failure (Option OrderKey) :=
  let start := offset + byteLength (piece.takeWhile isBlank)
  match trim piece with
  | '-' :: rest =>
    ofWord? .descending (start + 1 + byteLength (rest.takeWhile isBlank)) (trimStart rest)
  | word => ofWord? .ascending start word

def ofPieces (offset : Nat) : List (List Char) → Except Failure (List OrderKey)
  | [] => .ok []
  | piece :: pieces =>
    match ofPiece? offset piece with
    | .error failure => .error failure
    | .ok key => (ofPieces (offset + byteLength piece + 1) pieces).map (key.toList ++ ·)

end OrderKey

def parseOrder (input : String) : Except ParseError (List OrderKey) :=
  (OrderKey.ofPieces 0 (Text.splitAt ',' input.toList)).mapError (Failure.toParseError input)

end MediaSearch.Query
