set_option autoImplicit false

namespace MediaSearch.Text

/-- A finished line, given backwards: a carriage return right before the line feed is dropped. -/
def closedLine : List Char → List Char
  | '\r' :: rest => rest.reverse
  | line => line.reverse

def linesFrom (line : List Char) : List Char → List (List Char)
  | [] => if line.isEmpty then [] else [line.reverse]
  | '\n' :: rest => closedLine line :: linesFrom [] rest
  | c :: rest => linesFrom (c :: line) rest

/-- The lines of a text. Each ends at a line feed or at the end of the text, and a line feed at the
very end opens no further line. -/
def lines (text : String) : List String := (linesFrom [] text.toList).map String.ofList

end MediaSearch.Text
