import MediaSearch.Text.Search

set_option autoImplicit false

/-!
Paths as texts. Going up from a path looks at its text alone: a name that stands for the directory
above is a name like any other here.
-/

namespace MediaSearch

structure Path where
  text : String
  deriving DecidableEq, Repr

namespace Path

def isName (piece : List Char) : Bool := !piece.isEmpty && piece != ['.']

def splitHead : List Char → List Char × List Char
  | '/' :: rest => (['/'], rest)
  | ['.'] => (['.'], [])
  | '.' :: '/' :: rest => (['.'], '/' :: rest)
  | chars => ([], chars)

def head (path : Path) : List Char := (splitHead path.text.toList).1

def pieces (path : Path) : List (List Char) := Text.splitAt '/' (splitHead path.text.toList).2

def names (path : Path) : List (List Char) := path.pieces.filter isName

/-- Whether two paths differ at most in slashes and single dots that name nothing. -/
def same (left right : Path) : Bool := left.head == right.head && left.names == right.names

def ofPieces (head : List Char) (reversed : List (List Char)) : Path :=
  ⟨String.ofList (head ++ ['/'].intercalate reversed.reverse)⟩

/-- The paths above the one with a start and with some pieces, the last of which comes first. -/
def aboveOf (head : List Char) : List (List Char) → List Path
  | [] => if head = ['.'] then [⟨""⟩] else []
  | piece :: before =>
    if isName piece then
      ofPieces head (before.dropWhile fun piece => !isName piece) :: aboveOf head before
    else aboveOf head before

def above (path : Path) : List Path := aboveOf path.head path.pieces.reverse

def parent? (path : Path) : Option Path := path.above.head?

def child (directory : Path) (name : String) : Path :=
  if directory.text.isEmpty || directory.text.toList.getLast? = some '/' then
    ⟨directory.text ++ name⟩
  else ⟨directory.text ++ "/" ++ name⟩

end Path

end MediaSearch
