set_option autoImplicit false

namespace MediaSearch.Text

/-- The lower case form of `A` to `Z`; every other character is its own. -/
def asciiLower (c : Char) : Char := c.toLower

def asciiLowercase (text : String) : String := String.ofList (text.toList.map asciiLower)

def sameIgnoringCase (left right : List Char) : Bool :=
  left.map asciiLower == right.map asciiLower

def isWordChar (c : Char) : Bool := c.isAlphanum || c == '_'

end MediaSearch.Text
