import MediaSearch.Text.Quoted

set_option autoImplicit false

namespace MediaSearch.Query

inductive Operator where
  | exactly
  | contains
  | regexp
  | less
  | greater
  | atMost
  | atLeast
  deriving DecidableEq, Repr

def Operator.all : List Operator :=
  [.exactly, .contains, .regexp, .less, .greater, .atMost, .atLeast]

def Operator.symbol : Operator → String
  | .exactly => "="
  | .contains => ":"
  | .regexp => "~"
  | .less => "<"
  | .greater => ">"
  | .atMost => "<="
  | .atLeast => ">="

def Operator.name : Operator → String
  | .exactly => "eq"
  | .contains => "fuzzy_eq"
  | .regexp => "regexp"
  | .less => "lt"
  | .greater => "gt"
  | .atMost => "lte"
  | .atLeast => "gte"

def Operator.label : Operator → String
  | .exactly => "Eq"
  | .contains => "FuzzyEq"
  | .regexp => "Regexp"
  | .less => "Lt"
  | .greater => "Gt"
  | .atMost => "Lte"
  | .atLeast => "Gte"

def Operator.ofSymbol? (symbol : String) : Option Operator :=
  Operator.all.find? (·.symbol == symbol)

inductive Token where
  | field (name : String)
  | operator (op : Operator)
  -- A value as written, with its quotes if it has them.
  | value (text : String)
  | groupOpen
  | groupClose
  | rangeOpen
  | rangeClose
  | to
  | and
  | or
  | not
  deriving DecidableEq, Repr

def Token.label : Token → String
  | .field name => "Field(" ++ Text.quoted name ++ ")"
  | .operator op => "Op(" ++ op.label ++ ")"
  | .value text => "Value(" ++ Text.quoted text ++ ")"
  | .groupOpen => "LParen"
  | .groupClose => "RParen"
  | .rangeOpen => "LBracket"
  | .rangeClose => "RBracket"
  | .to => "To"
  | .and => "And"
  | .or => "Or"
  | .not => "Not"

structure Lexeme where
  token : Token
  offset : Nat
  deriving DecidableEq, Repr

end MediaSearch.Query
