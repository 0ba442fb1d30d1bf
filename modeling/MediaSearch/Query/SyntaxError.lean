import MediaSearch.Query.Token
import MediaSearch.Text.Lines
import MediaSearch.Text.Position
import MediaSearch.Text.Search

set_option autoImplicit false

namespace MediaSearch.Query

open Text (Position)

inductive Fault where
  | operatorWithoutField
  | unexpectedCharacter (c : Char)
  | wordWithoutOperator (word : String)
  | unclosedQuote
  | operatorWithoutValue
  | unclosedRange
  | emptyQuery
  | unexpectedClose
  | unexpectedToken (token : Token)
  | unexpectedOr
  | unexpectedAnd
  | unexpectedEnd
  | nestedTooDeeply
  | emptyGroup
  -- The query ended inside a group; the fault lies at the group's start.
  | unclosedGroup
  -- Something other than the group's end followed its expression.
  | closeExpected
  | fieldExpected
  | operatorExpected (field : String)
  | valueExpected (field : String) (op : Operator)
  | rangeAfterOperator (op : Operator)
  | lowerBoundExpected
  | toExpected
  | upperBoundExpected
  | rangeEndExpected
  | characterInOrderField (c : Char) (field : String)
  | stated (text : String)
  deriving DecidableEq, Repr

def Fault.message : Fault → String
  | .operatorWithoutField => "expected field name before operator"
  | .unexpectedCharacter c => "unexpected character '" ++ c.toString ++ "'"
  | .wordWithoutOperator word => "expected operator after '" ++ word ++ "'"
  | .unclosedQuote => "unclosed quote"
  | .operatorWithoutValue => "expected value after operator"
  | .unclosedRange => "unclosed range, expected ']'"
  | .emptyQuery => "expected expression"
  | .unexpectedClose => "unexpected closing parenthesis"
  | .unexpectedToken token => "unexpected token: " ++ token.label
  | .unexpectedOr => "unexpected OR (needs expression before it)"
  | .unexpectedAnd => "unexpected AND (needs expression before it)"
  | .unexpectedEnd => "unexpected end of query"
  | .nestedTooDeeply => "query nested too deeply"
  | .emptyGroup => "expected expression inside parentheses"
  | .unclosedGroup => "expected closing parenthesis"
  | .closeExpected => "expected closing parenthesis"
  | .fieldExpected => "expected field name"
  | .operatorExpected field => "expected operator after '" ++ field ++ "'"
  | .valueExpected field op => "expected value after '" ++ field ++ op.symbol ++ "'"
  | .rangeAfterOperator op => "range requires ':' or '=', found '" ++ op.symbol ++ "'"
  | .lowerBoundExpected => "expected lower bound in range"
  | .toExpected => "expected TO in range"
  | .upperBoundExpected => "expected upper bound in range"
  | .rangeEndExpected => "expected ']' to close range"
  | .characterInOrderField c field =>
    "unexpected character '" ++ c.toString ++ "' in order field '" ++ field ++ "'"
  | .stated text => text

/-- Hints, each with the words of a message that call for it; the first that applies is given. -/
def hints : List (String × String) :=
  [("unclosed quote", "Add a closing quote (\") to complete the value"),
   ("closing parenthesis", "Add a closing parenthesis ) to match the opening one"),
   ("expected operator",
    "Predicates look like field:value, field=value, field~regexp or field>=value"),
   ("nested too deeply", "Remove redundant parentheses or repeated NOTs"),
   ("range", "Ranges look like year:[1990 TO 1999]"),
   ("OR", "AND and OR require expressions on both sides, e.g. 'genre:rock OR genre:pop'"),
   ("AND", "AND and OR require expressions on both sides, e.g. 'genre:rock OR genre:pop'")]

def hintFor (message : String) : Option String :=
  (hints.find? fun hint => Text.occursIn hint.1.toList message.toList).map (·.2)

structure Failure where
  fault : Fault
  offset : Nat
  deriving DecidableEq, Repr

structure SyntaxError where
  fault : Fault
  input : String
  offset : Nat
  position : Position
  deriving DecidableEq, Repr

namespace SyntaxError

/-- The error at a byte offset of `input`; an offset past the end stands for the end. There is none
at an offset inside a character. -/
def at? (fault : Fault) (input : String) (offset : Nat) : Option SyntaxError :=
  let offset := min offset (Text.byteLength input.toList)
  (Text.before? input.toList offset).map fun before =>
    { fault, input, offset, position := Position.after before }

def atEnd? (fault : Fault) (input : String) : Option SyntaxError :=
  at? fault input (Text.byteLength input.toList)

def hint (error : SyntaxError) : Option String := hintFor error.fault.message

def message (error : SyntaxError) : String :=
  "line " ++ toString error.position.line ++ ":" ++ toString error.position.column ++ " " ++
    error.fault.message

def sourceLine (error : SyntaxError) : String :=
  ((Text.lines error.input)[error.position.line - 1]?).getD ""

def context (error : SyntaxError) : String :=
  "query syntax error: " ++ error.fault.message ++ "\n  " ++ error.sourceLine ++ "\n  " ++
    String.ofList (List.replicate error.position.column ' ') ++ "^" ++
    match error.hint with
    | some hint => "\nhint: " ++ hint
    | none => ""

end SyntaxError

inductive ParseError where
  | malformed (error : SyntaxError)
  -- A failure whose offset lies inside a character, so that no place can be given for it.
  | misplaced (failure : Failure)
  deriving DecidableEq, Repr

def Failure.toParseError (input : String) (failure : Failure) : ParseError :=
  match SyntaxError.at? failure.fault input failure.offset with
  | some error => .malformed error
  | none => .misplaced failure

end MediaSearch.Query
