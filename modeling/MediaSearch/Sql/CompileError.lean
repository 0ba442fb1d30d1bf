import MediaSearch.Query.SyntaxError
import MediaSearch.Sql.Field
import MediaSearch.Sql.Fragment

set_option autoImplicit false

namespace MediaSearch.Sql

inductive CompileError where
  | parse (error : Query.ParseError)
  | unknownField (name : String)
  -- The operator is a symbol, or a word for the tests that have none.
  | unsupportedOperator (field : Field) (operator : String)
  | invalidLiteral (field : Field) (literal : String)
  | fragment (error : FragmentError)
  deriving DecidableEq, Repr

def ValueType.usage : ValueType → String
  | .text => "Use ':' (contains), '=' (exact) or '~' (regexp)"
  | .exactText => "Use ':' or '=' for exact matches"
  | .integer => "Use ':', '=', '<', '>', '<=', '>=' or a [low TO high] range"
  | .date => "Use ':', '=', '<', '>', '<=', '>=' or a [low TO high] range"
  | .flag => "Use ':' or '=' with yes/no"
  | .computed => "This field can only be used for ordering"

def FragmentError.message : FragmentError → String
  | .conflict kind name existing attempted =>
    "conflicting " ++ kind.name ++ " for alias '" ++ name ++ "': '" ++ existing ++ "' vs '" ++
      attempted ++ "'"
  | .placeholders sql params =>
    toString (placeholderCount sql) ++ " placeholders for " ++ toString params ++ " parameters"

namespace CompileError

def message : CompileError → String
  | .parse (.malformed error) => error.message
  | .parse (.misplaced failure) => failure.fault.message
  | .unknownField name => "unknown field: " ++ name
  | .unsupportedOperator field operator =>
    "operator '" ++ operator ++ "' is not supported for " ++ field.valueType.label ++ " field '" ++
      field.name ++ "'"
  | .invalidLiteral field literal =>
    "invalid " ++ field.valueType.label ++ " value for field '" ++ field.name ++ "': " ++ literal
  | .fragment error => error.message

def hint : CompileError → Option String
  | .parse (.malformed error) => error.hint
  | .parse (.misplaced failure) => Query.hintFor failure.fault.message
  | .unknownField _ => some ("Valid fields are: " ++ ", ".intercalate (Field.all.map Field.name))
  | .unsupportedOperator field _ => some field.valueType.usage
  | .invalidLiteral _ _ => some "Boolean fields accept true/false, yes/no, y/n, 1/0 or null"
  | .fragment _ => none

end CompileError

end MediaSearch.Sql
