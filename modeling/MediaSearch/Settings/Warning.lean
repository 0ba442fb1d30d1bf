import MediaSearch.Query.Order
import MediaSearch.Settings
import MediaSearch.Sql.Field

set_option autoImplicit false

namespace MediaSearch

inductive Warning where
  | unknownScope (value : String)
  | invalidOrder (value reason : String)
  | unknownOrderField (name : String)
  | emptyUsername
  | emptyStatementPart (setting : String)
  deriving DecidableEq, Repr

namespace Warning

def message : Warning → String
  | .unknownScope value =>
    "compile.scope '" ++ value ++ "' is not one of all, songs, albums, artists"
  | .invalidOrder value reason => "compile.order '" ++ value ++ "' does not parse: " ++ reason
  | .unknownOrderField name => "compile.order names unknown field '" ++ name ++ "'"
  | .emptyUsername => "compile.username is empty"
  | .emptyStatementPart setting => "compile." ++ setting ++ " is empty"

def ofScope (scope : String) : List Warning :=
  if (Sql.Scope.ofName? scope).isSome then [] else [.unknownScope scope]

def ofOrder (order : String) : List Warning :=
  match Query.parseOrder order with
  | .ok keys =>
    (keys.filter fun key => (Sql.Field.ofName? key.field).isNone).map fun key =>
      .unknownOrderField key.field
  | .error (.malformed error) => [.invalidOrder order error.message]
  | .error (.misplaced _) => []

def ofBlank (value : String) (warning : Warning) : List Warning :=
  if Text.isBlankText value then [warning] else []

end Warning

def Settings.warnings (settings : Settings) : List Warning :=
  Warning.ofScope settings.compile.scope ++
    Warning.ofOrder settings.compile.order ++
    Warning.ofBlank settings.compile.username .emptyUsername ++
    Warning.ofBlank settings.compile.table (.emptyStatementPart "table") ++
    Warning.ofBlank settings.compile.columns (.emptyStatementPart "columns")

end MediaSearch
