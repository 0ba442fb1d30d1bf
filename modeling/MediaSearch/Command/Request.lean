import MediaSearch.Sql.Scope

set_option autoImplicit false

namespace MediaSearch.Command

/-- A query to compile. What is not given is taken from the settings. -/
structure CompileRequest where
  query : String
  order : Option String := none
  username : Option String := none
  scope : Option Sql.Scope := none
  table : Option String := none
  columns : Option String := none
  json : Bool := false
  explain : Bool := false
  deriving DecidableEq, Repr

inductive Request where
  | compile (request : CompileRequest)
  | fields (json : Bool)
  | init (inHome force : Bool)
  | settings
  deriving DecidableEq, Repr

inductive Usage where
  | helpAsked
  | versionAsked
  | noCommand
  | unknownCommand
  | missingQuery
  | unknownArgument
  | missingValue
  | unknownScope
  | surplusValue
  | repeatedSwitch
  deriving DecidableEq, Repr

def Usage.exitCode : Usage → Nat
  | .helpAsked => 0
  | .versionAsked => 0
  | _ => 2

end MediaSearch.Command
