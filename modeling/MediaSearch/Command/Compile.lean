import MediaSearch.Command.Report
import MediaSearch.Command.Request
import MediaSearch.Query.Json
import MediaSearch.Settings
import MediaSearch.Sql.Compile
import MediaSearch.Sql.Json

set_option autoImplicit false

namespace MediaSearch.Command

open Sql (CompileError Fragment Scope)
open Query (Expr OrderKey Predicate)

structure Search where
  query : String
  order : String
  username : String
  scope : Scope
  table : String
  columns : String
  deriving DecidableEq, Repr

namespace Search

def ofRequest (settings : Settings) (request : CompileRequest) : Search :=
  { query := Text.trimmed request.query
    order := Text.trimmed (request.order.getD settings.compile.order)
    username := request.username.getD settings.compile.username
    scope := request.scope.getD settings.scope
    table := request.table.getD settings.compile.table
    columns := request.columns.getD settings.compile.columns }

def compile (search : Search) : Except CompileError Fragment :=
  Sql.compile search.query search.order search.username search.scope

/-- The tests that are compiled: those up to the first that fails. -/
def compiledTests (username : String) : List Predicate → List Predicate
  | [] => []
  | predicate :: predicates =>
    match Sql.compilePredicate username predicate with
    | .ok _ => predicate :: compiledTests username predicates
    | .error _ => [predicate]

def startEvent (search : Search) : Event :=
  { level := .debug
    message := "compiling advanced search"
    values :=
      [("query", Text.quoted search.query), ("order", Text.quoted search.order),
       ("scope", search.scope.name), ("username", Text.quoted search.username)] }

def testEvent (predicate : Predicate) : Event :=
  { level := .trace
    message := "compiling predicate"
    values := [("predicate", predicate.render)] }

def endEvent (fragment : Fragment) : Event :=
  { level := .debug
    message := "compiled advanced search"
    values :=
      [("joins", toString fragment.joins.entries.length),
       ("selects", toString fragment.selects.entries.length),
       ("params", toString fragment.params.length),
       ("order", toString fragment.order.length)] }

def events (search : Search) : List Event :=
  let tests :=
    match Query.parse search.query with
    | .ok expr => compiledTests search.username expr.predicates
    | .error _ => []
  let ending :=
    match search.compile with
    | .ok fragment => [endEvent fragment]
    | .error _ => []
  startEvent search :: tests.map testEvent ++ ending

def errorLines : CompileError → List String
  | .parse (.malformed error) => ["error: " ++ error.context]
  | error =>
    ("error: " ++ error.message) ::
      match error.hint with
      | some hint => ["hint: " ++ hint]
      | none => []

def emptyQuery : Report :=
  .failure
    ["error: query is empty", "hint: run 'advq compile --help' for the query syntax"]

def numbered (number : Nat) : List String → String
  | [] => ""
  | value :: values =>
    "  " ++ toString number ++ ". " ++ value ++ "\n" ++ numbered (number + 1) values

def orNone (lines : String) : String := if lines.isEmpty then "  (none)\n" else lines

def fragmentText (search : Search) (fragment : Fragment) : String :=
  fragment.statement search.table search.columns ++ "\n\n" ++
    "Parameters:\n" ++ orNone (numbered 1 fragment.params)

def fragmentJson (search : Search) (fragment : Fragment) : Json :=
  .object
    [("query", .text search.query), ("order", .text search.order),
     ("username", .text search.username), ("scope", .text search.scope.name),
     ("statement", .text (fragment.statement search.table search.columns)),
     ("parameters", .array (fragment.params.map .text)),
     ("fragment", fragment.toJson)]

def report (search : Search) (json : Bool) : Report :=
  match search.compile with
  | .error error => .failure (errorLines error)
  | .ok fragment =>
    { output :=
        if json then (fragmentJson search fragment).render ++ "\n"
        else fragmentText search fragment }

def testLine (predicate : Predicate) : String :=
  let kind :=
    match Sql.Field.ofName? predicate.field with
    | some field => field.valueType.label
    | none => "unknown field"
  "  " ++ predicate.render ++ " (" ++ kind ++ ")\n"

def keyLine (key : OrderKey) : String := "  " ++ key.render ++ " (" ++ key.direction.sql ++ ")\n"

def explainText (expr : Expr) (keys : List OrderKey) : String :=
  "Query:\n  " ++ expr.render ++ "\n\n" ++
    "Parsed AST:\n" ++ indented expr.tree ++ "\n" ++
    "Predicates:\n" ++ String.join (expr.predicates.map testLine) ++ "\n" ++
    "Order keys:\n" ++ orNone (String.join (keys.map keyLine))

def explainJson (search : Search) (expr : Expr) (keys : List OrderKey) : Json :=
  .object
    [("query", .text search.query), ("ast", expr.toJson),
     ("order", .array (keys.map OrderKey.toJson))]

def explain (search : Search) (json : Bool) : Report :=
  match Sql.parseQuery search.query with
  | .error error => .failure (errorLines error)
  | .ok expr =>
    match Sql.parseOrderList search.order with
    | .error error => .failure (errorLines error)
    | .ok keys =>
      { output :=
          if json then (explainJson search expr keys).render ++ "\n"
          else explainText expr keys }

end Search

def scopeEvents (settings : Settings) (request : CompileRequest) : List Event :=
  if request.scope.isNone && (Scope.ofName? settings.compile.scope).isNone then
    [{ level := .warn
       message := "ignoring configured scope"
       values := [("err", Scope.unknownMessage settings.compile.scope)] }]
  else []

def CompileRequest.report (request : CompileRequest) (settings : Settings) : Report :=
  let search := Search.ofRequest settings request
  let json := request.json || settings.output.json
  let report :=
    if search.query.isEmpty then Search.emptyQuery
    else if request.explain then search.explain json
    else (search.report json).after search.events
  report.after (scopeEvents settings request)

end MediaSearch.Command
