import MediaSearch.Query.Order
import MediaSearch.Sql.AliasMap
import MediaSearch.Text.Quoted

set_option autoImplicit false

/-!
Parts of a `SELECT` statement: joins and extra columns under aliases, a condition with positional
`?` placeholders and the texts bound to them, and sort keys. Two fragments can be put together unless
they define one alias in two ways.
-/

namespace MediaSearch.Sql

open Query (Direction)

structure Join where
  sql : String
  param : Option String
  deriving DecidableEq, Repr

def Join.describe (join : Join) : String :=
  match join.param with
  | some param => join.sql ++ " [" ++ param ++ "]"
  | none => join.sql

structure OrderItem where
  expr : String
  direction : Direction
  deriving DecidableEq, Repr

def OrderItem.render (item : OrderItem) : String := item.expr ++ " " ++ item.direction.sql

inductive Connective where
  | and
  | or
  deriving DecidableEq, Repr

def Connective.separator : Connective → String
  | .and => " AND "
  | .or => " OR "

inductive AliasKind where
  | join
  | select
  deriving DecidableEq, Repr

def AliasKind.name : AliasKind → String
  | .join => "join"
  | .select => "select"

inductive FragmentError where
  | conflict (kind : AliasKind) (name existing attempted : String)
  | placeholders (sql : String) (params : Nat)
  deriving DecidableEq, Repr

def placeholderCount (sql : String) : Nat := sql.toList.count '?'

/-- Whether the group that is open `depth` deep closes with the last character, and not before. -/
def closesAtEnd (depth : Nat) : List Char → Bool
  | [] => false
  | c :: rest =>
    if c = '(' then closesAtEnd (depth + 1) rest
    else if c = ')' then
      if depth - 1 = 0 then rest.isEmpty else closesAtEnd (depth - 1) rest
    else closesAtEnd depth rest

def isEnclosed (sql : String) : Bool :=
  sql.toList.head? == some '(' && sql.toList.getLast? == some ')' && closesAtEnd 0 sql.toList

def parenthesized (sql : String) : String := "(" ++ sql ++ ")"

/-- Several conditions as one. A single condition is kept as it is; several are put in parentheses
with the connective between them. -/
def joinConditions (connective : Connective) : List String → String
  | [] => ""
  | [condition] => condition
  | conditions => connective.separator.intercalate (conditions.map parenthesized)

structure Fragment where
  selects : AliasMap String
  -- The restriction on rows; an empty text restricts nothing.
  condition : String
  conditionParams : List String
  joins : AliasMap Join
  order : List OrderItem
  deriving DecidableEq

namespace Fragment

def empty : Fragment :=
  { selects := .empty, condition := "", conditionParams := [], joins := .empty, order := [] }

def ofCondition (sql : String) (params : List String) : Except FragmentError Fragment :=
  if placeholderCount sql = params.length then
    .ok { empty with condition := sql, conditionParams := params }
  else .error (.placeholders sql params.length)

def mergeJoin (fragment : Fragment) (name : String) (join : Join) :
    Except FragmentError Fragment :=
  match fragment.joins.get? name with
  | none => .ok { fragment with joins := fragment.joins.insert name join }
  | some existing =>
    if existing = join then .ok fragment
    else .error (.conflict .join name existing.describe join.describe)

def mergeSelect (fragment : Fragment) (name expr : String) : Except FragmentError Fragment :=
  match fragment.selects.get? name with
  | none => .ok { fragment with selects := fragment.selects.insert name expr }
  | some existing =>
    if existing = expr then .ok fragment else .error (.conflict .select name existing expr)

def mergeJoins (fragment : Fragment) : List (String × Join) → Except FragmentError Fragment
  | [] => .ok fragment
  | (name, join) :: rest => do (← fragment.mergeJoin name join).mergeJoins rest

def mergeSelects (fragment : Fragment) : List (String × String) → Except FragmentError Fragment
  | [] => .ok fragment
  | (name, expr) :: rest => do (← fragment.mergeSelect name expr).mergeSelects rest

/-- Adds the joins, columns and sort keys of another fragment, whose condition is left out. Joins come
first, so that a conflict between joins is the one reported. -/
def mergeOrder (fragment other : Fragment) : Except FragmentError Fragment := do
  let joined ← fragment.mergeJoins other.joins.entries
  let selected ← joined.mergeSelects other.selects.entries
  return { selected with order := selected.order ++ other.order }

def absorb (fragment part : Fragment) : Except FragmentError Fragment := do
  let merged ← fragment.mergeOrder part
  return { merged with
    conditionParams :=
      merged.conditionParams ++ if part.condition.isEmpty then [] else part.conditionParams }

def absorbAll (fragment : Fragment) : List Fragment → Except FragmentError Fragment
  | [] => .ok fragment
  | part :: parts => do (← fragment.absorb part).absorbAll parts

/-- Several fragments as one, with a connective between their conditions. A fragment without a
condition adds only its joins, columns and sort keys. -/
def combine (connective : Connective) (parts : List Fragment) : Except FragmentError Fragment := do
  let merged ← empty.absorbAll parts
  return { merged with
    condition := joinConditions connective ((parts.map (·.condition)).filter (! ·.isEmpty)) }

def and (fragment other : Fragment) : Except FragmentError Fragment :=
  combine .and [fragment, other]

def or (fragment other : Fragment) : Except FragmentError Fragment := combine .or [fragment, other]

def not (fragment : Fragment) : Fragment :=
  if fragment.condition.isEmpty then fragment
  else { fragment with condition := "NOT " ++ parenthesized fragment.condition }

def enclose (fragment : Fragment) : Fragment :=
  if fragment.condition.isEmpty || isEnclosed fragment.condition then fragment
  else { fragment with condition := parenthesized fragment.condition }

def addJoin (fragment : Fragment) (name sql : String) (param : Option String) :
    Except FragmentError Fragment :=
  if placeholderCount sql = param.toList.length then fragment.mergeJoin name { sql, param }
  else .error (.placeholders sql param.toList.length)

def addOrder (fragment : Fragment) (expr : String) (direction : Direction) : Fragment :=
  { fragment with order := fragment.order ++ [{ expr, direction }] }

def selectClause (fragment : Fragment) : String :=
  ", ".intercalate (fragment.selects.entries.map fun (name, expr) => expr ++ " AS " ++ name)

def joinClause (fragment : Fragment) : String :=
  " ".intercalate (fragment.joins.values.map (·.sql))

def joinParams (fragment : Fragment) : List String := fragment.joins.values.filterMap (·.param)

def orderClause (fragment : Fragment) : String :=
  ", ".intercalate (fragment.order.map OrderItem.render)

/-- Every text to bind, in the order of the placeholders of a statement. -/
def params (fragment : Fragment) : List String := fragment.joinParams ++ fragment.conditionParams

def isEmpty (fragment : Fragment) : Bool :=
  fragment.selects.isEmpty && fragment.condition.isEmpty && fragment.joins.isEmpty &&
    fragment.order.isEmpty

def statement (fragment : Fragment) (table columns : String) : String :=
  "SELECT " ++ columns ++
    (if fragment.selects.isEmpty then "" else ", " ++ fragment.selectClause) ++
    " FROM " ++ table ++
    (if fragment.joins.isEmpty then "" else " " ++ fragment.joinClause) ++
    (if fragment.condition.isEmpty then "" else " WHERE " ++ fragment.condition) ++
    (if fragment.order.isEmpty then "" else " ORDER BY " ++ fragment.orderClause)

def describe (fragment : Fragment) : String :=
  "[" ++ fragment.condition ++ "] " ++ Text.quotedList fragment.conditionParams ++ " (joins [" ++
    fragment.joinClause ++ "] " ++ Text.quotedList fragment.joinParams ++ ", selects [" ++
    fragment.selectClause ++ "], order [" ++ fragment.orderClause ++ "])"

end Fragment

end MediaSearch.Sql
