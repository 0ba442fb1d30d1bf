import MediaSearch.Json
import MediaSearch.Query.Expr
import MediaSearch.Query.Order

set_option autoImplicit false

namespace MediaSearch.Query

def Predicate.toJson : Predicate → Json
  | .compare field op value =>
    .object [("kind", .text "compare"), ("field", .text field), ("op", .text op.name),
      ("value", .text value)]
  | .between field low high =>
    .object [("kind", .text "between"), ("field", .text field), ("low", .text low),
      ("high", .text high)]

namespace Expr

def nodeJson (kind : String) (children : Json) : Json :=
  .object [("kind", .text kind), ("children", children)]

mutual

def toJson : Expr → Json
  | .or operands => nodeJson "or" (.array (toJsonAll operands))
  | .and operands => nodeJson "and" (.array (toJsonAll operands))
  | .not operand => nodeJson "not" (toJson operand)
  | .bracket inner => nodeJson "bracket" (toJson inner)
  | .tests predicates => nodeJson "predicates" (.array (predicates.map Predicate.toJson))

def toJsonAll : List Expr → List Json
  | [] => []
  | operand :: operands => toJson operand :: toJsonAll operands

end

end Expr

def OrderKey.toJson (key : OrderKey) : Json :=
  .object [("field", .text key.field), ("direction", .text key.direction.name)]

end MediaSearch.Query
