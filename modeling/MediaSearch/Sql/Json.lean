import MediaSearch.Json
import MediaSearch.Sql.Field
import MediaSearch.Sql.Fragment

set_option autoImplicit false

namespace MediaSearch.Sql

def Field.toJson (field : Field) : Json :=
  .object
    [("name", .text field.name), ("value_type", .text field.valueType.name),
     ("table", .ofOption (field.column?.map (·.table))),
     ("column", .ofOption (field.column?.map (·.name)))]

def Join.toJson (join : Join) : Json :=
  .object [("sql", .text join.sql), ("param", .ofOption join.param)]

def OrderItem.toJson (item : OrderItem) : Json :=
  .object [("expr", .text item.expr), ("direction", .text item.direction.name)]

def Fragment.toJson (fragment : Fragment) : Json :=
  .object
    [("selects", .object (fragment.selects.entries.map fun (name, expr) => (name, .text expr))),
     ("where", .text fragment.condition),
     ("where_params", .array (fragment.conditionParams.map .text)),
     ("joins", .object (fragment.joins.entries.map fun (name, join) => (name, join.toJson))),
     ("order", .array (fragment.order.map OrderItem.toJson))]

end MediaSearch.Sql
