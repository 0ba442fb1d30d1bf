import MediaSearch.Proofs.Sql.Compilation

set_option autoImplicit false

namespace MediaSearch.Sql

open Query (Direction)

structure Fragment.MadeOf (join : String × Join → Prop) (select : String × String → Prop)
    (item : OrderItem → Prop) (fragment : Fragment) : Prop where
  joins : ∀ entry ∈ fragment.joins.entries, join entry
  selects : ∀ entry ∈ fragment.selects.entries, select entry
  order : ∀ entry ∈ fragment.order, item entry

namespace Fragment.MadeOf

variable {join : String × Join → Prop} {select : String × String → Prop} {item : OrderItem → Prop}
  {fragment other result : Fragment}

theorem empty : Fragment.empty.MadeOf join select item :=
  ⟨nofun, nofun, nofun⟩

theorem withCondition (made : fragment.MadeOf join select item) (sql : String) (params : List String) :
    Fragment.MadeOf join select item { fragment with condition := sql, conditionParams := params } :=
  ⟨made.joins, made.selects, made.order⟩

theorem mergeOrder (made : fragment.MadeOf join select item) (madeOther : other.MadeOf join select item)
    (merged : fragment.mergeOrder other = .ok result) : result.MadeOf join select item := by
  rw [mergeOrder_ok merged]
  refine ⟨AliasMap.forall_mem_insertAll made.joins madeOther.joins,
    AliasMap.forall_mem_insertAll made.selects madeOther.selects, ?_⟩
  intro entry present
  rcases List.mem_append.mp present with old | new
  · exact made.order entry old
  · exact madeOther.order entry new

theorem combine {connective : Connective} {parts : List Fragment}
    (made : ∀ part ∈ parts, part.MadeOf join select item)
    (combined : Fragment.combine connective parts = .ok result) :
    result.MadeOf join select item := by
  rw [combine_ok combined]
  refine ⟨AliasMap.forall_mem_insertAll nofun ?joins, AliasMap.forall_mem_insertAll nofun ?selects, ?order⟩ <;>
    intro entry present
  all_goals obtain ⟨part, member, within⟩ := List.mem_flatMap.mp present
  · exact (made part member).joins entry within
  · exact (made part member).selects entry within
  · exact (made part member).order entry within

theorem not (made : fragment.MadeOf join select item) : fragment.not.MadeOf join select item := by
  unfold Fragment.not
  split
  · exact made
  · exact made.withCondition _ _

theorem enclose (made : fragment.MadeOf join select item) :
    fragment.enclose.MadeOf join select item := by
  unfold Fragment.enclose
  split
  · exact made
  · exact made.withCondition _ _

theorem addOrder {expr : String} {direction : Direction} (made : fragment.MadeOf join select item)
    (allowed : item { expr, direction }) :
    (fragment.addOrder expr direction).MadeOf join select item := by
  refine ⟨made.joins, made.selects, ?_⟩
  intro entry present
  rcases List.mem_append.mp present with old | new
  · exact made.order entry old
  · exact List.mem_singleton.mp new ▸ allowed

end Fragment.MadeOf

def Fragment.OfFields (username : String) : Fragment → Prop :=
  Fragment.MadeOf (fun entry => ∃ field, entry ∈ fieldJoins username field)
    (fun entry => ∃ field, entry ∈ fieldSelects field)
    (fun entry => ∃ field, entry.expr = orderExpr field)

theorem ofFields_invariant (username : String) : Invariant username (Fragment.OfFields username) where
  empty := .empty
  condition built := by
    rw [(condition_ok built).2]
    exact Fragment.MadeOf.empty.withCondition _ _
  requireField {field _ _} made required := by
    rw [requireField_ok required]
    exact ⟨AliasMap.forall_mem_insertAll made.joins fun _ needed => ⟨field, needed⟩,
      AliasMap.forall_mem_insertAll made.selects fun _ needed => ⟨field, needed⟩, made.order⟩
  combine made combined := .combine made combined
  not made := made.not
  enclose made := made.enclose
  addOrder field _ made := made.addOrder ⟨field, rfl⟩
  mergeOrder made madeOther merged := made.mergeOrder madeOther merged

end MediaSearch.Sql
