import MediaSearch.Proofs.Sql.Placeholders

set_option autoImplicit false

namespace MediaSearch.Sql

open Query (Direction Expr OrderKey Predicate)

inductive Operation where
  | empty
  | predicate (sql : String)
  | condition (sql : String) (params : List String)
  | and (fragment other : Fragment)
  | or (fragment other : Fragment)
  | combine (connective : Connective) (parts : List Fragment)
  | not (fragment : Fragment)
  | enclose (fragment : Fragment)
  | addJoin (fragment : Fragment) (name sql : String) (param : Option String)
  | addSelect (fragment : Fragment) (name expr : String)
  | addOrder (fragment : Fragment) (expr : String) (direction : Direction)
  | mergeOrder (fragment other : Fragment)
  | compileExpr (username : String) (expr : Expr)
  | compilePredicate (username : String) (predicate : Predicate)
  | compileOrderKeys (username : String) (keys : List OrderKey)

namespace Operation

def operands : Operation → List Fragment
  | .and fragment other | .or fragment other | .mergeOrder fragment other => [fragment, other]
  | .combine _ parts => parts
  | .not fragment | .enclose fragment | .addJoin fragment _ _ _ | .addSelect fragment _ _
  | .addOrder fragment _ _ => [fragment]
  | .empty | .predicate _ | .condition _ _ | .compileExpr _ _ | .compilePredicate _ _
  | .compileOrderKeys _ _ => []

def result : Operation → Except CompileError Fragment
  | .empty => .ok .empty
  | .predicate sql => Sql.condition sql []
  | .condition sql params => Sql.condition sql params
  | .and fragment other => (fragment.and other).mapError .fragment
  | .or fragment other => (fragment.or other).mapError .fragment
  | .combine connective parts => Sql.combine connective parts
  | .not fragment => .ok fragment.not
  | .enclose fragment => .ok fragment.enclose
  | .addJoin fragment name sql param => (fragment.addJoin name sql param).mapError .fragment
  | .addSelect fragment name expr => (fragment.mergeSelect name expr).mapError .fragment
  | .addOrder fragment expr direction => .ok (fragment.addOrder expr direction)
  | .mergeOrder fragment other => (fragment.mergeOrder other).mapError .fragment
  | .compileExpr username expr => Sql.compileExpr username expr
  | .compilePredicate username test => Sql.compilePredicate username test
  | .compileOrderKeys username keys => Sql.compileOrderKeys username keys

end Operation

-- A run and the fragments that it has obtained, the last one first.
inductive Run : List Fragment → Prop
  | start : Run []
  | step {obtained : List Fragment} {made : Fragment} (run : Run obtained) (operation : Operation)
      (known : ∀ operand ∈ operation.operands, operand ∈ obtained)
      (succeeds : operation.result = .ok made) : Run (made :: obtained)

def JoinBound (entry : String × Join) : Prop :=
  placeholderCount entry.2.sql = entry.2.param.toList.length

structure Fragment.Bound (fragment : Fragment) : Prop where
  condition : fragment.ConditionBound
  joins : fragment.MadeOf JoinBound (fun _ => True) (fun _ => True)

variable {fragment other made : Fragment}

theorem Fragment.Bound.ofCondition {sql : String} {params : List String}
    (built : Sql.condition sql params = .ok made) : made.Bound := by
  obtain ⟨counted, rfl⟩ := condition_ok built
  exact ⟨counted, Fragment.MadeOf.empty.withCondition _ _⟩

theorem Fragment.Bound.combine {connective : Connective} {parts : List Fragment}
    (bound : ∀ part ∈ parts, part.Bound) (combined : Fragment.combine connective parts = .ok made) :
    made.Bound :=
  ⟨conditionBound_combine (fun part member => (bound part member).condition) combined,
    .combine (fun part member => (bound part member).joins) combined⟩

theorem Fragment.Bound.mergeOrder (bound : fragment.Bound) (boundOther : other.Bound)
    (merged : fragment.mergeOrder other = .ok made) : made.Bound := by
  constructor
  case condition =>
    rw [mergeOrder_ok merged]
    exact bound.condition
  case joins => exact bound.joins.mergeOrder boundOther.joins merged

theorem Fragment.Bound.addJoin {name sql : String} {param : Option String} (bound : fragment.Bound)
    (added : fragment.addJoin name sql param = .ok made) : made.Bound := by
  obtain ⟨counted, rfl⟩ := addJoin_ok added
  refine ⟨bound.condition, fun entry present => ?_, bound.joins.selects, bound.joins.order⟩
  rcases mem_insertEntry present with rfl | old
  · exact counted
  · exact bound.joins.joins entry old

theorem Fragment.Bound.mergeSelect {name expr : String} (bound : fragment.Bound)
    (added : fragment.mergeSelect name expr = .ok made) : made.Bound := by
  rw [mergeSelect_ok added]
  exact ⟨bound.condition, bound.joins.joins, fun _ _ => trivial, bound.joins.order⟩

theorem Fragment.Bound.addOrder (bound : fragment.Bound) (expr : String) (direction : Direction) :
    (fragment.addOrder expr direction).Bound :=
  ⟨bound.condition, bound.joins.addOrder trivial⟩

theorem bound_invariant (username : String) : Invariant username Fragment.Bound where
  empty := ⟨rfl, .empty⟩
  condition built := .ofCondition built
  requireField bound required := by
    rw [requireField_ok required]
    refine ⟨bound.condition, ?_, fun _ _ => trivial, bound.joins.order⟩
    exact AliasMap.forall_mem_insertAll bound.joins.joins fun _ needed => fieldJoins_bound needed
  combine bound combined := .combine bound combined
  not bound := ⟨conditionBound_not bound.condition, bound.joins.not⟩
  enclose bound := ⟨conditionBound_enclose bound.condition, bound.joins.enclose⟩
  addOrder _ direction bound := bound.addOrder _ direction
  mergeOrder bound boundOther merged := bound.mergeOrder boundOther merged

theorem Operation.bound {operation : Operation}
    (known : ∀ operand ∈ operation.operands, operand.Bound)
    (succeeds : operation.result = .ok made) : made.Bound := by
  cases operation with
  | empty =>
    cases succeeds
    exact (bound_invariant "").empty
  | predicate sql => exact .ofCondition succeeds
  | condition sql params => exact .ofCondition succeeds
  | and fragment other => exact .combine known (mapError_eq_ok.mp succeeds)
  | or fragment other => exact .combine known (mapError_eq_ok.mp succeeds)
  | combine connective parts => exact .combine known (mapError_eq_ok.mp succeeds)
  | not fragment =>
    cases succeeds
    exact (bound_invariant "").not (known fragment (by simp [operands]))
  | enclose fragment =>
    cases succeeds
    exact (bound_invariant "").enclose (known fragment (by simp [operands]))
  | addJoin fragment name sql param =>
    exact (known fragment (by simp [operands])).addJoin (mapError_eq_ok.mp succeeds)
  | addSelect fragment name expr =>
    exact (known fragment (by simp [operands])).mergeSelect (mapError_eq_ok.mp succeeds)
  | addOrder fragment expr direction =>
    cases succeeds
    exact (known fragment (by simp [operands])).addOrder expr direction
  | mergeOrder fragment other =>
    exact (known fragment (by simp [operands])).mergeOrder (known other (by simp [operands]))
      (mapError_eq_ok.mp succeeds)
  | compileExpr username expr => exact (bound_invariant username).compileExpr succeeds
  | compilePredicate username predicate => exact (bound_invariant username).compilePredicate succeeds
  | compileOrderKeys username keys =>
    exact (bound_invariant username).addOrderKeys (bound_invariant username).empty succeeds

theorem Run.bound {obtained : List Fragment} (run : Run obtained) :
    ∀ fragment ∈ obtained, fragment.Bound := by
  induction run with
  | start => simp
  | step _ operation known succeeds ih =>
    have made := operation.bound (fun operand member => ih operand (known operand member)) succeeds
    exact List.forall_mem_cons.mpr ⟨made, ih⟩

structure Fragment.PlaceholdersBound (fragment : Fragment) : Prop where
  condition : placeholderCount fragment.condition = fragment.conditionParams.length
  joins : ∀ entry ∈ fragment.joins.entries,
    placeholderCount entry.2.sql = if entry.2.param.isSome then 1 else 0
  unrestricted : fragment.condition = "" → fragment.conditionParams = []
  total : placeholderCount fragment.joinClause + placeholderCount fragment.condition =
    fragment.params.length

theorem run_placeholdersBound {obtained : List Fragment} (run : Run obtained) {fragment : Fragment}
    (member : fragment ∈ obtained) : fragment.PlaceholdersBound := by
  obtain ⟨bound, made⟩ := run.bound fragment member
  constructor
  case condition => exact bound
  case joins =>
    intro entry present
    rw [made.joins entry present]
    cases entry.2.param <;> rfl
  case unrestricted =>
    intro blank
    apply List.eq_nil_of_length_eq_zero
    rw [← bound, blank]
    rfl
  case total =>
    rw [placeholderCount_joinClause made.joins, bound, Fragment.params, List.length_append]

theorem run_placeholdersBound_negated :
    ∃ obtained fragment, Run obtained ∧ fragment ∈ obtained ∧
      fragment.condition = "NOT (title = ?)" ∧ fragment.params = ["bob", "who?"] ∧
      fragment.PlaceholdersBound := by
  have titled := Run.start.step (.condition "title = ?" ["who?"]) (by simp [Operation.operands]) rfl
  have begun := titled.step .empty (by simp [Operation.operands]) rfl
  have joined := begun.step (.addJoin .empty "r" "join r on r.u = ?" (some "bob"))
    (by simp [Operation.operands]) rfl
  have either := joined.step (.or _ _)
    (List.forall_mem_cons.mpr ⟨.head _, List.forall_mem_singleton.mpr (.tail _ (.tail _ (.head _)))⟩) rfl
  have negated := either.step (.not _) (List.forall_mem_singleton.mpr (.head _)) rfl
  exact ⟨_, _, negated, .head _, rfl, rfl, run_placeholdersBound negated (.head _)⟩

end MediaSearch.Sql
