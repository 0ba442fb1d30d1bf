import MediaSearch.Proofs.Sql.Needs
import MediaSearch.Proofs.Sql.Placeholders

set_option autoImplicit false

namespace MediaSearch.Sql

open Query (Expr Predicate)

inductive Woven : List String → String → Prop
  | done {gap : String} (plain : '?' ∉ gap.toList) : Woven [] gap
  | next {gap first rest : String} {others : List String} (plain : '?' ∉ gap.toList)
      (later : Woven others rest) : Woven (first :: others) (gap ++ first ++ rest)

namespace Woven

variable {texts others : List String} {whole rest : String}

theorem after {gap : String} (plain : '?' ∉ gap.toList) (woven : Woven texts whole) :
    Woven texts (gap ++ whole) := by
  cases woven with
  | done plainRest =>
    apply done
    simp [plain, plainRest]
  | @next inner first rest others plainInner later =>
    have wider : '?' ∉ (gap ++ inner).toList := by simp [plain, plainInner]
    have woven : Woven (first :: others) (gap ++ inner ++ first ++ rest) := next wider later
    simpa [String.append_assoc] using woven

theorem append (woven : Woven texts whole) (wovenRest : Woven others rest) :
    Woven (texts ++ others) (whole ++ rest) := by
  induction woven with
  | done plain => exact wovenRest.after plain
  | next plain _ ih => simpa [String.append_assoc] using next plain ih

theorem one (text : String) : Woven [text] text := by
  have alone : Woven [text] ("" ++ text ++ "") := next (by simp) (done (by simp))
  simpa using alone

theorem parenthesized (woven : Woven texts whole) : Woven texts (parenthesized whole) := by
  have opened : Woven texts ("(" ++ whole) := woven.after (by decide)
  have closed : Woven (texts ++ []) ("(" ++ whole ++ ")") := opened.append (done (by decide))
  rwa [List.append_nil] at closed

end Woven

structure Follows (tests : List Fragment) (fragment : Fragment) : Prop where
  bound : fragment.ConditionBound
  params : fragment.conditionParams = tests.flatMap (·.conditionParams)
  woven : Woven (tests.map (·.condition)) fragment.condition
  unsorted : fragment.order = []

-- The same for several fragments, whose conditions may each be wrapped before they are joined.
structure FollowAll (tests parts : List Fragment) : Prop where
  bound : ∀ part ∈ parts, part.ConditionBound
  params : parts.flatMap Fragment.boundParams = tests.flatMap (·.conditionParams)
  woven : ∀ (separator : String) (wrap : String → String), '?' ∉ separator.toList →
    (∀ {texts whole}, Woven texts whole → Woven texts (wrap whole)) →
    Woven (tests.map (·.condition)) (separator.intercalate ((Fragment.conditions parts).map wrap))
  unsorted : parts.flatMap (·.order) = []

section Connectives

variable {tests others parts : List Fragment} {fragment part result : Fragment} {connective : Connective}

theorem Fragment.ConditionBound.boundParams_eq (bound : fragment.ConditionBound) :
    fragment.boundParams = fragment.conditionParams := by
  unfold boundParams
  split
  · next isEmpty =>
    have blank : fragment.condition = "" := by simpa using isEmpty
    have none : fragment.conditionParams.length = 0 := by
      rw [← bound, blank]
      rfl
    exact (List.eq_nil_of_length_eq_zero none).symm
  · rfl

theorem FollowAll.nil : FollowAll [] [] := by
  constructor
  case bound => simp
  case params => rfl
  case woven =>
    intro separator wrap plain wraps
    exact .done (by simp [Fragment.conditions])
  case unsorted => rfl

theorem FollowAll.cons (first : Follows tests part) (rest : FollowAll others parts) :
    FollowAll (tests ++ others) (part :: parts) := by
  constructor
  case bound => exact List.forall_mem_cons.mpr ⟨first.bound, rest.bound⟩
  case params =>
    rw [List.flatMap_cons, List.flatMap_append, first.bound.boundParams_eq, first.params, rest.params]
  case unsorted => rw [List.flatMap_cons, first.unsorted, rest.unsorted, List.nil_append]
  case woven =>
    intro separator wrap plain wraps
    have later := rest.woven separator wrap plain wraps
    rw [List.map_append]
    by_cases blank : part.condition = ""
    · -- a condition that is left out holds no test with a placeholder
      have left : Fragment.conditions (part :: parts) = Fragment.conditions parts := by
        simp [Fragment.conditions, blank]
      have nothing : Woven (tests.map (·.condition)) "" := blank ▸ first.woven
      rw [left]
      simpa using nothing.append later
    · have kept : Fragment.conditions (part :: parts) = part.condition :: Fragment.conditions parts := by
        simp [Fragment.conditions, blank]
      rw [kept, List.map_cons]
      by_cases last : Fragment.conditions parts = []
      · rw [last] at later ⊢
        simpa using (wraps first.woven).append later
      · have more : (Fragment.conditions parts).map wrap ≠ [] := by simpa using last
        rw [String.intercalate_cons_of_ne_nil more, String.append_assoc]
        exact (wraps first.woven).append (later.after plain)

theorem FollowAll.joined (all : FollowAll tests parts) (connective : Connective) :
    Woven (tests.map (·.condition)) (joinConditions connective (Fragment.conditions parts)) := by
  have plain : '?' ∉ connective.separator.toList :=
    placeholderCount_eq_zero.mp (placeholderCount_separator connective)
  have bare := all.woven connective.separator id plain id
  have groups := all.woven connective.separator parenthesized plain Woven.parenthesized
  generalize Fragment.conditions parts = conditions at bare groups ⊢
  rcases conditions with _ | ⟨condition, _ | ⟨second, rest⟩⟩
  · simpa [joinConditions] using bare
  · -- a single condition is kept as it is
    simpa [joinConditions] using bare
  · exact groups

theorem FollowAll.combine (all : FollowAll tests parts)
    (combined : Fragment.combine connective parts = .ok result) : Follows tests result := by
  have bound := conditionBound_combine all.bound combined
  rw [Fragment.combine_ok combined] at bound ⊢
  exact ⟨bound, all.params, all.joined connective, all.unsorted⟩

theorem Follows.not (follows : Follows tests fragment) : Follows tests fragment.not := by
  have bound := conditionBound_not follows.bound
  unfold Fragment.not at bound ⊢
  split
  · exact follows
  · next negated =>
    rw [if_neg negated] at bound
    exact ⟨bound, follows.params, follows.woven.parenthesized.after (by decide), follows.unsorted⟩

theorem Follows.enclose (follows : Follows tests fragment) : Follows tests fragment.enclose := by
  have bound := conditionBound_enclose follows.bound
  unfold Fragment.enclose at bound ⊢
  split
  · exact follows
  · next bare =>
    rw [if_neg bare] at bound
    exact ⟨bound, follows.params, follows.woven.parenthesized, follows.unsorted⟩

end Connectives

section Expressions

variable {username : String} {expr : Expr} {fragment : Fragment} {parts : List Fragment}

abbrev CompiledTests (username : String) : List Predicate → List Fragment → Prop :=
  List.Forall₂ fun predicate test => compilePredicate username predicate = .ok test

theorem compilePredicate_follows {predicate : Predicate}
    (compiled : compilePredicate username predicate = .ok fragment) : Follows [fragment] fragment := by
  constructor
  case bound => exact (conditionBound_invariant username).compilePredicate compiled
  case params => simp
  case woven => exact .one fragment.condition
  case unsorted =>
    obtain ⟨field, column, test, _, _, ⟨sql, params, _, built⟩, required⟩ := compilePredicate_ok compiled
    rw [requireField_ok required, (condition_ok built).2]
    rfl

theorem CompiledTests.followAll {predicates : List Predicate}
    (compiled : CompiledTests username predicates parts) : FollowAll parts parts := by
  induction compiled with
  | nil => exact .nil
  | cons first _ ih => exact .cons (compilePredicate_follows first) ih

def FollowsTests (username : String) (expr : Expr) (fragment : Fragment) : Prop :=
  ∃ tests, CompiledTests username expr.predicates tests ∧ Follows tests fragment

theorem followsTests_operands {operands : List Expr}
    (each : List.Forall₂ (FollowsTests username) operands parts) :
    ∃ tests, CompiledTests username (operands.flatMap Expr.predicates) tests ∧ FollowAll tests parts := by
  induction each with
  | nil => exact ⟨[], .nil, .nil⟩
  | cons first _ ih =>
    obtain ⟨tests, compiled, follows⟩ := first
    obtain ⟨others, compiledOthers, followsOthers⟩ := ih
    exact ⟨tests ++ others, List.rel_append compiled compiledOthers, .cons follows followsOthers⟩

theorem compileExpr_followsTests (compiled : compileExpr username expr = .ok fragment) :
    FollowsTests username expr fragment := by
  refine compileExpr_induction ?or ?and ?not ?bracket ?tests compiled
  case or =>
    intro operands parts result each combined
    obtain ⟨tests, compiled, all⟩ := followsTests_operands each
    rw [← predicatesAll_eq] at compiled
    exact ⟨tests, compiled, all.combine combined⟩
  case and =>
    intro operands parts result each combined
    obtain ⟨tests, compiled, all⟩ := followsTests_operands each
    rw [← predicatesAll_eq] at compiled
    exact ⟨tests, compiled, all.combine combined⟩
  case not =>
    rintro operand result ⟨tests, compiled, follows⟩
    exact ⟨tests, compiled, follows.not⟩
  case bracket =>
    rintro inner result ⟨tests, compiled, follows⟩
    exact ⟨tests, compiled, follows.enclose⟩
  case tests =>
    intro predicates parts result each combined
    exact ⟨parts, each, FollowAll.combine (CompiledTests.followAll each) combined⟩

end Expressions

theorem compileExpr_binds_in_order {username : String} {expr : Expr} {fragment : Fragment}
    (compiled : compileExpr username expr = .ok fragment) :
    ∃ tests : List Fragment,
      List.Forall₂ (fun predicate test => compilePredicate username predicate = .ok test)
        expr.predicates tests ∧
      fragment.conditionParams = tests.flatMap (·.conditionParams) ∧
      Woven (tests.map (·.condition)) fragment.condition ∧
      (∀ test ∈ tests, placeholderCount test.condition = test.conditionParams.length) ∧
      fragment.order = [] := by
  obtain ⟨tests, each, follows⟩ := compileExpr_followsTests compiled
  have all := CompiledTests.followAll each
  exact ⟨tests, each, follows.params, follows.woven, all.bound, follows.unsorted⟩

def questioned : Expr :=
  .and
    [.not (.or [.tests [.compare "title" .exactly "who?"], .tests [.between "year" "?" "9"]]),
     .bracket (.tests [.compare "genre" .exactly "rock"])]

def questionedCondition : String :=
  "(NOT ((media_file.title = ?) OR (media_file.year IS NOT NULL AND media_file.year >= ? AND " ++
    "media_file.year <= ?))) AND ((media_file.genre = ?))"

theorem compileExpr_binds_in_order_questioned :
    ∃ fragment tests, compileExpr "ann" questioned = .ok fragment ∧
      fragment.condition = questionedCondition ∧
      fragment.conditionParams = ["who?", "?", "9", "rock"] ∧
      List.Forall₂ (fun predicate test => compilePredicate "ann" predicate = .ok test)
        [.compare "title" .exactly "who?", .between "year" "?" "9", .compare "genre" .exactly "rock"] tests ∧
      fragment.conditionParams = tests.flatMap (·.conditionParams) ∧
      Woven (tests.map (·.condition)) fragment.condition ∧
      (∀ test ∈ tests, placeholderCount test.condition = test.conditionParams.length) ∧
      fragment.order = [] := by
  have found : (compileExpr "ann" questioned).toOption.map
      (fun fragment => (fragment.condition, fragment.conditionParams)) =
        some (questionedCondition, ["who?", "?", "9", "rock"]) := by
    decide +kernel
  cases compiled : compileExpr "ann" questioned with
  | error error => simp [compiled, Except.toOption] at found
  | ok fragment =>
    obtain ⟨condition, params⟩ : fragment.condition = questionedCondition ∧
        fragment.conditionParams = ["who?", "?", "9", "rock"] := by
      simpa [compiled, Except.toOption] using found
    obtain ⟨tests, each, bound⟩ := compileExpr_binds_in_order compiled
    exact ⟨fragment, tests, rfl, condition, params, each, bound⟩

end MediaSearch.Sql
