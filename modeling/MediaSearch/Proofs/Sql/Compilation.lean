import MediaSearch.Proofs.Sql.Merging
import MediaSearch.Sql.Compile
import Mathlib.Data.List.Forall2

set_option autoImplicit false

namespace MediaSearch.Sql

open Query (Direction Expr Operator OrderKey Predicate)

variable {username : String} {field : Field} {fragment result : Fragment}

def ratingJoins (username : String) : List (String × Join) :=
  [(albumAlias, ⟨albumJoin, none⟩), (ratingAlias, ⟨ratingJoin, some username⟩)]

def starredJoins (username : String) : List (String × Join) :=
  [(starredAlias, ⟨starredJoin, some username⟩)]

def fieldJoins (username : String) : Field → List (String × Join)
  | .albumRating => ratingJoins username
  | .starred => starredJoins username
  | .ranking => ratingJoins username ++ starredJoins username
  | _ => []

def fieldSelects : Field → List (String × String)
  | .ranking => rankingSelects
  | _ => []

theorem joinAlbumRating_ok (joined : joinAlbumRating username fragment = .ok result) :
    result = { fragment with joins := fragment.joins.insertAll (ratingJoins username) } := by
  obtain ⟨album, first, second⟩ := bind_eq_ok.mp joined
  rw [(Fragment.addJoin_ok second).2, (Fragment.addJoin_ok first).2]
  rfl

theorem joinStarred_ok (joined : joinStarred username fragment = .ok result) :
    result = { fragment with joins := fragment.joins.insertAll (starredJoins username) } :=
  (Fragment.addJoin_ok joined).2

theorem requireField_ok (required : requireField username field fragment = .ok result) :
    result = { fragment with
      selects := fragment.selects.insertAll (fieldSelects field)
      joins := fragment.joins.insertAll (fieldJoins username field) } := by
  cases field
  case albumRating => exact joinAlbumRating_ok required
  case starred => exact joinStarred_ok required
  case ranking =>
    obtain ⟨rated, first, remaining⟩ := bind_eq_ok.mp required
    obtain ⟨starred, second, third⟩ := bind_eq_ok.mp remaining
    rw [Fragment.mergeSelects_ok third, joinStarred_ok second, joinAlbumRating_ok first]
    rfl
  all_goals exact (Except.ok.inj required).symm

theorem condition_ok {sql : String} {params : List String} (built : condition sql params = .ok result) :
    placeholderCount sql = params.length ∧
      result = { Fragment.empty with condition := sql, conditionParams := params } :=
  Fragment.ofCondition_ok (mapError_eq_ok.mp built)

inductive TestText (column : String) : String → Prop
  | bound {sqlOperator : String} (known : sqlOperator ∈ ["=", ">", ">="]) :
    TestText column (column ++ " " ++ sqlOperator ++ " ?")
  | below {sqlOperator : String} (known : sqlOperator ∈ ["<", "<="]) :
    TestText column (column ++ " IS NULL OR " ++ column ++ " " ++ sqlOperator ++ " ?")
  | missing : TestText column (column ++ " IS NULL")
  | present : TestText column (column ++ " IS NOT NULL")
  | like : TestText column ("lower(" ++ column ++ ") LIKE ?")
  | regexp : TestText column ("regexp_matches(" ++ column ++ ", ?)")
  | within :
    TestText column
      (column ++ " IS NOT NULL AND " ++ column ++ " >= ? AND " ++ column ++ " <= ?")

def IsTest (column : String) (fragment : Fragment) : Prop :=
  ∃ sql params, TestText column sql ∧ condition sql params = .ok fragment

section Texts

variable {column value : String} {op : Operator}

theorem bind_isTest {sqlOperator : String} (known : sqlOperator ∈ ["=", ">", ">="])
    (tested : bind column sqlOperator value = .ok fragment) : IsTest column fragment :=
  ⟨_, _, .bound known, tested⟩

theorem bindBelow_isTest {sqlOperator : String} (known : sqlOperator ∈ ["<", "<="])
    (tested : bindBelow column sqlOperator value = .ok fragment) : IsTest column fragment :=
  ⟨_, _, .below known, tested⟩

theorem compareText_isTest (tested : compareText field column value op = .ok fragment) :
    IsTest column fragment := by
  cases op <;> simp only [compareText, reduceCtorEq] at tested
  case exactly => exact bind_isTest (by simp) tested
  case contains =>
    split at tested
    · exact ⟨_, _, .missing, tested⟩
    · exact ⟨_, _, .like, tested⟩
  case regexp => exact ⟨_, _, .regexp, tested⟩

theorem compareExactText_isTest (tested : compareExactText field column value op = .ok fragment) :
    IsTest column fragment := by
  cases op <;> simp only [compareExactText, reduceCtorEq] at tested
  case exactly => exact bind_isTest (by simp) tested
  case contains =>
    split at tested
    · exact ⟨_, _, .missing, tested⟩
    · exact bind_isTest (by simp) tested

theorem compareOrdered_isTest (tested : compareOrdered field column value op = .ok fragment) :
    IsTest column fragment := by
  cases op <;> simp only [compareOrdered, reduceCtorEq] at tested
  case exactly => exact bind_isTest (by simp) tested
  case contains =>
    split at tested
    · exact ⟨_, _, .missing, tested⟩
    · exact bind_isTest (by simp) tested
  case less => exact bindBelow_isTest (by simp) tested
  case atMost => exact bindBelow_isTest (by simp) tested
  case greater => exact bind_isTest (by simp) tested
  case atLeast => exact bind_isTest (by simp) tested

theorem compareFlag_isTest (tested : compareFlag field column value = .ok fragment) :
    IsTest column fragment := by
  simp only [compareFlag] at tested
  split at tested
  · exact ⟨_, _, .present, tested⟩
  · split at tested
    · exact ⟨_, _, .missing, tested⟩
    · cases tested

theorem compare_isTest (tested : compare field op value = .ok fragment) :
    ∃ column, field.column? = some column ∧ IsTest column.qualified fragment := by
  unfold compare at tested
  split at tested
  · cases tested
  · next column found =>
    refine ⟨column, found, ?_⟩
    split at tested
    · exact compareText_isTest tested
    · exact compareExactText_isTest tested
    · exact compareOrdered_isTest tested
    · exact compareOrdered_isTest tested
    · split at tested
      · exact compareFlag_isTest tested
      · exact compareFlag_isTest tested
      · cases tested
    · cases tested

theorem between_isTest {low high : String} (tested : between field low high = .ok fragment) :
    ∃ column, field.column? = some column ∧ IsTest column.qualified fragment := by
  unfold between at tested
  split at tested
  · cases tested
  · next column found =>
    refine ⟨column, found, ?_⟩
    split at tested
    · exact ⟨_, _, .within, tested⟩
    · cases tested

end Texts

theorem lookupField_ok {name : String} (found : lookupField name = .ok field) :
    Field.ofName? name = some field := by
  unfold lookupField at found
  split at found
  · next same => rw [same, Except.ok.inj found]
  · cases found

theorem compilePredicate_ok {predicate : Predicate}
    (compiled : compilePredicate username predicate = .ok result) :
    ∃ field column test, Field.ofName? predicate.field = some field ∧
      field.column? = some column ∧ IsTest column.qualified test ∧
      requireField username field test = .ok result := by
  obtain ⟨field, named, remaining⟩ := bind_eq_ok.mp compiled
  cases predicate with
  | compare name op value =>
    obtain ⟨test, tested, required⟩ := bind_eq_ok.mp remaining
    obtain ⟨column, found, isTest⟩ := compare_isTest tested
    exact ⟨field, column, test, lookupField_ok named, found, isTest, mapError_eq_ok.mp required⟩
  | between name low high =>
    obtain ⟨test, tested, required⟩ := bind_eq_ok.mp remaining
    obtain ⟨column, found, isTest⟩ := between_isTest tested
    exact ⟨field, column, test, lookupField_ok named, found, isTest, mapError_eq_ok.mp required⟩

theorem Field.column?_chars {column : Column} (found : field.column? = some column) :
    ∀ c ∈ column.qualified.toList, Text.isWordChar c = true ∨ c = '.' := by
  have checked : column.qualified.toList.all (fun c => Text.isWordChar c || c == '.') = true := by
    cases field <;> cases found <;> decide
  simpa using checked

theorem exists_left_of_mem {α β : Type} {related : α → β → Prop} {lefts : List α} {rights : List β}
    (each : List.Forall₂ related lefts rights) {right : β} (member : right ∈ rights) :
    ∃ left ∈ lefts, related left right := by
  induction each with
  | nil => cases member
  | cons first _ ih =>
    rcases List.mem_cons.mp member with rfl | later
    · exact ⟨_, by simp, first⟩
    · obtain ⟨left, present, pair⟩ := ih later
      exact ⟨left, by simp [present], pair⟩

theorem compilePredicates_ok {predicates : List Predicate} {parts : List Fragment}
    (compiled : compilePredicates username predicates = .ok parts) :
    List.Forall₂ (fun predicate part => compilePredicate username predicate = .ok part)
      predicates parts := by
  induction predicates generalizing parts with
  | nil =>
    cases compiled
    exact .nil
  | cons predicate predicates ih =>
    obtain ⟨first, start, remaining⟩ := bind_eq_ok.mp compiled
    obtain ⟨others, rest, joined⟩ := bind_eq_ok.mp remaining
    cases joined
    exact .cons start (ih rest)

-- A property of expressions and their fragments holds of every compilation if it passes from the
-- operands of each form of expression to the whole.
theorem compileExpr_induction {holds : Expr → Fragment → Prop}
    (or : ∀ {operands parts result}, List.Forall₂ holds operands parts →
      Fragment.combine .or parts = .ok result → holds (.or operands) result)
    (and : ∀ {operands parts result}, List.Forall₂ holds operands parts →
      Fragment.combine .and parts = .ok result → holds (.and operands) result)
    (not : ∀ {operand result}, holds operand result → holds (.not operand) result.not)
    (bracket : ∀ {inner result}, holds inner result → holds (.bracket inner) result.enclose)
    (tests : ∀ {predicates parts result},
      List.Forall₂ (fun predicate part => compilePredicate username predicate = .ok part)
        predicates parts →
      Fragment.combine .and parts = .ok result → holds (.tests predicates) result)
    {expr : Expr} (compiled : compileExpr username expr = .ok result) : holds expr result := by
  -- the operands of a connective are a nested list, which has a motive of its own
  refine @Expr.rec
    (fun expr => ∀ result, compileExpr username expr = .ok result → holds expr result)
    (fun operands => ∀ parts, compileAll username operands = .ok parts →
      List.Forall₂ holds operands parts)
    ?anyOf ?allOf ?negation ?group ?row ?none ?more expr result compiled
  case anyOf =>
    intro operands each result compiled
    rw [compileExpr] at compiled
    obtain ⟨parts, compiledAll, combined⟩ := bind_eq_ok.mp compiled
    exact or (each parts compiledAll) (mapError_eq_ok.mp combined)
  case allOf =>
    intro operands each result compiled
    rw [compileExpr] at compiled
    obtain ⟨parts, compiledAll, combined⟩ := bind_eq_ok.mp compiled
    exact and (each parts compiledAll) (mapError_eq_ok.mp combined)
  case negation =>
    intro operand ih result compiled
    rw [compileExpr] at compiled
    obtain ⟨positive, inner, negated⟩ := bind_eq_ok.mp compiled
    cases negated
    exact not (ih positive inner)
  case group =>
    intro inner ih result compiled
    rw [compileExpr] at compiled
    obtain ⟨bare, within, enclosed⟩ := bind_eq_ok.mp compiled
    cases enclosed
    exact bracket (ih bare within)
  case row =>
    intro predicates result compiled
    rw [compileExpr] at compiled
    obtain ⟨parts, each, combined⟩ := bind_eq_ok.mp compiled
    exact tests (compilePredicates_ok each) (mapError_eq_ok.mp combined)
  case none =>
    intro parts compiled
    rw [compileAll] at compiled
    cases compiled
    exact .nil
  case more =>
    intro operand operands ih each parts compiled
    rw [compileAll] at compiled
    obtain ⟨first, start, remaining⟩ := bind_eq_ok.mp compiled
    obtain ⟨others, rest, joined⟩ := bind_eq_ok.mp remaining
    cases joined
    exact .cons (ih first start) (each others rest)

def keyItems (keys : List OrderKey) : List OrderItem :=
  keys.filterMap fun key => (Field.ofName? key.field).map fun field => ⟨orderExpr field, key.direction⟩

theorem addOrderKeys_sorts {keys : List OrderKey} (added : addOrderKeys username fragment keys = .ok result) :
    result.order = fragment.order ++ keyItems keys ∧ result.condition = fragment.condition ∧
      result.conditionParams = fragment.conditionParams := by
  induction keys generalizing fragment with
  | nil =>
    cases added
    simp [keyItems]
  | cons key keys ih =>
    obtain ⟨field, found, remaining⟩ := bind_eq_ok.mp added
    obtain ⟨required, joined, rest⟩ := bind_eq_ok.mp remaining
    obtain ⟨order, condition, params⟩ := ih rest
    rw [order, condition, params, requireField_ok (mapError_eq_ok.mp joined)]
    simp [Fragment.addOrder, keyItems, lookupField_ok found]

structure Invariant (username : String) (holds : Fragment → Prop) : Prop where
  empty : holds .empty
  condition : ∀ {sql params result}, condition sql params = .ok result → holds result
  requireField : ∀ {field fragment result}, holds fragment →
    requireField username field fragment = .ok result → holds result
  combine : ∀ {connective parts result}, (∀ part ∈ parts, holds part) →
    Fragment.combine connective parts = .ok result → holds result
  not : ∀ {fragment}, holds fragment → holds fragment.not
  enclose : ∀ {fragment}, holds fragment → holds fragment.enclose
  addOrder : ∀ {fragment} (field : Field) (direction : Direction), holds fragment →
    holds (fragment.addOrder (orderExpr field) direction)
  mergeOrder : ∀ {fragment other result}, holds fragment → holds other →
    fragment.mergeOrder other = .ok result → holds result

namespace Invariant

variable {holds : Fragment → Prop} (kept : Invariant username holds)

include kept

theorem compilePredicate {predicate : Predicate}
    (compiled : compilePredicate username predicate = .ok result) : holds result := by
  obtain ⟨field, column, test, _, _, ⟨sql, params, _, built⟩, required⟩ := compilePredicate_ok compiled
  exact kept.requireField (kept.condition built) required

theorem compileExpr {expr : Expr} (compiled : compileExpr username expr = .ok result) :
    holds result := by
  have connected : ∀ {connective operands parts result},
      List.Forall₂ (fun (_ : Expr) part => holds part) operands parts →
      Fragment.combine connective parts = .ok result → holds result := by
    intro connective operands parts result each combined
    refine kept.combine (fun part member => ?_) combined
    obtain ⟨_, _, found⟩ := exists_left_of_mem each member
    exact found
  refine compileExpr_induction connected connected kept.not kept.enclose ?tests compiled
  case tests =>
    intro predicates parts result each combined
    refine kept.combine (fun part member => ?_) combined
    obtain ⟨predicate, _, compiled⟩ := exists_left_of_mem each member
    exact kept.compilePredicate compiled

theorem compileQuery {query : String} (compiled : compileQuery query username = .ok result) :
    holds result := by
  unfold Sql.compileQuery at compiled
  split at compiled
  · cases compiled
    exact kept.empty
  · obtain ⟨expr, _, whole⟩ := bind_eq_ok.mp compiled
    exact kept.compileExpr whole

theorem restrict {scope : Scope} (started : holds fragment)
    (restricted : restrict scope fragment = .ok result) : holds result := by
  unfold Sql.restrict at restricted
  split at restricted
  · cases restricted
    exact started
  · obtain ⟨limit, built, joined⟩ := bind_eq_ok.mp restricted
    refine kept.combine ?_ (mapError_eq_ok.mp joined)
    simpa using ⟨started, kept.condition built⟩

theorem addOrderKeys {keys : List OrderKey} (started : holds fragment)
    (added : addOrderKeys username fragment keys = .ok result) : holds result := by
  induction keys generalizing fragment with
  | nil =>
    cases added
    exact started
  | cons key keys ih =>
    obtain ⟨field, _, remaining⟩ := bind_eq_ok.mp added
    obtain ⟨required, joined, rest⟩ := bind_eq_ok.mp remaining
    have sorted := kept.addOrder field key.direction
      (kept.requireField started (mapError_eq_ok.mp joined))
    exact ih sorted rest

theorem compile {query order : String} {scope : Scope}
    (compiled : compile query order username scope = .ok result) : holds result := by
  obtain ⟨matched, found, afterQuery⟩ := bind_eq_ok.mp compiled
  obtain ⟨restricted, limited, afterScope⟩ := bind_eq_ok.mp afterQuery
  obtain ⟨keys, _, afterKeys⟩ := bind_eq_ok.mp afterScope
  obtain ⟨sorted, ordered, merged⟩ := bind_eq_ok.mp afterKeys
  exact kept.mergeOrder (kept.restrict (kept.compileQuery found) limited)
    (kept.addOrderKeys kept.empty ordered) (mapError_eq_ok.mp merged)

end Invariant

end MediaSearch.Sql
