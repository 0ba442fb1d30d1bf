import MediaSearch.Proofs.Query.RoundTrip
import MediaSearch.Proofs.Sql.Provenance

set_option autoImplicit false

namespace MediaSearch.Sql

theorem placeholderCount_eq_zero {sql : String} : placeholderCount sql = 0 ↔ '?' ∉ sql.toList :=
  List.count_eq_zero

-- A literal is a list of characters by definition, which counts faster than its bytes.
theorem placeholderCount_ofList {sql : String} {chars : List Char} (same : sql = String.ofList chars) :
    placeholderCount sql = chars.count '?' := by
  rw [same, placeholderCount, String.toList_ofList]

theorem placeholderCount_empty : placeholderCount "" = 0 := rfl

@[simp] theorem placeholderCount_append (first second : String) :
    placeholderCount (first ++ second) = placeholderCount first + placeholderCount second := by
  simp [placeholderCount]

def placeholderTotal : List String → Nat
  | [] => 0
  | text :: texts => placeholderCount text + placeholderTotal texts

theorem placeholderTotal_eq_zero {texts : List String}
    (plain : ∀ text ∈ texts, placeholderCount text = 0) : placeholderTotal texts = 0 := by
  induction texts with
  | nil => rfl
  | cons text texts ih =>
    rw [placeholderTotal, plain text (by simp), ih fun later member => plain later (by simp [member])]

theorem placeholderCount_intercalate {separator : String} (plain : placeholderCount separator = 0)
    (texts : List String) :
    placeholderCount (separator.intercalate texts) = placeholderTotal texts := by
  rw [placeholderCount, String.toList_intercalate]
  induction texts with
  | nil => rfl
  | cons text texts ih =>
    cases texts with
    | nil => simp [placeholderCount, placeholderTotal]
    | cons second texts =>
      have none : separator.toList.count '?' = 0 := plain
      rw [List.map_cons] at ih
      rw [List.map_cons, List.map_cons, List.intercalate_cons_cons, List.count_append,
        List.count_append, none, ih]
      rfl

theorem placeholderCount_parenthesized (sql : String) :
    placeholderCount (parenthesized sql) = placeholderCount sql := by
  have opens : placeholderCount "(" = 0 := by decide
  have closes : placeholderCount ")" = 0 := by decide
  simp [parenthesized, opens, closes]

theorem placeholderCount_separator (connective : Connective) :
    placeholderCount connective.separator = 0 := by
  cases connective <;> decide

theorem placeholderTotal_parenthesized (texts : List String) :
    placeholderTotal (texts.map parenthesized) = placeholderTotal texts := by
  induction texts with
  | nil => rfl
  | cons text texts ih =>
    rw [List.map_cons, placeholderTotal, placeholderCount_parenthesized, ih, placeholderTotal]

theorem placeholderCount_joinConditions (connective : Connective) (conditions : List String) :
    placeholderCount (joinConditions connective conditions) = placeholderTotal conditions := by
  match conditions with
  | [] => rfl
  | [condition] => rfl
  | first :: second :: others =>
    rw [joinConditions_several,
      placeholderCount_intercalate (placeholderCount_separator connective),
      placeholderTotal_parenthesized]

def Fragment.ConditionBound (fragment : Fragment) : Prop :=
  placeholderCount fragment.condition = fragment.conditionParams.length

variable {fragment : Fragment}

theorem Fragment.ConditionBound.length_boundParams (bound : fragment.ConditionBound) :
    fragment.boundParams.length = placeholderCount fragment.condition := by
  unfold Fragment.boundParams
  split
  · next isEmpty =>
    have blank : fragment.condition = "" := by simpa using isEmpty
    rw [blank]
    rfl
  · exact bound.symm

-- Conditions that are left out because they are empty bind nothing.
theorem placeholderTotal_conditions {parts : List Fragment}
    (bound : ∀ part ∈ parts, part.ConditionBound) :
    placeholderTotal (Fragment.conditions parts) = (parts.flatMap Fragment.boundParams).length := by
  induction parts with
  | nil => rfl
  | cons part parts ih =>
    have first := (bound part (by simp)).length_boundParams
    have others := ih fun later member => bound later (by simp [member])
    rw [List.flatMap_cons, List.length_append, first, ← others]
    unfold Fragment.conditions
    by_cases blank : part.condition = ""
    · simp [blank, placeholderCount_empty]
    · simp [blank, placeholderTotal]

theorem conditionBound_combine {connective : Connective} {parts : List Fragment} {result : Fragment}
    (bound : ∀ part ∈ parts, part.ConditionBound)
    (combined : Fragment.combine connective parts = .ok result) : result.ConditionBound := by
  rw [Fragment.combine_ok combined]
  exact (placeholderCount_joinConditions connective _).trans (placeholderTotal_conditions bound)

theorem conditionBound_not (bound : fragment.ConditionBound) : fragment.not.ConditionBound := by
  unfold Fragment.not
  split
  · exact bound
  · have word : placeholderCount "NOT " = 0 := by decide
    simpa [Fragment.ConditionBound, placeholderCount_parenthesized, word] using bound

theorem conditionBound_enclose (bound : fragment.ConditionBound) : fragment.enclose.ConditionBound := by
  unfold Fragment.enclose
  split
  · exact bound
  · simpa [Fragment.ConditionBound, placeholderCount_parenthesized] using bound

theorem conditionBound_invariant (username : String) : Invariant username Fragment.ConditionBound where
  empty := rfl
  condition built := by
    obtain ⟨counted, same⟩ := condition_ok built
    rw [same]
    exact counted
  requireField bound required := by
    rw [requireField_ok required]
    exact bound
  combine bound combined := conditionBound_combine bound combined
  not bound := conditionBound_not bound
  enclose bound := conditionBound_enclose bound
  addOrder _ _ bound := bound
  mergeOrder bound _ merged := by
    rw [Fragment.mergeOrder_ok merged]
    exact bound

theorem ratingJoins_bound (username : String) : ∀ entry ∈ ratingJoins username,
    placeholderCount entry.2.sql = entry.2.param.toList.length := by
  have album : placeholderCount albumJoin = 0 := by
    rw [albumJoin, placeholderCount_ofList rfl]
    decide
  have rating : placeholderCount ratingJoin = 1 := by
    rw [ratingJoin, placeholderCount_ofList rfl]
    decide
  simpa [ratingJoins] using ⟨album, rating⟩

theorem starredJoins_bound (username : String) : ∀ entry ∈ starredJoins username,
    placeholderCount entry.2.sql = entry.2.param.toList.length := by
  have starred : placeholderCount starredJoin = 1 := by
    rw [starredJoin, placeholderCount_ofList rfl]
    decide
  simpa [starredJoins] using starred

theorem fieldJoins_bound {username : String} {field : Field} {entry : String × Join}
    (needed : entry ∈ fieldJoins username field) :
    placeholderCount entry.2.sql = entry.2.param.toList.length := by
  cases field
  case albumRating => exact ratingJoins_bound username entry needed
  case starred => exact starredJoins_bound username entry needed
  case ranking =>
    rcases List.mem_append.mp needed with rating | starred
    · exact ratingJoins_bound username entry rating
    · exact starredJoins_bound username entry starred
  all_goals cases needed

theorem daysSince_plain {column : String} (plain : placeholderCount column = 0) :
    placeholderCount (daysSince column) = 0 := by
  have start : placeholderCount "(CASE WHEN " = 0 := by decide
  have opens : placeholderCount "DATEDIFF(DAY, " = 0 := by decide
  have closes : placeholderCount ", NOW())" = 0 := by decide
  have middle : placeholderCount " <= 0 THEN 1 ELSE " = 0 := by decide
  have final : placeholderCount " END)" = 0 := by decide
  -- no equation lemma: two long texts would be compared byte by byte
  delta daysSince
  simp only [placeholderCount_append, plain, start, opens, closes, middle, final]

theorem fieldSelects_plain {field : Field} {entry : String × String}
    (needed : entry ∈ fieldSelects field) :
    placeholderCount entry.1 = 0 ∧ placeholderCount entry.2 = 0 := by
  cases field
  case ranking =>
    simp only [fieldSelects, rankingSelects, List.mem_cons, List.not_mem_nil, or_false] at needed
    rcases needed with rfl | rfl | rfl | rfl | rfl | rfl
    · exact ⟨by decide, daysSince_plain (by decide)⟩
    · exact ⟨by decide, daysSince_plain (by decide)⟩
    · exact ⟨by decide, daysSince_plain (by decide)⟩
    all_goals exact ⟨by decide, by decide⟩
  all_goals cases needed

theorem column_plain {field : Field} {column : Column} (found : field.column? = some column) :
    placeholderCount column.qualified = 0 := by
  refine placeholderCount_eq_zero.mpr fun member => ?_
  rcases field.column?_chars found '?' member with word | dot
  · exact absurd word (by decide)
  · exact absurd dot (by decide)

theorem orderExpr_plain (field : Field) : placeholderCount (orderExpr field) = 0 := by
  unfold orderExpr
  split
  · next column found => exact column_plain found
  · rw [rankingOrder, placeholderCount_ofList rfl]
    decide

theorem placeholderTotal_joins {joins : List Join}
    (bound : ∀ join ∈ joins, placeholderCount join.sql = join.param.toList.length) :
    placeholderTotal (joins.map (·.sql)) = (joins.filterMap (·.param)).length := by
  induction joins with
  | nil => rfl
  | cons join joins ih =>
    have first := bound join (by simp)
    have others := ih fun later member => bound later (by simp [member])
    cases param : join.param with
    | none => simp [placeholderTotal, first, others, param]
    | some text => simp [placeholderTotal, first, others, param, Nat.add_comm]

theorem placeholderCount_joinClause (bound : ∀ entry ∈ fragment.joins.entries,
    placeholderCount entry.2.sql = entry.2.param.toList.length) :
    placeholderCount fragment.joinClause = fragment.joinParams.length := by
  have each : ∀ join ∈ fragment.joins.values,
      placeholderCount join.sql = join.param.toList.length := by
    intro join member
    obtain ⟨entry, present, rfl⟩ := List.mem_map.mp member
    exact bound entry present
  rw [Fragment.joinClause, placeholderCount_intercalate (by decide), placeholderTotal_joins each]
  rfl

theorem placeholderCount_selectClause (plain : ∀ entry ∈ fragment.selects.entries,
    placeholderCount entry.1 = 0 ∧ placeholderCount entry.2 = 0) :
    placeholderCount fragment.selectClause = 0 := by
  have word : placeholderCount " AS " = 0 := by decide
  rw [Fragment.selectClause, placeholderCount_intercalate (by decide)]
  refine placeholderTotal_eq_zero fun text member => ?_
  obtain ⟨entry, present, rfl⟩ := List.mem_map.mp member
  simp [word, plain entry present]

theorem placeholderCount_orderClause
    (plain : ∀ item ∈ fragment.order, placeholderCount item.expr = 0) :
    placeholderCount fragment.orderClause = 0 := by
  rw [Fragment.orderClause, placeholderCount_intercalate (by decide)]
  refine placeholderTotal_eq_zero fun text member => ?_
  obtain ⟨item, present, rfl⟩ := List.mem_map.mp member
  have direction : placeholderCount item.direction.sql = 0 := by
    cases item.direction <;> decide
  have blank : placeholderCount " " = 0 := by decide
  simp [OrderItem.render, plain item present, direction, blank]

namespace Fragment

def opening (fragment : Fragment) (table columns : String) : String :=
  "SELECT " ++ columns ++ (if fragment.selects.isEmpty then "" else ", " ++ fragment.selectClause) ++
    " FROM " ++ table ++ (if fragment.joins.isEmpty then "" else " ")

def closing (fragment : Fragment) : String :=
  if fragment.order.isEmpty then "" else " ORDER BY " ++ fragment.orderClause

theorem statement_eq (fragment : Fragment) (table columns : String) :
    fragment.statement table columns =
      fragment.opening table columns ++ fragment.joinClause ++
        (if fragment.condition.isEmpty then "" else " WHERE ") ++ fragment.condition ++
        fragment.closing := by
  have joins : (if fragment.joins.isEmpty then "" else " " ++ fragment.joinClause) =
      (if fragment.joins.isEmpty then "" else " ") ++ fragment.joinClause := by
    by_cases none : fragment.joins.isEmpty = true
    · have entries : fragment.joins.entries = [] := by simpa [AliasMap.isEmpty] using none
      simp [joinClause, AliasMap.values, entries, none]
    · simp [none]
  have restriction : (if fragment.condition.isEmpty then "" else " WHERE " ++ fragment.condition) =
      (if fragment.condition.isEmpty then "" else " WHERE ") ++ fragment.condition := by
    by_cases none : fragment.condition.isEmpty = true
    · have blank : fragment.condition = "" := by simpa using none
      simp [blank]
    · simp [none]
  delta statement opening closing
  simp only [joins, restriction, String.append_assoc]

theorem opening_plain {table columns : String} (plain : placeholderCount fragment.selectClause = 0)
    (plainTable : placeholderCount table = 0) (plainColumns : placeholderCount columns = 0) :
    placeholderCount (fragment.opening table columns) = 0 := by
  have select : placeholderCount "SELECT " = 0 := by decide
  have source : placeholderCount " FROM " = 0 := by decide
  have comma : placeholderCount ", " = 0 := by decide
  have blank : placeholderCount " " = 0 := by decide
  have columns : placeholderCount
      (if fragment.selects.isEmpty then "" else ", " ++ fragment.selectClause) = 0 := by
    split
    · rfl
    · rw [placeholderCount_append, comma, plain]
  have joins : placeholderCount (if fragment.joins.isEmpty then "" else " ") = 0 := by
    split
    · rfl
    · exact blank
  delta opening
  simp only [placeholderCount_append, select, source, columns, joins, plainTable, plainColumns]

theorem closing_plain (plain : placeholderCount fragment.orderClause = 0) :
    placeholderCount fragment.closing = 0 := by
  have words : placeholderCount " ORDER BY " = 0 := by decide
  unfold closing
  split
  · rfl
  · simp [words, plain]

end Fragment

-- The placeholders of the statement are those of the joins and then those of the condition, and the
-- parameters fall into the ones bound to each.
structure Fragment.Bindable (fragment : Fragment) (table columns : String) : Prop where
  placed : ∃ opening middle closing, fragment.statement table columns =
      opening ++ fragment.joinClause ++ middle ++ fragment.condition ++ closing ∧
    '?' ∉ opening.toList ∧ '?' ∉ middle.toList ∧ '?' ∉ closing.toList
  selects : '?' ∉ fragment.selectClause.toList
  order : '?' ∉ fragment.orderClause.toList
  count : placeholderCount (fragment.statement table columns) = fragment.params.length
  split : fragment.params.splitAt (placeholderCount fragment.joinClause) =
    (fragment.joinParams, fragment.conditionParams)

theorem compile_bindable {query order username table columns : String} {scope : Scope}
    {fragment : Fragment} (compiled : compile query order username scope = .ok fragment)
    (plainTable : '?' ∉ table.toList) (plainColumns : '?' ∉ columns.toList) :
    fragment.Bindable table columns := by
  have bound : fragment.ConditionBound := (conditionBound_invariant username).compile compiled
  have made : fragment.OfFields username := (ofFields_invariant username).compile compiled
  have joins : placeholderCount fragment.joinClause = fragment.joinParams.length :=
    placeholderCount_joinClause fun entry present => by
      obtain ⟨field, needed⟩ := made.joins entry present
      exact fieldJoins_bound needed
  have selects : placeholderCount fragment.selectClause = 0 :=
    placeholderCount_selectClause fun entry present => by
      obtain ⟨field, needed⟩ := made.selects entry present
      exact fieldSelects_plain needed
  have sorting : placeholderCount fragment.orderClause = 0 :=
    placeholderCount_orderClause fun item present => by
      obtain ⟨field, same⟩ := made.order item present
      rw [same, orderExpr_plain]
  have opening := Fragment.opening_plain selects (placeholderCount_eq_zero.mpr plainTable)
    (placeholderCount_eq_zero.mpr plainColumns)
  have middle : placeholderCount (if fragment.condition.isEmpty then "" else " WHERE ") = 0 := by
    split <;> decide
  have closing := Fragment.closing_plain sorting
  constructor
  case placed =>
    exact ⟨_, _, _, fragment.statement_eq table columns, placeholderCount_eq_zero.mp opening,
      placeholderCount_eq_zero.mp middle, placeholderCount_eq_zero.mp closing⟩
  case selects => exact placeholderCount_eq_zero.mp selects
  case order => exact placeholderCount_eq_zero.mp sorting
  case count =>
    simp only [Fragment.statement_eq, placeholderCount_append, opening, middle, closing, joins,
      Fragment.params, List.length_append]
    rw [bound]
    omega
  case split =>
    rw [joins, List.splitAt_eq, Fragment.params, List.take_left, List.drop_left]

theorem compile_bindable_starred :
    ∃ fragment, compile "starred=yes title=\"who?\"" "-year" "a?b" .songs = .ok fragment ∧
      fragment.joinParams = ["a?b"] ∧ fragment.conditionParams = ["who?"] ∧
      '?' ∉ "media_file".toList ∧ '?' ∉ "id".toList ∧ fragment.Bindable "media_file" "id" := by
  have starred : Query.Predicate.Canonical (.compare "starred" .exactly "yes") :=
    ⟨⟨by decide, Query.forall_chars (by decide)⟩,
      .inr ⟨by decide, Query.forall_chars (by decide), by decide, by decide, by decide⟩⟩
  have title : Query.Predicate.Canonical (.compare "title" .exactly "\"who?\"") :=
    ⟨⟨by decide, Query.forall_chars (by decide)⟩, .inl ⟨"who?".toList, by decide, by decide⟩⟩
  have canonical : Query.Expr.Canonical
      (.tests [.compare "starred" .exactly "yes", .compare "title" .exactly "\"who?\""]) :=
    .tests (by simp) (List.forall_mem_cons.mpr ⟨starred, List.forall_mem_singleton.mpr title⟩)
  have written : Query.Expr.render
      (.tests [.compare "starred" .exactly "yes", .compare "title" .exactly "\"who?\""]) =
        "starred=yes title=\"who?\"" := by
    decide
  have parsed : Query.parse "starred=yes title=\"who?\"" =
      .ok (.tests [.compare "starred" .exactly "yes", .compare "title" .exactly "\"who?\""]) := by
    rw [← written]
    exact Query.parse_of_scans canonical.scans (canonical.spelled (by decide))
  have found : (compile "starred=yes title=\"who?\"" "-year" "a?b" .songs).toOption.map
      (fun fragment => (fragment.joinParams, fragment.conditionParams)) = some (["a?b"], ["who?"]) := by
    rw [compile, compileQuery, if_neg (by decide), parseQuery, parsed]
    decide +kernel
  cases compiled : compile "starred=yes title=\"who?\"" "-year" "a?b" .songs with
  | error error => simp [compiled, Except.toOption] at found
  | ok fragment =>
    obtain ⟨joins, conditions⟩ : fragment.joinParams = ["a?b"] ∧ fragment.conditionParams = ["who?"] := by
      simpa [compiled, Except.toOption] using found
    exact ⟨fragment, rfl, joins, conditions, by decide, by decide,
      compile_bindable compiled (by decide) (by decide)⟩

end MediaSearch.Sql
