import MediaSearch.Proofs.Query.Composition
import MediaSearch.Proofs.Sql.Compatible
import MediaSearch.Proofs.Sql.Union

set_option autoImplicit false

namespace MediaSearch.Sql

open Query (IsBareValue IsBound IsFieldName IsQuoted Operator Predicate)

variable {username : String} {field : Field} {column : Column} {predicate : Predicate} {fragment : Fragment}

theorem Fragment.mergeOrder_empty (fragment : Fragment) : fragment.mergeOrder empty = .ok fragment := by
  simp [mergeOrder, mergeJoins, mergeSelects, empty, AliasMap.empty, Bind.bind, Except.bind, pure, Except.pure]

theorem parse_predicate (canonical : predicate.Canonical) :
    Query.parse predicate.render = .ok (.tests [predicate]) :=
  Query.parse_of_scans canonical.scans
    (Query.SpelledOperand.tests.mpr (.one predicate.spelled)).spelledExpr

theorem isBlankText_of_parse {query : String} {expr : Query.Expr} (parsed : Query.parse query = .ok expr) :
    Text.isBlankText query = false := by
  rw [Bool.eq_false_iff]
  intro blank
  have none : Query.tokenize query = .ok [] :=
    Query.tokenize_eq_ok.mpr (Query.scanFrom_gap (List.all_eq_true.mp blank))
  rw [Query.parse, none] at parsed
  cases parsed

theorem compileExpr_predicate (compiled : compilePredicate username predicate = .ok fragment) :
    compileExpr username (.tests [predicate]) = .ok fragment := by
  have bound : fragment.ConditionBound := (conditionBound_invariant username).compilePredicate compiled
  have row : compilePredicates username [predicate] = .ok [fragment] := by
    rw [compilePredicates, compiled]
    rfl
  rw [compileExpr, row]
  exact congrArg (Except.mapError _) (Fragment.combine_single .and bound)

theorem compile_predicate (canonical : predicate.Canonical)
    (compiled : compilePredicate username predicate = .ok fragment) :
    compile predicate.render "" username .all = .ok fragment := by
  have matched : compileQuery predicate.render username = .ok fragment := by
    have parsed := parse_predicate canonical
    rw [compileQuery, isBlankText_of_parse parsed, parseQuery, parsed]
    exact compileExpr_predicate compiled
  rw [compile, matched]
  exact congrArg (Except.mapError CompileError.fragment) fragment.mergeOrder_empty

def Fragment.Binds (sql : String) (texts : List String) (fragment : Fragment) : Prop :=
  fragment.condition = sql ∧ fragment.conditionParams = texts

theorem lookupField_name (field : Field) : lookupField field.name = .ok field := by
  cases field <;> rfl

theorem stripQuotes_quoted (text : String) : stripQuotes ("\"" ++ text ++ "\"") = text := by
  simp [stripQuotes]

theorem stripQuotes_bare {text : String} (noQuote : text.toList.head? ≠ some '"') : stripQuotes text = text := by
  unfold stripQuotes
  split
  · next rest starts => simp [starts] at noQuote
  · rfl

-- Joins and columns of the field are added, and the condition stays as it is.
theorem test_binds (username : String) (field : Field) {sql : String} {texts : List String}
    (counted : placeholderCount sql = texts.length) :
    Returns (Fragment.Binds sql texts)
      (condition sql texts >>= fun test => (requireField username field test).mapError CompileError.fragment) := by
  obtain ⟨test, built, made⟩ := (condition_returns counted).exists_ok
  obtain ⟨result, required, -⟩ := (requireField_returns field (made username)).exists_ok
  have whole := requireField_ok required
  rw [(condition_ok built).2] at whole
  rw [built]
  apply Returns.mapError
  rw [required, whole]
  exact .ok ⟨rfl, rfl⟩

def ValueType.isBound (valueType : ValueType) : Prop := valueType ∈ [.text, .exactText, .integer, .date]

theorem compare_exactly (bound : field.valueType.isBound) (found : field.column? = some column)
    (value : String) : compare field .exactly value = condition (column.qualified ++ " = ?") [value] := by
  have joined : column.qualified ++ " " ++ "=" ++ " ?" = column.qualified ++ " = ?" := by
    simp [String.append_assoc]
  have test : Sql.bind column.qualified "=" value = condition (column.qualified ++ " = ?") [value] := by
    rw [Sql.bind, joined]
  rw [compare, found, ← test]
  simp only [ValueType.isBound, List.mem_cons, List.not_mem_nil, or_false] at bound
  rcases bound with same | same | same | same
  all_goals
    rw [same]
    rfl

theorem compilePredicate_exactly (bound : field.valueType.isBound) (found : field.column? = some column)
    (username value : String) :
    Returns (Fragment.Binds (column.qualified ++ " = ?") [stripQuotes value])
      (compilePredicate username (.compare field.name .exactly value)) := by
  have mark : placeholderCount " = ?" = 1 := by decide
  have counted : placeholderCount (column.qualified ++ " = ?") = [stripQuotes value].length := by
    simp [column_plain found, mark]
  have test := test_binds username field counted
  rw [← compare_exactly bound found] at test
  rw [compilePredicate, Predicate.field, lookupField_name]
  exact test

def rangeCondition (name : String) : String :=
  name ++ " IS NOT NULL AND " ++ name ++ " >= ? AND " ++ name ++ " <= ?"

theorem compilePredicate_between (ordered : field.valueType.isOrdered = true)
    (found : field.column? = some column) (username low high : String) :
    Returns (Fragment.Binds (rangeCondition column.qualified) [stripQuotes low, stripQuotes high])
      (compilePredicate username (.between field.name low high)) := by
  have start : placeholderCount " IS NOT NULL AND " = 0 := by decide
  have lower : placeholderCount " >= ? AND " = 1 := by decide
  have upper : placeholderCount " <= ?" = 1 := by decide
  have counted : placeholderCount (rangeCondition column.qualified) =
      [stripQuotes low, stripQuotes high].length := by
    simp [rangeCondition, column_plain found, start, lower, upper]
  have within : between field (stripQuotes low) (stripQuotes high) =
      condition (rangeCondition column.qualified) [stripQuotes low, stripQuotes high] := by
    rw [between, found]
    exact if_pos ordered
  have test := test_binds username field counted
  rw [← within] at test
  rw [compilePredicate, Predicate.field, lookupField_name]
  exact test

theorem compile_binds {sql : String} {texts : List String} (canonical : predicate.Canonical)
    (binds : Returns (Fragment.Binds sql texts) (compilePredicate username predicate)) :
    Returns (Fragment.Binds sql texts) (compile predicate.render "" username .all) := by
  obtain ⟨fragment, compiled, right⟩ := binds.exists_ok
  rw [compile_predicate canonical compiled]
  exact .ok right

theorem isFieldName_name (field : Field) : IsFieldName field.name.toList := by
  cases field <;> exact ⟨by decide, Query.forall_chars (by decide)⟩

theorem isQuoted_quoted {text : String} (plain : '"' ∉ text.toList) : IsQuoted ("\"" ++ text ++ "\"").toList :=
  ⟨text.toList, by simp, plain⟩

theorem exists_column (bound : field.valueType.isBound) : ∃ column, field.column? = some column := by
  cases field
  case ranking => simp [ValueType.isBound, Field.valueType] at bound
  all_goals exact ⟨_, rfl⟩

theorem compile_binds_values_as_written (bound : field.valueType ∈ [.text, .exactText, .integer, .date])
    (username : String) :
    ∃ column, field.column? = some column ∧
      (∀ text : String, '"' ∉ text.toList →
        Returns (Fragment.Binds (column.table ++ "." ++ column.name ++ " = ?") [text])
          (compile (field.name ++ "=\"" ++ text ++ "\"") "" username .all)) ∧
      (∀ text : String, text ≠ "" → (∀ c ∈ text.toList, Text.isBlank c = false ∧ c ≠ '(' ∧ c ≠ ')') →
        text.toList.head? ≠ some '[' → text.toList.head? ≠ some '"' →
        Returns (Fragment.Binds (column.table ++ "." ++ column.name ++ " = ?") [text])
          (compile (field.name ++ "=" ++ text) "" username .all)) ∧
      (field.valueType ∈ [.integer, .date] → ∀ low high : String, '"' ∉ low.toList → '"' ∉ high.toList →
        Returns (Fragment.Binds (rangeCondition (column.table ++ "." ++ column.name)) [low, high])
          (compile (field.name ++ ":[\"" ++ low ++ "\" TO \"" ++ high ++ "\"]") "" username .all)) := by
  obtain ⟨column, found⟩ := exists_column bound
  refine ⟨column, found, ?quoted, ?bare, ?range⟩
  case quoted =>
    intro text plain
    have canonical : Predicate.Canonical (.compare field.name .exactly ("\"" ++ text ++ "\"")) :=
      ⟨isFieldName_name field, .inl (isQuoted_quoted plain)⟩
    have written : Predicate.render (.compare field.name .exactly ("\"" ++ text ++ "\"")) =
        field.name ++ "=\"" ++ text ++ "\"" := by
      apply String.toList_inj.mp
      simp [Predicate.render, Operator.symbol]
    have binds := compile_binds canonical (compilePredicate_exactly bound found username _)
    rwa [stripQuotes_quoted, written] at binds
  case bare =>
    intro text nonempty plain noRange noQuote
    have bare : IsBareValue .exactly text.toList := ⟨by simpa using nonempty, plain, noRange, noQuote, by simp⟩
    have canonical : Predicate.Canonical (.compare field.name .exactly text) :=
      ⟨isFieldName_name field, .inr bare⟩
    have binds := compile_binds canonical (compilePredicate_exactly bound found username text)
    rwa [stripQuotes_bare noQuote] at binds
  case range =>
    intro sized low high plainLow plainHigh
    have ordered : field.valueType.isOrdered = true := by
      simp only [List.mem_cons, List.not_mem_nil, or_false] at sized
      rcases sized with same | same <;> rw [same] <;> rfl
    have canonical : Predicate.Canonical (.between field.name ("\"" ++ low ++ "\"") ("\"" ++ high ++ "\"")) :=
      ⟨isFieldName_name field, .inl (isQuoted_quoted plainLow), .inl (isQuoted_quoted plainHigh)⟩
    have written : Predicate.render (.between field.name ("\"" ++ low ++ "\"") ("\"" ++ high ++ "\"")) =
        field.name ++ ":[\"" ++ low ++ "\" TO \"" ++ high ++ "\"]" := by
      apply String.toList_inj.mp
      simp [Predicate.render]
    have binds := compile_binds canonical (compilePredicate_between ordered found username _ _)
    rwa [stripQuotes_quoted, stripQuotes_quoted, written] at binds

theorem compile_binds_values_as_written_rating :
    Returns (Fragment.Binds "user_rating.rating = ?" ["5] OR (x=?"])
        (compile "albumrating=\"5] OR (x=?\"" "" "ann" .all) ∧
      Returns (Fragment.Binds "user_rating.rating = ?" ["=null:[?"])
        (compile "albumrating==null:[?" "" "ann" .all) ∧
      Returns (Fragment.Binds
          "user_rating.rating IS NOT NULL AND user_rating.rating >= ? AND user_rating.rating <= ?" ["", "1 TO 2]"])
        (compile "albumrating:[\"\" TO \"1 TO 2]\"]" "" "ann" .all) := by
  obtain ⟨column, found, quoted, bare, range⟩ :=
    @compile_binds_values_as_written .albumRating (by decide) "ann"
  obtain rfl : ⟨"user_rating", "rating"⟩ = column := Option.some.inj found
  exact ⟨quoted "5] OR (x=?" (by decide),
    bare "=null:[?" (by decide) (Query.forall_chars (by decide)) (by decide) (by decide),
    range (by decide) "" "1 TO 2]" (by decide) (by decide)⟩

end MediaSearch.Sql
