import MediaSearch.Proofs.Query.Faults
import MediaSearch.Proofs.Query.OrderLists
import MediaSearch.Proofs.Sql.Compatible

set_option autoImplicit false

namespace MediaSearch.Sql

open Query (Expr Operator OrderKey Predicate)

variable {username : String}

inductive CompileError.OfTest : CompileError → Prop
  | unknownField (name : String) : OfTest (.unknownField name)
  | unsupportedOperator (field : Field) (operator : String) : OfTest (.unsupportedOperator field operator)
  | invalidLiteral (field : Field) (literal : String) : OfTest (.invalidLiteral field literal)

inductive CompileError.OfSearch : CompileError → Prop
  | unreadable (error : Query.SyntaxError) : OfSearch (.parse (.malformed error))
  | test {error : CompileError} (ofTest : error.OfTest) : OfSearch error

section Tests

variable {field : Field} {column value : String} {op : Operator}

def Fragment.FitsAnyUser (test : Fragment) : Prop := ∀ username, test.OfFields username

theorem unbound_returns {words : String} (plain : placeholderCount column = 0)
    (noMark : placeholderCount words = 0) :
    Returns Fragment.FitsAnyUser (condition (column ++ words) []) :=
  condition_returns (by simp [plain, noMark])

theorem bind_returns {sqlOperator : String} (plain : placeholderCount column = 0)
    (symbol : placeholderCount sqlOperator = 0) :
    Returns Fragment.FitsAnyUser (bind column sqlOperator value) := by
  have blank : placeholderCount " " = 0 := by decide
  have mark : placeholderCount " ?" = 1 := by decide
  exact condition_returns (by simp [plain, symbol, blank, mark])

theorem bindBelow_returns {sqlOperator : String} (plain : placeholderCount column = 0)
    (symbol : placeholderCount sqlOperator = 0) :
    Returns Fragment.FitsAnyUser (bindBelow column sqlOperator value) := by
  have words : placeholderCount " IS NULL OR " = 0 := by decide
  have blank : placeholderCount " " = 0 := by decide
  have mark : placeholderCount " ?" = 1 := by decide
  exact condition_returns (by simp [plain, symbol, words, blank, mark])

theorem compareText_ends (plain : placeholderCount column = 0) :
    Ends Fragment.FitsAnyUser CompileError.OfTest (compareText field column value op) := by
  cases op
  case exactly => exact (bind_returns plain (by decide)).ends
  case contains =>
    rw [compareText]
    split
    · exact (unbound_returns plain (by decide)).ends
    · have start : placeholderCount "lower(" = 0 := by decide
      have mark : placeholderCount ") LIKE ?" = 1 := by decide
      exact (condition_returns (by simp [plain, start, mark])).ends
  case regexp =>
    have start : placeholderCount "regexp_matches(" = 0 := by decide
    have mark : placeholderCount ", ?)" = 1 := by decide
    exact (condition_returns (by simp [plain, start, mark])).ends
  all_goals exact .error (.unsupportedOperator field _)

theorem compareExactText_ends (plain : placeholderCount column = 0) :
    Ends Fragment.FitsAnyUser CompileError.OfTest (compareExactText field column value op) := by
  cases op
  case exactly => exact (bind_returns plain (by decide)).ends
  case contains =>
    rw [compareExactText]
    split
    · exact (unbound_returns plain (by decide)).ends
    · exact (bind_returns plain (by decide)).ends
  all_goals exact .error (.unsupportedOperator field _)

theorem compareOrdered_ends (plain : placeholderCount column = 0) :
    Ends Fragment.FitsAnyUser CompileError.OfTest (compareOrdered field column value op) := by
  cases op
  case exactly => exact (bind_returns plain (by decide)).ends
  case contains =>
    rw [compareOrdered]
    split
    · exact (unbound_returns plain (by decide)).ends
    · exact (bind_returns plain (by decide)).ends
  case less => exact (bindBelow_returns plain (by decide)).ends
  case atMost => exact (bindBelow_returns plain (by decide)).ends
  case greater => exact (bind_returns plain (by decide)).ends
  case atLeast => exact (bind_returns plain (by decide)).ends
  case regexp => exact .error (.unsupportedOperator field _)

theorem compareFlag_ends (plain : placeholderCount column = 0) :
    Ends Fragment.FitsAnyUser CompileError.OfTest (compareFlag field column value) := by
  simp only [compareFlag]
  split
  · exact (unbound_returns plain (by decide)).ends
  · split
    · exact (unbound_returns plain (by decide)).ends
    · exact .error (.invalidLiteral field value)

theorem compare_ends : Ends Fragment.FitsAnyUser CompileError.OfTest (compare field op value) := by
  unfold compare
  split
  · exact .error (.unsupportedOperator field _)
  · next column found =>
    have plain := column_plain found
    split
    · exact compareText_ends plain
    · exact compareExactText_ends plain
    · exact compareOrdered_ends plain
    · exact compareOrdered_ends plain
    · split
      · exact compareFlag_ends plain
      · exact compareFlag_ends plain
      · exact .error (.unsupportedOperator field _)
    · exact .error (.unsupportedOperator field _)

theorem between_ends {low high : String} :
    Ends Fragment.FitsAnyUser CompileError.OfTest (between field low high) := by
  unfold between
  split
  · exact .error (.unsupportedOperator field _)
  · next column found =>
    split
    · have plain := column_plain found
      have start : placeholderCount " IS NOT NULL AND " = 0 := by decide
      have lower : placeholderCount " >= ? AND " = 1 := by decide
      have upper : placeholderCount " <= ?" = 1 := by decide
      exact (condition_returns (by simp [plain, start, lower, upper])).ends
    · exact .error (.unsupportedOperator field _)

def fieldFailure? (name : String) : Option CompileError :=
  if (Field.ofName? name).isNone then some (.unknownField name) else none

theorem eq_of_fieldFailure? {name : String} {error : CompileError}
    (failed : fieldFailure? name = some error) : error = .unknownField name := by
  unfold fieldFailure? at failed
  split at failed
  · exact (Option.some.inj failed).symm
  · cases failed

theorem lookupField_reports (name : String) :
    Reports (fieldFailure? name) (fun _ => True) (lookupField name) := by
  unfold lookupField fieldFailure?
  cases Field.ofName? name with
  | some field => exact .ok ⟨rfl, trivial⟩
  | none => exact .error rfl

-- The field of a test and its condition, which are the same for every user.
def predicateTest (predicate : Predicate) : Except CompileError (Field × Fragment) := do
  let field ← lookupField predicate.field
  let test ←
    match predicate with
    | .compare _ op value => compare field op (stripQuotes value)
    | .between _ low high => between field (stripQuotes low) (stripQuotes high)
  return (field, test)

theorem predicateTest_ends (predicate : Predicate) :
    Ends (fun found => found.2.FitsAnyUser) CompileError.OfTest (predicateTest predicate) := by
  have unknown (error : CompileError) (failed : fieldFailure? predicate.field = some error) :
      error.OfTest := by
    rw [eq_of_fieldFailure? failed]
    exact .unknownField predicate.field
  refine Ends.bind (lookupField_reports predicate.field) unknown fun field _ => ?_
  cases predicate with
  | compare name op value => exact compare_ends.bind (fun _ => id) fun _ fits => .ok fits
  | between name low high => exact between_ends.bind (fun _ => id) fun _ fits => .ok fits

theorem compilePredicate_eq (predicate : Predicate) :
    compilePredicate username predicate =
      predicateTest predicate >>= fun found => (requireField username found.1 found.2).mapError .fragment := by
  cases predicate <;> simp only [compilePredicate, predicateTest, bind_assoc, pure_bind]

theorem compilePredicate_reports (predicate : Predicate) :
    Reports (failure? (predicateTest predicate)) (Fragment.OfFields username)
      (compilePredicate username predicate) := by
  rw [compilePredicate_eq]
  refine (Reports.of_ends (predicateTest_ends predicate)).andThen fun found fits => ?_
  exact (requireField_returns found.1 (fits username)).mapError

end Tests

theorem findSome?_cons_or {α β : Type} (f : α → Option β) (first : α) (others : List α) :
    (first :: others).findSome? f = (f first).or (others.findSome? f) := by
  rw [List.findSome?_cons]
  cases f first <;> rfl

def testsFailure? (predicates : List Predicate) : Option CompileError :=
  predicates.findSome? fun predicate => failure? (predicateTest predicate)

theorem testsFailure?_append (first second : List Predicate) :
    testsFailure? (first ++ second) = (testsFailure? first).or (testsFailure? second) :=
  List.findSome?_append

theorem compilePredicates_reports (predicates : List Predicate) :
    Reports (testsFailure? predicates) (fun parts => ∀ part ∈ parts, part.OfFields username)
      (compilePredicates username predicates) := by
  induction predicates with
  | nil => exact .ok ⟨rfl, by simp⟩
  | cons predicate predicates ih =>
    rw [testsFailure?, findSome?_cons_or]
    refine (compilePredicate_reports predicate).bind fun part _ made => ?_
    exact ih.andThen fun parts each => .ok (List.forall_mem_cons.mpr ⟨made, each⟩)

theorem compileExpr_reports (expr : Expr) :
    Reports (testsFailure? expr.predicates) (Fragment.OfFields username) (compileExpr username expr) := by
  refine @Expr.rec
    (fun expr => Reports (testsFailure? expr.predicates) (Fragment.OfFields username)
      (compileExpr username expr))
    (fun operands => Reports (testsFailure? (Expr.predicatesAll operands))
      (fun parts => ∀ part ∈ parts, part.OfFields username) (compileAll username operands))
    ?anyOf ?allOf ?negation ?group ?row ?none ?more expr
  case anyOf =>
    intro operands each
    rw [compileExpr, Expr.predicates]
    exact each.andThen fun parts made => combine_returns .or made
  case allOf =>
    intro operands each
    rw [compileExpr, Expr.predicates]
    exact each.andThen fun parts made => combine_returns .and made
  case negation =>
    intro operand ih
    rw [compileExpr, Expr.predicates]
    exact ih.andThen fun fragment made => .ok made.not
  case group =>
    intro inner ih
    rw [compileExpr, Expr.predicates]
    exact ih.andThen fun fragment made => .ok made.enclose
  case row =>
    intro predicates
    rw [compileExpr, Expr.predicates]
    exact (compilePredicates_reports predicates).andThen fun parts made => combine_returns .and made
  case none =>
    rw [compileAll, Expr.predicatesAll]
    exact .ok ⟨rfl, by simp⟩
  case more =>
    intro operand operands ih each
    rw [compileAll, Expr.predicatesAll, testsFailure?_append]
    refine ih.bind fun part _ made => ?_
    exact each.andThen fun parts others => .ok (List.forall_mem_cons.mpr ⟨made, others⟩)

def keysFailure? (keys : List OrderKey) : Option CompileError :=
  keys.findSome? fun key => fieldFailure? key.field

theorem addOrderKeys_reports {fragment : Fragment} (made : fragment.OfFields username)
    (keys : List OrderKey) :
    Reports (keysFailure? keys) (Fragment.OfFields username) (addOrderKeys username fragment keys) := by
  induction keys generalizing fragment with
  | nil => exact .ok ⟨rfl, made⟩
  | cons key keys ih =>
    rw [keysFailure?, findSome?_cons_or]
    refine (lookupField_reports key.field).bind fun field _ _ => ?_
    refine (requireField_returns field made).mapError.bind fun required joined => ?_
    exact ih (joined.addOrder ⟨field, rfl⟩)

def queryTests (query : String) : Except Query.ParseError (List Predicate) :=
  if Text.isBlankText query then .ok [] else (Query.parse query).map Expr.predicates

theorem queryTests_ends (query : String) :
    Ends (fun _ => True) (Query.ParseError.Placed query) (queryTests query) := by
  unfold queryTests
  split
  · exact .ok trivial
  · exact (Query.parse_ends query).map (fun _ _ => trivial) fun _ => id

def queryFailure? (query : String) : Option CompileError :=
  ((failure? (queryTests query)).map .parse).or (testsFailure? ((queryTests query).toOption.getD []))

def orderFailure? (order : String) : Option CompileError :=
  ((failure? (Query.parseOrder order)).map .parse).or
    (keysFailure? ((Query.parseOrder order).toOption.getD []))

theorem compileQuery_reports (query : String) :
    Reports (queryFailure? query) (Fragment.OfFields username) (compileQuery query username) := by
  unfold compileQuery queryFailure? queryTests
  split
  · exact .ok ⟨rfl, Fragment.MadeOf.empty⟩
  · have unread : failure? ((Query.parse query).map Expr.predicates) = failure? (Query.parse query) := by
      cases Query.parse query <;> rfl
    rw [unread]
    refine (Reports.mapError CompileError.parse (Query.parse query)).bind fun expr parsed _ => ?_
    rw [mapError_eq_ok.mp parsed]
    exact compileExpr_reports expr

theorem compileOrder_reports (order : String) :
    Reports (orderFailure? order) (Fragment.OfFields username) (compileOrder order username) := by
  refine (Reports.mapError CompileError.parse (Query.parseOrder order)).bind fun keys read _ => ?_
  rw [mapError_eq_ok.mp read]
  exact addOrderKeys_reports .empty keys

theorem compile_eq (query order : String) (scope : Scope) :
    compile query order username scope = (do
      let matched ← compileQuery query username
      let restricted ← restrict scope matched
      let sorted ← compileOrder order username
      (restricted.mergeOrder sorted).mapError .fragment) := by
  simp only [compile, compileOrder, bind_assoc]

theorem compile_reports (query order : String) (scope : Scope) :
    Reports ((queryFailure? query).or (orderFailure? order)) (Fragment.OfFields username)
      (compile query order username scope) := by
  rw [compile_eq]
  refine (compileQuery_reports query).bind fun matched _ made => ?_
  refine (restrict_returns scope made).bind fun restricted limited => ?_
  refine (compileOrder_reports order).andThen fun sorted ordered => ?_
  exact (mergeOrder_returns limited ordered).mapError

section Errors

variable {query order : String} {error : CompileError}

theorem ofTest_of_testsFailure? {predicates : List Predicate}
    (failed : testsFailure? predicates = some error) : error.OfTest := by
  obtain ⟨predicate, _, found⟩ := List.exists_of_findSome?_eq_some failed
  exact (predicateTest_ends predicate).of_error (failure?_eq_some.mp found)

theorem unknownField_of_keysFailure? {keys : List OrderKey} (failed : keysFailure? keys = some error) :
    ∃ name, error = .unknownField name := by
  obtain ⟨key, _, found⟩ := List.exists_of_findSome?_eq_some failed
  exact ⟨key.field, eq_of_fieldFailure? found⟩

theorem ofSearch_of_placed {input : String} {unread : Query.ParseError} (placed : unread.Placed input) :
    (CompileError.parse unread).OfSearch := by
  obtain ⟨fault, before, -, -, rfl⟩ := placed
  exact .unreadable _

theorem ofSearch_of_queryFailure? (failed : queryFailure? query = some error) : error.OfSearch := by
  rcases Option.or_eq_some_iff.mp failed with unread | ⟨-, inTest⟩
  · obtain ⟨found, same, rfl⟩ := Option.map_eq_some_iff.mp unread
    exact ofSearch_of_placed ((queryTests_ends query).of_error (failure?_eq_some.mp same))
  · exact .test (ofTest_of_testsFailure? inTest)

theorem ofSearch_of_orderFailure? (failed : orderFailure? order = some error) : error.OfSearch := by
  rcases Option.or_eq_some_iff.mp failed with unread | ⟨-, inKey⟩
  · obtain ⟨found, same, rfl⟩ := Option.map_eq_some_iff.mp unread
    exact ofSearch_of_placed ((Query.parseOrder_ends order).of_error (failure?_eq_some.mp same))
  · obtain ⟨name, rfl⟩ := unknownField_of_keysFailure? inKey
    exact .test (.unknownField name)

-- Nothing else goes wrong: no alias is given two values, no placeholder is left without a parameter,
-- and an error in a text has a place between two characters.
theorem compile_error_ofSearch :
    (∀ username expr error, compileExpr username expr = .error error → error.OfTest) ∧
      (∀ username keys error, compileOrderKeys username keys = .error error →
        ∃ name, error = .unknownField name) ∧
      (∀ order username error, compileOrder order username = .error error → error.OfSearch) ∧
      ∀ query order username scope error, compile query order username scope = .error error →
        error.OfSearch := by
  refine ⟨?expr, ?keys, ?order, ?search⟩
  case expr =>
    intro username expr error failed
    exact ofTest_of_testsFailure? ((compileExpr_reports expr).of_error failed)
  case keys =>
    intro username keys error failed
    exact unknownField_of_keysFailure? ((addOrderKeys_reports .empty keys).of_error failed)
  case order =>
    intro order username error failed
    exact ofSearch_of_orderFailure? ((compileOrder_reports order).of_error failed)
  case search =>
    intro query order username scope error failed
    rcases Option.or_eq_some_iff.mp ((compile_reports query order scope).of_error failed) with
      inQuery | ⟨-, inOrder⟩
    · exact ofSearch_of_queryFailure? inQuery
    · exact ofSearch_of_orderFailure? inOrder

theorem compile_error_ofSearch_accented :
    (compileExpr "ann" (.or [.tests [], .not (.tests [.compare "starred" .exactly "maybe"])]) =
        .error (.invalidLiteral .starred "maybe") ∧
      (CompileError.invalidLiteral .starred "maybe").OfTest) ∧
    (compileOrderKeys "ann" [⟨"year", .descending⟩, ⟨"né", .ascending⟩] = .error (.unknownField "né") ∧
      ∃ name, CompileError.unknownField "né" = .unknownField name) ∧
    (∃ unread, compileOrder "né" "ann" = .error unread ∧ unread.OfSearch ∧
      unread = .parse (.malformed ⟨.characterInOrderField 'é' "né", "né", 1, ⟨1, 1⟩⟩)) ∧
    ∃ unread, compile " " "é, -né" "ann" .songs = .error unread ∧ unread.OfSearch ∧
      unread = .parse (.malformed ⟨.characterInOrderField 'é' "é", "é, -né", 0, ⟨1, 0⟩⟩) := by
  obtain ⟨ofExpr, ofKeys, ofOrder, ofSearch⟩ := compile_error_ofSearch
  have flag : compileExpr "ann" (.or [.tests [], .not (.tests [.compare "starred" .exactly "maybe"])]) =
      .error (.invalidLiteral .starred "maybe") := rfl
  have key : compileOrderKeys "ann" [⟨"year", .descending⟩, ⟨"né", .ascending⟩] =
      .error (.unknownField "né") := rfl
  have order : compileOrder "né" "ann" =
      .error (.parse (.malformed ⟨.characterInOrderField 'é' "né", "né", 1, ⟨1, 1⟩⟩)) := rfl
  have search : compile " " "é, -né" "ann" .songs =
      .error (.parse (.malformed ⟨.characterInOrderField 'é' "é", "é, -né", 0, ⟨1, 0⟩⟩)) := rfl
  exact ⟨⟨flag, ofExpr _ _ _ flag⟩, ⟨key, ofKeys _ _ _ key⟩, ⟨_, order, ofOrder _ _ _ order, rfl⟩,
    _, search, ofSearch _ _ _ _ _ search, rfl⟩

end Errors

theorem testsFailure?_eq (username : String) (predicates : List Predicate) :
    testsFailure? predicates =
      predicates.findSome? fun predicate => failure? (compilePredicate username predicate) := by
  have same : (fun predicate => failure? (compilePredicate username predicate)) =
      fun predicate => failure? (predicateTest predicate) :=
    funext fun predicate => (compilePredicate_reports predicate).failure?_eq
  rw [same, testsFailure?]

def searchFailures (query order username : String) : List (Option CompileError) :=
  [(failure? (queryTests query)).map .parse,
   ((queryTests query).toOption.getD []).findSome? fun test => failure? (compilePredicate username test),
   (failure? (Query.parseOrder order)).map .parse,
   ((Query.parseOrder order).toOption.getD []).findSome? fun key => fieldFailure? key.field]

theorem findSome?_searchFailures (query order username : String) :
    (searchFailures query order username).findSome? id =
      (queryFailure? query).or (orderFailure? order) := by
  rw [queryFailure?, testsFailure?_eq username, orderFailure?, keysFailure?, Option.or_assoc]
  simp only [searchFailures, findSome?_cons_or, List.findSome?_nil, Option.or_none, id]

theorem compile_reports_first_failure (username : String) :
    (∀ expr error, compileExpr username expr = .error error ↔
      ∃ before predicate after, expr.predicates = before ++ predicate :: after ∧
        (∀ earlier ∈ before, ∃ fragment, compilePredicate username earlier = .ok fragment) ∧
        compilePredicate username predicate = .error error) ∧
      (∀ query order scope, failure? (compile query order username scope) =
        (searchFailures query order username).findSome? id) ∧
      ∀ other,
        (∀ expr, failure? (compileExpr username expr) = failure? (compileExpr other expr)) ∧
        ∀ query order scope otherScope, failure? (compile query order username scope) =
          failure? (compile query order other otherScope) := by
  refine ⟨?leftmost, ?search, ?others⟩
  case leftmost =>
    intro expr error
    rw [← failure?_eq_some, (compileExpr_reports expr).failure?_eq, testsFailure?_eq username,
      List.findSome?_eq_some_iff]
    simp only [failure?_eq_some, failure?_eq_none, and_comm]
  case search =>
    intro query order scope
    rw [(compile_reports query order scope).failure?_eq, findSome?_searchFailures]
  case others =>
    intro other
    constructor
    · intro expr
      rw [(compileExpr_reports expr).failure?_eq, (compileExpr_reports expr).failure?_eq]
    · intro query order scope otherScope
      rw [(compile_reports query order scope).failure?_eq,
        (compile_reports query order otherScope).failure?_eq]

theorem compile_reports_first_failure_nested :
    compileExpr "ann" (.or [.tests [.compare "year" .less "5"],
        .not (.bracket (.tests [.compare "title" .less "a", .compare "nope" .exactly "b"]))]) =
      .error (.unsupportedOperator .title "<") ∧
    failure? (compile " " "year, -nope, no" "ann" .songs) = some (.unknownField "nope") := by
  obtain ⟨leftmost, search, -⟩ := compile_reports_first_failure "ann"
  constructor
  · refine (leftmost _ _).mpr ⟨[.compare "year" .less "5"], .compare "title" .less "a",
      [.compare "nope" .exactly "b"], ?_, List.forall_mem_singleton.mpr ⟨_, rfl⟩, rfl⟩
    simp [Expr.predicates, Expr.predicatesAll]
  · exact (search " " "year, -nope, no" .songs).trans rfl

end MediaSearch.Sql
