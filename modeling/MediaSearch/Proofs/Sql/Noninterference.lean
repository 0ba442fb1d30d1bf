import MediaSearch.Proofs.Sql.Merging
import MediaSearch.Sql.Compile
import Mathlib.Data.List.Forall2

set_option autoImplicit false

/-!
No text of a user reaches the SQL. Two queries of one shape, compiled for any two users, both fail or
both give the same SQL with equally many parameters. The two runs are followed in lockstep: the
fragments agree in everything but the texts that are bound.
-/

namespace MediaSearch.Sql

open Query (Expr Operator Predicate)

inductive SameOutcome {ε ε' α β : Type} (related : α → β → Prop) : Except ε α → Except ε' β → Prop
  | ok {a : α} {b : β} (pair : related a b) : SameOutcome related (.ok a) (.ok b)
  | error (left : ε) (right : ε') : SameOutcome related (.error left) (.error right)

namespace SameOutcome

variable {ε ε' δ δ' α β γ γ' : Type} {related : α → β → Prop} {next : γ → γ' → Prop}
  {left : Except ε α} {right : Except ε' β}

theorem bind {leftNext : α → Except ε γ} {rightNext : β → Except ε' γ'}
    (first : SameOutcome related left right)
    (rest : ∀ a b, related a b → SameOutcome next (leftNext a) (rightNext b)) :
    SameOutcome next (left >>= leftNext) (right >>= rightNext) := by
  cases first with
  | ok pair => exact rest _ _ pair
  | error left right => exact .error left right

theorem mapError {leftMap : ε → δ} {rightMap : ε' → δ'} (first : SameOutcome related left right) :
    SameOutcome related (left.mapError leftMap) (right.mapError rightMap) := by
  cases first with
  | ok pair => exact .ok pair
  | error left right => exact .error _ _

theorem exists_ok_iff (same : SameOutcome related left right) :
    (∃ a, left = .ok a) ↔ ∃ b, right = .ok b := by
  cases same with
  | ok pair => exact ⟨fun _ => ⟨_, rfl⟩, fun _ => ⟨_, rfl⟩⟩
  | error => exact ⟨nofun, nofun⟩

theorem related_of_ok {a : α} {b : β} (same : SameOutcome related (.ok a : Except ε α) (.ok b : Except ε' β)) :
    related a b := by
  cases same with
  | ok pair => exact pair

end SameOutcome

section Fragments

variable (leftUser rightUser : String)

inductive SameJoin : Join → Join → Prop
  | shared (sql : String) : SameJoin ⟨sql, none⟩ ⟨sql, none⟩
  | ofUser (sql : String) : SameJoin ⟨sql, some leftUser⟩ ⟨sql, some rightUser⟩

inductive SameEntry : String × Join → String × Join → Prop
  | under (name : String) {left right : Join} (join : SameJoin leftUser rightUser left right) :
    SameEntry (name, left) (name, right)

structure Fragment.Agree (left right : Fragment) : Prop where
  selects : left.selects = right.selects
  condition : left.condition = right.condition
  conditionParams : left.conditionParams.length = right.conditionParams.length
  joins : List.Forall₂ (SameEntry leftUser rightUser) left.joins.entries right.joins.entries
  order : left.order = right.order

end Fragments

variable {leftUser rightUser : String}

theorem SameJoin.eq_iff {left right left' right' : Join} (first : SameJoin leftUser rightUser left right)
    (second : SameJoin leftUser rightUser left' right') : left = left' ↔ right = right' := by
  cases first <;> cases second <;> simp

theorem SameJoin.sql {left right : Join} (join : SameJoin leftUser rightUser left right) :
    left.sql = right.sql := by
  cases join <;> rfl

theorem insertEntry_same {name : String} {left right : Join} {lefts rights : List (String × Join)}
    (join : SameJoin leftUser rightUser left right)
    (entries : List.Forall₂ (SameEntry leftUser rightUser) lefts rights) :
    List.Forall₂ (SameEntry leftUser rightUser) (insertEntry name left lefts)
      (insertEntry name right rights) := by
  induction entries with
  | nil => exact .cons (.under name join) .nil
  | cons first rest ih =>
    cases first with
    | under other kept =>
      unfold insertEntry
      split
      · exact .cons (.under name join) (.cons (.under other kept) rest)
      · split
        · exact .cons (.under name join) rest
        · exact .cons (.under other kept) ih

theorem lookup_same {name : String} {lefts rights : List (String × Join)}
    (entries : List.Forall₂ (SameEntry leftUser rightUser) lefts rights) :
    Option.Rel (SameJoin leftUser rightUser) (lefts.lookup name) (rights.lookup name) := by
  induction entries with
  | nil => exact .none
  | cons first _ ih =>
    cases first with
    | under other join =>
      rw [List.lookup_cons, List.lookup_cons]
      split
      · exact .some join
      · exact ih

namespace Fragment.Agree

variable {left right leftPart rightPart : Fragment}

theorem empty : Fragment.empty.Agree leftUser rightUser Fragment.empty :=
  ⟨rfl, rfl, rfl, .nil, rfl⟩

theorem ofCondition (sql : String) {leftParams rightParams : List String}
    (lengths : leftParams.length = rightParams.length) :
    SameOutcome (Agree leftUser rightUser) (Fragment.ofCondition sql leftParams)
      (Fragment.ofCondition sql rightParams) := by
  unfold Fragment.ofCondition
  rw [lengths]
  split
  · exact .ok ⟨rfl, rfl, lengths, .nil, rfl⟩
  · exact .error _ _

theorem mergeJoin {name : String} {leftJoin rightJoin : Join} (agree : left.Agree leftUser rightUser right)
    (join : SameJoin leftUser rightUser leftJoin rightJoin) :
    SameOutcome (Agree leftUser rightUser) (left.mergeJoin name leftJoin)
      (right.mergeJoin name rightJoin) := by
  have found : Option.Rel (SameJoin leftUser rightUser) (left.joins.get? name) (right.joins.get? name) :=
    lookup_same agree.joins
  unfold Fragment.mergeJoin
  generalize left.joins.get? name = leftFound, right.joins.get? name = rightFound at found
  cases found with
  | none =>
    exact .ok ⟨agree.selects, agree.condition, agree.conditionParams,
      insertEntry_same join agree.joins, agree.order⟩
  | some existing =>
    -- one run finds its join in place exactly if the other does
    simp only [existing.eq_iff join]
    split
    · exact .ok agree
    · exact .error _ _

theorem mergeSelect (name expr : String) (agree : left.Agree leftUser rightUser right) :
    SameOutcome (Agree leftUser rightUser) (left.mergeSelect name expr)
      (right.mergeSelect name expr) := by
  unfold Fragment.mergeSelect
  rw [agree.selects]
  split
  · exact .ok ⟨rfl, agree.condition, agree.conditionParams, agree.joins, agree.order⟩
  · split
    · exact .ok agree
    · exact .error _ _

theorem mergeJoins {lefts rights : List (String × Join)} (agree : left.Agree leftUser rightUser right)
    (entries : List.Forall₂ (SameEntry leftUser rightUser) lefts rights) :
    SameOutcome (Agree leftUser rightUser) (left.mergeJoins lefts) (right.mergeJoins rights) := by
  induction entries generalizing left right with
  | nil => exact .ok agree
  | cons first _ ih =>
    cases first with
    | under name join => exact (agree.mergeJoin join).bind fun _ _ merged => ih merged

theorem mergeSelects (entries : List (String × String)) (agree : left.Agree leftUser rightUser right) :
    SameOutcome (Agree leftUser rightUser) (left.mergeSelects entries) (right.mergeSelects entries) := by
  induction entries generalizing left right with
  | nil => exact .ok agree
  | cons entry rest ih => exact (agree.mergeSelect entry.1 entry.2).bind fun _ _ merged => ih merged

theorem mergeOrder (agree : left.Agree leftUser rightUser right)
    (parts : leftPart.Agree leftUser rightUser rightPart) :
    SameOutcome (Agree leftUser rightUser) (left.mergeOrder leftPart) (right.mergeOrder rightPart) := by
  refine (agree.mergeJoins parts.joins).bind fun _ _ joined => ?_
  rw [parts.selects]
  refine (joined.mergeSelects _).bind fun _ _ selected => ?_
  refine .ok ⟨selected.selects, selected.condition, selected.conditionParams, selected.joins, ?_⟩
  rw [selected.order, parts.order]

theorem absorb (agree : left.Agree leftUser rightUser right)
    (parts : leftPart.Agree leftUser rightUser rightPart) :
    SameOutcome (Agree leftUser rightUser) (left.absorb leftPart) (right.absorb rightPart) := by
  refine (agree.mergeOrder parts).bind fun _ _ merged => ?_
  refine .ok ⟨merged.selects, merged.condition, ?_, merged.joins, merged.order⟩
  rw [parts.condition]
  split
  · simpa using merged.conditionParams
  · simp [merged.conditionParams, parts.conditionParams]

theorem absorbAll {lefts rights : List Fragment} (agree : left.Agree leftUser rightUser right)
    (parts : List.Forall₂ (Agree leftUser rightUser) lefts rights) :
    SameOutcome (Agree leftUser rightUser) (left.absorbAll lefts) (right.absorbAll rights) := by
  induction parts generalizing left right with
  | nil => exact .ok agree
  | cons first _ ih => exact (agree.absorb first).bind fun _ _ absorbed => ih absorbed

theorem map_condition {lefts rights : List Fragment}
    (parts : List.Forall₂ (Agree leftUser rightUser) lefts rights) :
    lefts.map (·.condition) = rights.map (·.condition) := by
  induction parts with
  | nil => rfl
  | cons first _ ih => rw [List.map_cons, List.map_cons, first.condition, ih]

theorem combine (connective : Connective) {lefts rights : List Fragment}
    (parts : List.Forall₂ (Agree leftUser rightUser) lefts rights) :
    SameOutcome (Agree leftUser rightUser) (Fragment.combine connective lefts)
      (Fragment.combine connective rights) := by
  refine (empty.absorbAll parts).bind fun _ _ absorbed => ?_
  rw [map_condition parts]
  exact .ok ⟨absorbed.selects, rfl, absorbed.conditionParams, absorbed.joins, absorbed.order⟩

theorem not (agree : left.Agree leftUser rightUser right) : left.not.Agree leftUser rightUser right.not := by
  unfold Fragment.not
  rw [agree.condition]
  split
  · exact agree
  · exact ⟨agree.selects, rfl, agree.conditionParams, agree.joins, agree.order⟩

theorem enclose (agree : left.Agree leftUser rightUser right) :
    left.enclose.Agree leftUser rightUser right.enclose := by
  unfold Fragment.enclose
  rw [agree.condition]
  split
  · exact agree
  · exact ⟨agree.selects, rfl, agree.conditionParams, agree.joins, agree.order⟩

theorem addJoin {name sql : String} {leftParam rightParam : Option String}
    (agree : left.Agree leftUser rightUser right)
    (join : SameJoin leftUser rightUser ⟨sql, leftParam⟩ ⟨sql, rightParam⟩) :
    SameOutcome (Agree leftUser rightUser) (left.addJoin name sql leftParam)
      (right.addJoin name sql rightParam) := by
  have lengths : leftParam.toList.length = rightParam.toList.length := by cases join <;> rfl
  unfold Fragment.addJoin
  rw [lengths]
  split
  · exact agree.mergeJoin join
  · exact .error _ _

end Fragment.Agree

inductive LiteralClass where
  | truthy
  | falsy
  | neither
  deriving DecidableEq, Repr

def literalClass (value : String) : LiteralClass :=
  let word := Text.asciiLowercase value
  if word ∈ yesWords then .truthy
  else if isNull word || word ∈ noWords then .falsy
  else .neither

-- Values that no test tells apart.
structure SameReading (left right : String) : Prop where
  null : isNull left = isNull right
  literal : literalClass left = literalClass right

def SameName (left right : String) : Prop := Text.sameIgnoringCase left.toList right.toList = true

instance (left right : String) : Decidable (SameName left right) :=
  inferInstanceAs (Decidable (Text.sameIgnoringCase left.toList right.toList = true))

inductive SameTest : Predicate → Predicate → Prop
  | compare {leftField rightField left right : String} (op : Operator)
    (field : SameName leftField rightField)
    (value : SameReading (stripQuotes left) (stripQuotes right)) :
    SameTest (.compare leftField op left) (.compare rightField op right)
  | between {leftField rightField leftLow leftHigh rightLow rightHigh : String}
    (field : SameName leftField rightField) :
    SameTest (.between leftField leftLow leftHigh) (.between rightField rightLow rightHigh)

theorem SameTest.field {left right : Predicate} (same : SameTest left right) :
    SameName left.field right.field := by
  cases same with
  | compare _ field => exact field
  | between field => exact field

theorem ofName?_same {left right : String} (same : SameName left right) :
    Field.ofName? left = Field.ofName? right := by
  have folded : left.toList.map Text.asciiLower = right.toList.map Text.asciiLower := by
    simpa [SameName, Text.sameIgnoringCase] using same
  simp only [Field.ofName?, Text.sameIgnoringCase, folded]

theorem lookupField_same {left right : String} (same : SameName left right) :
    SameOutcome Eq (lookupField left) (lookupField right) := by
  unfold lookupField
  rw [ofName?_same same]
  split
  · exact .ok rfl
  · exact .error _ _

section Tests

variable {left right : String} (field : Field) (column : String)

theorem condition_same (sql : String) {leftParams rightParams : List String}
    (lengths : leftParams.length = rightParams.length) :
    SameOutcome (Fragment.Agree leftUser rightUser) (condition sql leftParams)
      (condition sql rightParams) :=
  (Fragment.Agree.ofCondition sql lengths).mapError

theorem bind_same (sqlOperator left right : String) :
    SameOutcome (Fragment.Agree leftUser rightUser) (bind column sqlOperator left)
      (bind column sqlOperator right) :=
  condition_same _ rfl

theorem bindBelow_same (sqlOperator left right : String) :
    SameOutcome (Fragment.Agree leftUser rightUser) (bindBelow column sqlOperator left)
      (bindBelow column sqlOperator right) :=
  condition_same _ rfl

theorem compareText_same (op : Operator) (value : SameReading left right) :
    SameOutcome (Fragment.Agree leftUser rightUser) (compareText field column left op)
      (compareText field column right op) := by
  cases op with
  | exactly => exact bind_same column _ _ _
  | contains =>
    simp only [compareText, value.null]
    split
    · exact condition_same _ rfl
    · exact condition_same _ rfl
  | regexp => exact condition_same _ rfl
  | _ => exact .error _ _

theorem compareExactText_same (op : Operator) (value : SameReading left right) :
    SameOutcome (Fragment.Agree leftUser rightUser) (compareExactText field column left op)
      (compareExactText field column right op) := by
  cases op with
  | exactly => exact bind_same column _ _ _
  | contains =>
    simp only [compareExactText, value.null]
    split
    · exact condition_same _ rfl
    · exact bind_same column _ _ _
  | _ => exact .error _ _

theorem compareOrdered_same (op : Operator) (value : SameReading left right) :
    SameOutcome (Fragment.Agree leftUser rightUser) (compareOrdered field column left op)
      (compareOrdered field column right op) := by
  cases op with
  | exactly => exact bind_same column _ _ _
  | contains =>
    simp only [compareOrdered, value.null]
    split
    · exact condition_same _ rfl
    · exact bind_same column _ _ _
  | less => exact bindBelow_same column _ _ _
  | atMost => exact bindBelow_same column _ _ _
  | greater => exact bind_same column _ _ _
  | atLeast => exact bind_same column _ _ _
  | regexp => exact .error _ _

theorem compareFlag_eq (value : String) :
    compareFlag field column value =
      match literalClass value with
      | .truthy => condition (column ++ " IS NOT NULL") []
      | .falsy => condition (column ++ " IS NULL") []
      | .neither => .error (.invalidLiteral field value) := by
  unfold compareFlag literalClass
  by_cases yes : Text.asciiLowercase value ∈ yesWords
  · simp [yes]
  · by_cases no : (isNull (Text.asciiLowercase value) || Text.asciiLowercase value ∈ noWords) = true
    · simp only [yes, no, if_true, if_false]
    · simp only [yes, no, Bool.false_eq_true, if_false]

theorem compareFlag_same (value : SameReading left right) :
    SameOutcome (Fragment.Agree leftUser rightUser) (compareFlag field column left)
      (compareFlag field column right) := by
  rw [compareFlag_eq, compareFlag_eq, value.literal]
  split
  · exact condition_same _ rfl
  · exact condition_same _ rfl
  · exact .error _ _

theorem compare_same (op : Operator) (value : SameReading left right) :
    SameOutcome (Fragment.Agree leftUser rightUser) (compare field op left)
      (compare field op right) := by
  unfold compare
  split
  · exact .error _ _
  · split
    · exact compareText_same _ _ op value
    · exact compareExactText_same _ _ op value
    · exact compareOrdered_same _ _ op value
    · exact compareOrdered_same _ _ op value
    · split
      · exact compareFlag_same _ _ value
      · exact compareFlag_same _ _ value
      · exact .error _ _
    · exact .error _ _

theorem between_same (leftLow leftHigh rightLow rightHigh : String) :
    SameOutcome (Fragment.Agree leftUser rightUser) (between field leftLow leftHigh)
      (between field rightLow rightHigh) := by
  unfold between
  split
  · exact .error _ _
  · split
    · exact condition_same _ rfl
    · exact .error _ _

end Tests

section Compiled

variable {left right : Fragment}

theorem joinAlbumRating_same (agree : left.Agree leftUser rightUser right) :
    SameOutcome (Fragment.Agree leftUser rightUser) (joinAlbumRating leftUser left)
      (joinAlbumRating rightUser right) :=
  (agree.addJoin (.shared _)).bind fun _ _ album => album.addJoin (.ofUser _)

theorem joinStarred_same (agree : left.Agree leftUser rightUser right) :
    SameOutcome (Fragment.Agree leftUser rightUser) (joinStarred leftUser left)
      (joinStarred rightUser right) :=
  agree.addJoin (.ofUser _)

theorem requireField_same (field : Field) (agree : left.Agree leftUser rightUser right) :
    SameOutcome (Fragment.Agree leftUser rightUser) (requireField leftUser field left)
      (requireField rightUser field right) := by
  cases field
  case albumRating => exact joinAlbumRating_same agree
  case starred => exact joinStarred_same agree
  case ranking =>
    refine (joinAlbumRating_same agree).bind fun _ _ rated => ?_
    exact (joinStarred_same rated).bind fun _ _ starred => starred.mergeSelects _
  all_goals exact .ok agree

theorem compilePredicate_same {left right : Predicate} (same : SameTest left right) :
    SameOutcome (Fragment.Agree leftUser rightUser) (compilePredicate leftUser left)
      (compilePredicate rightUser right) := by
  refine (lookupField_same same.field).bind fun field _ found => ?_
  subst found
  cases same with
  | compare op _ value =>
    exact (compare_same field op value).bind fun _ _ test => (requireField_same field test).mapError
  | between =>
    exact (between_same field _ _ _ _).bind fun _ _ test => (requireField_same field test).mapError

theorem compilePredicates_same {lefts rights : List Predicate}
    (each : List.Forall₂ SameTest lefts rights) :
    SameOutcome (List.Forall₂ (Fragment.Agree leftUser rightUser)) (compilePredicates leftUser lefts)
      (compilePredicates rightUser rights) := by
  induction each with
  | nil => exact .ok .nil
  | cons first _ ih =>
    refine (compilePredicate_same first).bind fun _ _ fragment => ?_
    exact ih.bind fun _ _ fragments => .ok (.cons fragment fragments)

end Compiled

inductive SameShape : Expr → Expr → Prop
  | or {lefts rights : List Expr} (lengths : lefts.length = rights.length)
    (each : ∀ pair ∈ lefts.zip rights, SameShape pair.1 pair.2) : SameShape (.or lefts) (.or rights)
  | and {lefts rights : List Expr} (lengths : lefts.length = rights.length)
    (each : ∀ pair ∈ lefts.zip rights, SameShape pair.1 pair.2) : SameShape (.and lefts) (.and rights)
  | not {left right : Expr} (operand : SameShape left right) : SameShape (.not left) (.not right)
  | bracket {left right : Expr} (inner : SameShape left right) :
    SameShape (.bracket left) (.bracket right)
  | tests {lefts rights : List Predicate} (each : List.Forall₂ SameTest lefts rights) :
    SameShape (.tests lefts) (.tests rights)

theorem compileAll_same {lefts rights : List Expr}
    (each : List.Forall₂ (fun left right => SameOutcome (Fragment.Agree leftUser rightUser)
      (compileExpr leftUser left) (compileExpr rightUser right)) lefts rights) :
    SameOutcome (List.Forall₂ (Fragment.Agree leftUser rightUser)) (compileAll leftUser lefts)
      (compileAll rightUser rights) := by
  induction each with
  | nil =>
    rw [compileAll, compileAll]
    exact .ok .nil
  | cons first _ ih =>
    rw [compileAll, compileAll]
    refine first.bind fun _ _ fragment => ?_
    exact ih.bind fun _ _ fragments => .ok (.cons fragment fragments)

theorem compileExpr_same {left right : Expr} (shape : SameShape left right) :
    SameOutcome (Fragment.Agree leftUser rightUser) (compileExpr leftUser left)
      (compileExpr rightUser right) := by
  induction shape with
  | or lengths _ ih =>
    rw [compileExpr, compileExpr]
    have operands := compileAll_same
      (List.forall₂_iff_zip.mpr ⟨lengths, fun member => ih _ member⟩)
    exact operands.bind fun _ _ parts => (Fragment.Agree.combine .or parts).mapError
  | and lengths _ ih =>
    rw [compileExpr, compileExpr]
    have operands := compileAll_same
      (List.forall₂_iff_zip.mpr ⟨lengths, fun member => ih _ member⟩)
    exact operands.bind fun _ _ parts => (Fragment.Agree.combine .and parts).mapError
  | not _ ih =>
    rw [compileExpr, compileExpr]
    exact ih.bind fun _ _ fragment => .ok fragment.not
  | bracket _ ih =>
    rw [compileExpr, compileExpr]
    exact ih.bind fun _ _ fragment => .ok fragment.enclose
  | tests each =>
    rw [compileExpr, compileExpr]
    exact (compilePredicates_same each).bind fun _ _ parts =>
      (Fragment.Agree.combine .and parts).mapError

structure Fragment.SameSql (left right : Fragment) : Prop where
  condition : left.condition = right.condition
  joinClause : left.joinClause = right.joinClause
  selectClause : left.selectClause = right.selectClause
  orderClause : left.orderClause = right.orderClause
  statement : ∀ table columns, left.statement table columns = right.statement table columns
  params : left.params.length = right.params.length

section Entries

variable {lefts rights : List (String × Join)}

theorem map_sql_same (entries : List.Forall₂ (SameEntry leftUser rightUser) lefts rights) :
    (lefts.map (·.2)).map (·.sql) = (rights.map (·.2)).map (·.sql) := by
  induction entries with
  | nil => rfl
  | cons first _ ih =>
    cases first with
    | under _ join => simp only [List.map_cons, ih, join.sql]

theorem length_params_same (entries : List.Forall₂ (SameEntry leftUser rightUser) lefts rights) :
    ((lefts.map (·.2)).filterMap (·.param)).length =
      ((rights.map (·.2)).filterMap (·.param)).length := by
  induction entries with
  | nil => rfl
  | cons first _ ih =>
    cases first with
    | under _ join => cases join <;> simpa using ih

end Entries

theorem Fragment.Agree.sameSql {left right : Fragment} (agree : left.Agree leftUser rightUser right) :
    left.SameSql right := by
  have joins : left.joinClause = right.joinClause :=
    congrArg (" ".intercalate ·) (map_sql_same agree.joins)
  have selects : left.selectClause = right.selectClause := by
    rw [Fragment.selectClause, Fragment.selectClause, agree.selects]
  have order : left.orderClause = right.orderClause := by
    rw [Fragment.orderClause, Fragment.orderClause, agree.order]
  have noJoins : left.joins.isEmpty = right.joins.isEmpty := by
    have lengths := agree.joins.length_eq
    rw [Bool.eq_iff_iff, AliasMap.isEmpty, AliasMap.isEmpty, List.isEmpty_iff_length_eq_zero,
      List.isEmpty_iff_length_eq_zero, lengths]
  refine ⟨agree.condition, joins, selects, order, fun table columns => ?_, ?_⟩
  · delta Fragment.statement
    rw [agree.selects, selects, noJoins, joins, agree.condition, agree.order, order]
  · have joinParams : left.joinParams.length = right.joinParams.length :=
      length_params_same agree.joins
    rw [Fragment.params, Fragment.params, List.length_append, List.length_append, joinParams,
      agree.conditionParams]

theorem compileExpr_noninterference {leftUser rightUser : String} {left right : Expr}
    (shape : SameShape left right) :
    ((∃ fragment, compileExpr leftUser left = .ok fragment) ↔
      ∃ fragment, compileExpr rightUser right = .ok fragment) ∧
    ∀ leftFragment rightFragment, compileExpr leftUser left = .ok leftFragment →
      compileExpr rightUser right = .ok rightFragment → leftFragment.SameSql rightFragment := by
  have same : SameOutcome (Fragment.Agree leftUser rightUser) (compileExpr leftUser left)
      (compileExpr rightUser right) := compileExpr_same shape
  refine ⟨same.exists_ok_iff, fun leftFragment rightFragment leftOk rightOk => ?_⟩
  rw [leftOk, rightOk] at same
  exact same.related_of_ok.sameSql

def oldOrStarred : Expr :=
  .or [.not (.tests [.compare "year" .less "2000"]),
    .bracket (.tests [.compare "starred" .exactly "yes"])]

def hostileOrStarred : Expr :=
  .or [.not (.tests [.compare "YEAR" .less "\"0) OR (1=1 --\""]),
    .bracket (.tests [.compare "Starred" .exactly "\"T\""])]

theorem compileExpr_noninterference_hostile :
    SameShape oldOrStarred hostileOrStarred ∧
    ∃ plain hostile, compileExpr "ann" oldOrStarred = .ok plain ∧
      compileExpr "' OR 'a'='a" hostileOrStarred = .ok hostile ∧ plain.SameSql hostile := by
  have year : SameTest (.compare "year" .less "2000") (.compare "YEAR" .less "\"0) OR (1=1 --\"") :=
    .compare .less (by decide) ⟨by decide, by decide⟩
  have starred : SameTest (.compare "starred" .exactly "yes") (.compare "Starred" .exactly "\"T\"") :=
    .compare .exactly (by decide) ⟨by decide, by decide⟩
  have shape : SameShape oldOrStarred hostileOrStarred := by
    refine .or rfl (List.forall_mem_cons.mpr ⟨?_, List.forall_mem_singleton.mpr ?_⟩)
    · exact .not (.tests (.cons year .nil))
    · exact .bracket (.tests (.cons starred .nil))
  have succeeds : (compileExpr "ann" oldOrStarred).isOk = true := by decide +kernel
  obtain ⟨sameSuccess, sameSql⟩ := @compileExpr_noninterference "ann" "' OR 'a'='a" _ _ shape
  cases plainOk : compileExpr "ann" oldOrStarred with
  | error error => simp [plainOk, Except.isOk, Except.toBool] at succeeds
  | ok plain =>
    obtain ⟨hostile, hostileOk⟩ := sameSuccess.mp ⟨plain, plainOk⟩
    exact ⟨shape, plain, hostile, rfl, hostileOk, sameSql plain hostile plainOk hostileOk⟩

end MediaSearch.Sql
