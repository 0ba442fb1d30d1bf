import MediaSearch.Proofs.Query.RoundTrip
import MediaSearch.Proofs.Sql.Qualifiers
import Mathlib.Data.List.Sort

set_option autoImplicit false

namespace MediaSearch.Sql

open Query (Direction Expr OrderKey Predicate)

def exprFields (expr : Expr) : List Field := expr.predicates.filterMap (Field.ofName? ·.field)

def keyFields (keys : List OrderKey) : List Field := keys.filterMap (Field.ofName? ·.field)

-- A blank query names no field. What cannot be read names none either, but is never compiled.
def queryFields (query : String) : List Field :=
  if Text.isBlankText query then []
  else
    match Query.parse query with
    | .ok expr => exprFields expr
    | .error _ => []

def orderFields (order : String) : List Field :=
  match Query.parseOrder order with
  | .ok keys => keyFields keys
  | .error _ => []

def namedFields (query order : String) : List Field := queryFields query ++ orderFields order

theorem predicatesAll_eq (operands : List Expr) :
    Expr.predicatesAll operands = operands.flatMap Expr.predicates := by
  induction operands with
  | nil => rw [Expr.predicatesAll, List.flatMap_nil]
  | cons operand operands ih => rw [Expr.predicatesAll, List.flatMap_cons, ih]

theorem exprFields_or (operands : List Expr) :
    exprFields (.or operands) = operands.flatMap exprFields := by
  rw [exprFields, Expr.predicates, predicatesAll_eq, List.filterMap_flatMap]
  rfl

theorem exprFields_and (operands : List Expr) :
    exprFields (.and operands) = operands.flatMap exprFields := by
  rw [exprFields, Expr.predicates, predicatesAll_eq, List.filterMap_flatMap]
  rfl

theorem exprFields_not (operand : Expr) : exprFields (.not operand) = exprFields operand := by
  rw [exprFields, Expr.predicates, exprFields]

theorem exprFields_bracket (inner : Expr) : exprFields (.bracket inner) = exprFields inner := by
  rw [exprFields, Expr.predicates, exprFields]

theorem exprFields_tests (predicates : List Predicate) :
    exprFields (.tests predicates) =
      predicates.flatMap fun predicate => (Field.ofName? predicate.field).toList := by
  rw [exprFields, Expr.predicates, List.filterMap_eq_flatMap_toList]

def Determined {α : Type} (need : Field → List (String × α)) : Prop :=
  ∀ ⦃left right first second⦄, first ∈ need left → second ∈ need right → first.1 = second.1 →
    first = second

def AliasMap.Holds {α : Type} (need : Field → List (String × α)) (fields : List Field)
    (map : AliasMap α) : Prop :=
  ∀ entry, entry ∈ map.entries ↔ entry ∈ fields.flatMap need

section Entries

variable {α : Type} {need : Field → List (String × α)} {fields more : List Field} {map : AliasMap α}

theorem determined_of_nodup {known : List (String × α)} (within : ∀ field, need field ⊆ known)
    (nodup : (known.map Prod.fst).Nodup) : Determined need := by
  intro left right first second neededFirst neededSecond same
  exact List.inj_on_of_nodup_map nodup (within left neededFirst) (within right neededSecond) same

theorem AliasMap.Holds.empty : (AliasMap.empty : AliasMap α).Holds need [] := by
  simp [AliasMap.Holds, AliasMap.empty]

theorem AliasMap.Holds.insertAll (determined : Determined need) (holds : map.Holds need fields)
    {entries : List (String × α)} (added : ∀ entry, entry ∈ entries ↔ entry ∈ more.flatMap need) :
    (map.insertAll entries).Holds need (fields ++ more) := by
  have unique : ∀ {first second : String × α}, (∃ field, first ∈ need field) →
      (∃ field, second ∈ need field) → first.1 = second.1 → first = second := by
    rintro first second ⟨left, neededFirst⟩ ⟨right, neededSecond⟩ same
    exact determined neededFirst neededSecond same
  have needed : ∀ {some : List Field} {entry}, entry ∈ some.flatMap need → ∃ field, entry ∈ need field := by
    intro some entry member
    obtain ⟨field, _, present⟩ := List.mem_flatMap.mp member
    exact ⟨field, present⟩
  intro entry
  rw [mem_insertAll_iff unique (fun old present => needed ((holds old).mp present))
    (fun new present => needed ((added new).mp present)), holds entry, added entry,
    List.flatMap_append, List.mem_append]

theorem AliasMap.Holds.flatMap {ι π : Type} {fieldsOf : ι → List Field} {mapOf : π → AliasMap α}
    {indices : List ι} {parts : List π}
    (each : List.Forall₂ (fun index part => (mapOf part).Holds need (fieldsOf index)) indices parts)
    (entry : String × α) :
    entry ∈ parts.flatMap (fun part => (mapOf part).entries) ↔
      entry ∈ (indices.flatMap fieldsOf).flatMap need := by
  induction each with
  | nil => simp
  | cons first _ ih =>
    simp only [List.flatMap_cons, List.flatMap_append, List.mem_append, first entry, ih]

end Entries

theorem fieldJoins_subset (username : String) (field : Field) :
    fieldJoins username field ⊆ fieldJoins username .ranking := by
  cases field <;> simp [fieldJoins]

theorem fieldJoins_determined (username : String) : Determined (fieldJoins username) :=
  determined_of_nodup (fieldJoins_subset username)
    (show [albumAlias, ratingAlias, starredAlias].Nodup by decide)

theorem fieldSelects_subset (field : Field) : fieldSelects field ⊆ rankingSelects := by
  cases field <;> simp [fieldSelects]

theorem fieldSelects_determined : Determined fieldSelects :=
  determined_of_nodup fieldSelects_subset (by decide)

def JoinedBy (username : String) (fields : List Field) (name : String) : Prop :=
  name = "media_file" ∨ ∃ entry ∈ fields.flatMap (fieldJoins username), entry.1 = name

structure Fragment.Uses (username : String) (fields : List Field) (fragment : Fragment) : Prop where
  joins : fragment.joins.Holds (fieldJoins username) fields
  selects : fragment.selects.Holds fieldSelects fields
  condition : ScopedText (JoinedBy username fields) fragment.condition
  order : ∀ item ∈ fragment.order, ∃ field ∈ fields, item.expr = orderExpr field

section Uses

variable {username : String} {fields more : List Field} {field : Field}
  {fragment other result : Fragment}

theorem joinedBy_mono {sql : String} (inScope : ScopedText (JoinedBy username fields) sql)
    (subset : fields ⊆ more) : ScopedText (JoinedBy username more) sql := by
  intro name member
  refine (inScope name member).imp_right ?_
  rintro ⟨entry, needed, same⟩
  obtain ⟨field, named, present⟩ := List.mem_flatMap.mp needed
  exact ⟨entry, List.mem_flatMap.mpr ⟨field, subset named, present⟩, same⟩

theorem joinedBy_column {column : Column} (found : field.column? = some column)
    (named : field ∈ fields) : ScopedText (JoinedBy username fields) column.qualified := by
  have source : column.table = "media_file" ∨
      ∃ entry ∈ fieldJoins username field, entry.1 = column.table := by
    cases field <;> cases found <;>
      simp [fieldJoins, ratingJoins, starredJoins, ratingAlias, starredAlias]
  intro name member
  rw [qualifiers_column found, List.mem_singleton] at member
  rw [member]
  refine source.imp_right ?_
  rintro ⟨entry, needed, same⟩
  exact ⟨entry, List.mem_flatMap.mpr ⟨field, named, needed⟩, same⟩

theorem joinedBy_orderExpr (named : field ∈ fields) :
    ScopedText (JoinedBy username fields) (orderExpr field) := by
  unfold orderExpr
  split
  · next column found => exact joinedBy_column found named
  · -- the dot of a number is not behind the name of a table
    have plain : qualifiers rankingOrder = [] := by
      rw [rankingOrder, qualifiers_ofList rfl]
      decide +kernel
    simp [ScopedText, plain]

namespace Fragment.Uses

theorem empty : Fragment.empty.Uses username [] :=
  ⟨.empty, .empty, .ofPlain (by decide), nofun⟩

theorem restriction {scope : Scope} {sql : String} (restricts : scope.restriction? = some sql)
    (built : Sql.condition sql [] = .ok fragment) : fragment.Uses username [] := by
  have source : qualifiers sql = ["media_file"] := by
    cases scope <;> cases restricts <;> decide
  rw [(condition_ok built).2]
  refine ⟨.empty, .empty, fun name member => ?_, nofun⟩
  rw [source, List.mem_singleton] at member
  exact Or.inl member

theorem predicate {predicate : Predicate}
    (compiled : compilePredicate username predicate = .ok result) :
    result.Uses username (Field.ofName? predicate.field).toList := by
  obtain ⟨field, column, test, named, found, ⟨sql, params, text, built⟩, required⟩ :=
    compilePredicate_ok compiled
  rw [named, requireField_ok required, (condition_ok built).2]
  exact
    { joins := AliasMap.Holds.empty.insertAll (fieldJoins_determined username) (by simp)
      selects := AliasMap.Holds.empty.insertAll fieldSelects_determined (by simp)
      condition := text.inScope (joinedBy_column found (by simp))
      order := nofun }

theorem orderKey (uses : fragment.Uses username fields)
    (required : requireField username field fragment = .ok result) (direction : Direction) :
    (result.addOrder (orderExpr field) direction).Uses username (fields ++ [field]) := by
  rw [requireField_ok required]
  refine ⟨uses.joins.insertAll (fieldJoins_determined username) (by simp),
    uses.selects.insertAll fieldSelects_determined (by simp), joinedBy_mono uses.condition (by simp), ?_⟩
  intro item present
  rcases List.mem_append.mp present with old | new
  · obtain ⟨earlier, named, same⟩ := uses.order item old
    exact ⟨earlier, List.mem_append_left _ named, same⟩
  · exact ⟨field, by simp, List.mem_singleton.mp new ▸ rfl⟩

theorem mergeOrder (uses : fragment.Uses username fields) (usesOther : other.Uses username more)
    (merged : fragment.mergeOrder other = .ok result) : result.Uses username (fields ++ more) := by
  rw [mergeOrder_ok merged]
  refine ⟨uses.joins.insertAll (fieldJoins_determined username) usesOther.joins,
    uses.selects.insertAll fieldSelects_determined usesOther.selects,
    joinedBy_mono uses.condition (by simp), ?_⟩
  intro item present
  rcases List.mem_append.mp present with old | new
  · obtain ⟨field, named, same⟩ := uses.order item old
    exact ⟨field, List.mem_append_left _ named, same⟩
  · obtain ⟨field, named, same⟩ := usesOther.order item new
    exact ⟨field, List.mem_append_right _ named, same⟩

theorem combine {ι : Type} {fieldsOf : ι → List Field} {indices : List ι} {parts : List Fragment}
    {connective : Connective}
    (each : List.Forall₂ (fun index part => part.Uses username (fieldsOf index)) indices parts)
    (combined : Fragment.combine connective parts = .ok result) :
    result.Uses username (indices.flatMap fieldsOf) := by
  have within : ∀ {index}, index ∈ indices → fieldsOf index ⊆ indices.flatMap fieldsOf :=
    fun present _ named => List.mem_flatMap.mpr ⟨_, present, named⟩
  rw [combine_ok combined]
  constructor
  case joins =>
    exact AliasMap.Holds.empty.insertAll (fieldJoins_determined username)
      (AliasMap.Holds.flatMap (each.imp fun _ _ uses => uses.joins))
  case selects =>
    exact AliasMap.Holds.empty.insertAll fieldSelects_determined
      (AliasMap.Holds.flatMap (each.imp fun _ _ uses => uses.selects))
  case condition =>
    refine ScopedText.joinConditions connective fun condition member => ?_
    obtain ⟨part, present, rfl⟩ := List.mem_map.mp (List.mem_of_mem_filter member)
    obtain ⟨index, found, uses⟩ := exists_left_of_mem each present
    exact joinedBy_mono uses.condition (within found)
  case order =>
    intro item member
    obtain ⟨part, present, sorts⟩ := List.mem_flatMap.mp member
    obtain ⟨index, found, uses⟩ := exists_left_of_mem each present
    obtain ⟨field, named, same⟩ := uses.order item sorts
    exact ⟨field, within found named, same⟩

theorem not (uses : fragment.Uses username fields) : fragment.not.Uses username fields := by
  unfold Fragment.not
  split
  · exact uses
  · have word : ScopedText (JoinedBy username fields) "NOT " := .ofPlain (by decide)
    exact ⟨uses.joins, uses.selects, word.append (by decide) uses.condition.parenthesized, uses.order⟩

theorem enclose (uses : fragment.Uses username fields) : fragment.enclose.Uses username fields := by
  unfold Fragment.enclose
  split
  · exact uses
  · exact ⟨uses.joins, uses.selects, uses.condition.parenthesized, uses.order⟩

end Fragment.Uses

theorem compileExpr_uses {expr : Expr} (compiled : compileExpr username expr = .ok result) :
    result.Uses username (exprFields expr) := by
  refine @compileExpr_induction username result
    (fun expr fragment => fragment.Uses username (exprFields expr))
    ?or ?and ?not ?bracket ?tests expr compiled
  case or =>
    intro operands parts result each combined
    rw [exprFields_or]
    exact .combine each combined
  case and =>
    intro operands parts result each combined
    rw [exprFields_and]
    exact .combine each combined
  case not =>
    intro operand result uses
    rw [exprFields_not]
    exact uses.not
  case bracket =>
    intro inner result uses
    rw [exprFields_bracket]
    exact uses.enclose
  case tests =>
    intro predicates parts result each combined
    rw [exprFields_tests]
    exact .combine (each.imp fun _ _ compiled => .predicate compiled) combined

theorem compileQuery_uses {query : String} (compiled : compileQuery query username = .ok result) :
    result.Uses username (queryFields query) := by
  unfold compileQuery at compiled
  split at compiled
  · next blank =>
    cases compiled
    rw [queryFields, if_pos blank]
    exact .empty
  · next filled =>
    obtain ⟨expr, read, whole⟩ := bind_eq_ok.mp compiled
    rw [queryFields, if_neg filled, mapError_eq_ok.mp read]
    exact compileExpr_uses whole

theorem restrict_uses {scope : Scope} (uses : fragment.Uses username fields)
    (restricted : restrict scope fragment = .ok result) : result.Uses username fields := by
  unfold restrict at restricted
  split at restricted
  · cases restricted
    exact uses
  · next sql restricts =>
    obtain ⟨limit, built, joined⟩ := bind_eq_ok.mp restricted
    have both : List.Forall₂ (fun named part => Fragment.Uses username named part)
        [fields, []] [fragment, limit] :=
      .cons uses (.cons (.restriction restricts built) .nil)
    simpa using Fragment.Uses.combine both (mapError_eq_ok.mp joined)

theorem addOrderKeys_uses {keys : List OrderKey} (uses : fragment.Uses username fields)
    (added : addOrderKeys username fragment keys = .ok result) :
    result.Uses username (fields ++ keyFields keys) := by
  induction keys generalizing fragment fields with
  | nil =>
    cases added
    simpa [keyFields] using uses
  | cons key keys ih =>
    obtain ⟨field, found, remaining⟩ := bind_eq_ok.mp added
    obtain ⟨required, joined, rest⟩ := bind_eq_ok.mp remaining
    have sorted := uses.orderKey (mapError_eq_ok.mp joined) key.direction
    simpa [keyFields, lookupField_ok found] using ih sorted rest

theorem compile_uses {query order : String} {scope : Scope}
    (compiled : compile query order username scope = .ok result) :
    result.Uses username (namedFields query order) := by
  obtain ⟨matched, found, afterQuery⟩ := bind_eq_ok.mp compiled
  obtain ⟨restricted, limited, afterScope⟩ := bind_eq_ok.mp afterQuery
  obtain ⟨keys, read, afterKeys⟩ := bind_eq_ok.mp afterScope
  obtain ⟨sorted, ordered, merged⟩ := bind_eq_ok.mp afterKeys
  have sorts : sorted.Uses username (orderFields order) := by
    rw [orderFields, mapError_eq_ok.mp read]
    exact addOrderKeys_uses .empty ordered
  exact (restrict_uses (compileQuery_uses found) limited).mergeOrder sorts (mapError_eq_ok.mp merged)

end Uses

def neededJoins (username : String) (fields : List Field) : List (String × Join) :=
  (if .albumRating ∈ fields ∨ .ranking ∈ fields then [(albumAlias, ⟨albumJoin, none⟩)] else []) ++
    (if .starred ∈ fields ∨ .ranking ∈ fields then [(starredAlias, ⟨starredJoin, some username⟩)]
      else []) ++
    (if .albumRating ∈ fields ∨ .ranking ∈ fields then [(ratingAlias, ⟨ratingJoin, some username⟩)]
      else [])

def neededSelects (fields : List Field) : List (String × String) :=
  if .ranking ∈ fields then rankingSelects else []

section Needed

variable {username : String} {fields : List Field} {fragment : Fragment}

theorem mem_fieldJoins {field : Field} {entry : String × Join} :
    entry ∈ fieldJoins username field ↔
      (field = .albumRating ∨ field = .ranking) ∧ entry ∈ ratingJoins username ∨
        (field = .starred ∨ field = .ranking) ∧ entry ∈ starredJoins username := by
  cases field <;> simp [fieldJoins]

theorem mem_neededJoins {entry : String × Join} :
    entry ∈ neededJoins username fields ↔
      (.albumRating ∈ fields ∨ .ranking ∈ fields) ∧ entry ∈ ratingJoins username ∨
        (.starred ∈ fields ∨ .ranking ∈ fields) ∧ entry ∈ starredJoins username := by
  unfold neededJoins
  by_cases rated : .albumRating ∈ fields ∨ .ranking ∈ fields <;>
    by_cases starred : .starred ∈ fields ∨ .ranking ∈ fields <;>
    simp [rated, starred, ratingJoins, starredJoins, or_assoc, or_comm]

theorem neededJoins_sorted (username : String) (fields : List Field) :
    (neededJoins username fields).Pairwise AliasBefore := by
  have albumStarred : AliasBefore (albumAlias, (⟨albumJoin, none⟩ : Join))
      (starredAlias, ⟨starredJoin, some username⟩) :=
    show albumAlias < starredAlias by decide
  have albumRating : AliasBefore (albumAlias, (⟨albumJoin, none⟩ : Join))
      (ratingAlias, ⟨ratingJoin, some username⟩) :=
    show albumAlias < ratingAlias by decide
  have starredRating : AliasBefore (starredAlias, (⟨starredJoin, some username⟩ : Join))
      (ratingAlias, ⟨ratingJoin, some username⟩) :=
    show starredAlias < ratingAlias by decide
  unfold neededJoins
  by_cases rated : .albumRating ∈ fields ∨ .ranking ∈ fields <;>
    by_cases starred : .starred ∈ fields ∨ .ranking ∈ fields <;>
    simp [rated, starred, albumStarred, albumRating, starredRating]

theorem mem_flatMap_fieldJoins {entry : String × Join} :
    entry ∈ fields.flatMap (fieldJoins username) ↔ entry ∈ neededJoins username fields := by
  rw [mem_neededJoins]
  simp only [List.mem_flatMap, mem_fieldJoins]
  constructor
  · rintro ⟨field, named, ⟨rfl | rfl, needed⟩ | ⟨rfl | rfl, needed⟩⟩ <;> simp [named, needed]
  · rintro (⟨named | named, needed⟩ | ⟨named | named, needed⟩)
    · exact ⟨.albumRating, named, by simp [needed]⟩
    · exact ⟨.ranking, named, by simp [needed]⟩
    · exact ⟨.starred, named, by simp [needed]⟩
    · exact ⟨.ranking, named, by simp [needed]⟩

theorem mem_flatMap_fieldSelects {entry : String × String} :
    entry ∈ fields.flatMap fieldSelects ↔ entry ∈ neededSelects fields := by
  have needed : ∀ field, entry ∈ fieldSelects field ↔ field = .ranking ∧ entry ∈ rankingSelects := by
    intro field
    cases field <;> simp [fieldSelects]
  unfold neededSelects
  by_cases ranked : .ranking ∈ fields <;> simp [List.mem_flatMap, needed, ranked]

instance {α : Type} : Std.Irrefl (@AliasBefore α) := ⟨fun _ => String.lt_irrefl _⟩

instance {α : Type} : Std.Antisymm (@AliasBefore α) :=
  ⟨fun _ _ before after => absurd (String.lt_trans before after) (String.lt_irrefl _)⟩

theorem Fragment.Uses.joins_eq (uses : fragment.Uses username fields) :
    fragment.joins.entries = neededJoins username fields :=
  fragment.joins.sorted.eq_of_mem_iff (neededJoins_sorted username fields) fun entry =>
    (uses.joins entry).trans mem_flatMap_fieldJoins

theorem Fragment.Uses.selects_perm (uses : fragment.Uses username fields) :
    fragment.selects.entries.Perm (neededSelects fields) := by
  have distinct : (neededSelects fields).Nodup := by
    unfold neededSelects
    split
    · exact List.Nodup.of_map Prod.fst (by decide)
    · exact List.nodup_nil
  exact (List.perm_ext_iff_of_nodup fragment.selects.sorted.nodup distinct).mpr fun entry =>
    (uses.selects entry).trans mem_flatMap_fieldSelects

def Fragment.Joined (fragment : Fragment) (name : String) : Prop :=
  name = "media_file" ∨ name ∈ fragment.joins.aliases

-- A join names no table but its own and those before it.
def JoinsInOrder (known : List String) : List (String × Join) → Prop
  | [] => True
  | (name, join) :: rest =>
    ScopedText (· ∈ name :: known) join.sql ∧ JoinsInOrder (name :: known) rest

theorem Fragment.Uses.joined {sql : String} (uses : fragment.Uses username fields)
    (inScope : ScopedText (JoinedBy username fields) sql) : ScopedText fragment.Joined sql := by
  intro name member
  refine (inScope name member).imp_right ?_
  rintro ⟨entry, needed, rfl⟩
  exact List.mem_map.mpr ⟨entry, (uses.joins entry).mpr needed, rfl⟩

theorem ScopedText.daysSince {scope : String → Prop} {column : String}
    (inScope : ScopedText scope column) : ScopedText scope (daysSince column) := by
  have opens : ScopedText scope "DATEDIFF(DAY, " := .ofPlain (by decide)
  have days : ScopedText scope ("DATEDIFF(DAY, " ++ column ++ ", NOW())") :=
    (opens.append (by decide) inScope).appendPlain (by decide)
  have start : ScopedText scope "(CASE WHEN " := .ofPlain (by decide)
  have first := (start.append (by decide) days).appendPlain (by decide : '.' ∉ " <= 0 THEN 1 ELSE ".toList)
  exact (first.append (endsApart_append _ (by decide)) days).appendPlain (by decide)

theorem joinedBy_select {entry : String × String} (needed : entry ∈ fields.flatMap fieldSelects) :
    ScopedText (JoinedBy username fields) entry.2 ∧ '.' ∉ entry.1.toList := by
  rw [mem_flatMap_fieldSelects, neededSelects] at needed
  split at needed
  case isFalse => cases needed
  case isTrue ranked =>
    have joined : ∀ entry ∈ fieldJoins username .ranking, JoinedBy username fields entry.1 :=
      fun entry needed => .inr ⟨entry, List.mem_flatMap.mpr ⟨.ranking, ranked, needed⟩, rfl⟩
    have column : ∀ {name sql : String}, qualifiers sql = [name] → JoinedBy username fields name →
        ScopedText (JoinedBy username fields) sql := by
      intro name sql named inScope other member
      rw [named, List.mem_singleton] at member
      rwa [member]
    simp only [fieldJoins, ratingJoins, starredJoins, List.forall_mem_append, List.forall_mem_cons]
      at joined
    obtain ⟨⟨album, rating, -⟩, starred, -⟩ := joined
    simp only [rankingSelects, List.mem_cons, List.not_mem_nil, or_false] at needed
    rcases needed with rfl | rfl | rfl | rfl | rfl | rfl
    · exact ⟨(column (by decide) starred).daysSince, by decide⟩
    · exact ⟨(column (by decide) (.inl rfl)).daysSince, by decide⟩
    · exact ⟨(column (by decide) (.inl rfl)).daysSince, by decide⟩
    · exact ⟨column (by decide) (.inl rfl), by decide⟩
    · exact ⟨column (by decide) album, by decide⟩
    · exact ⟨column (by decide) rating, by decide⟩

theorem Fragment.Uses.selectClause_joined (uses : fragment.Uses username fields) :
    ScopedText fragment.Joined fragment.selectClause := by
  refine uses.joined (.intercalate (by decide) (by decide) fun text member => ?_)
  obtain ⟨entry, present, rfl⟩ := List.mem_map.mp member
  obtain ⟨inScope, plain⟩ := joinedBy_select ((uses.selects entry).mp present)
  exact (inScope.appendPlain (by decide)).appendPlain plain

theorem Fragment.Uses.orderClause_joined (uses : fragment.Uses username fields) :
    ScopedText fragment.Joined fragment.orderClause := by
  refine uses.joined (.intercalate (by decide) (by decide) fun text member => ?_)
  obtain ⟨item, present, rfl⟩ := List.mem_map.mp member
  obtain ⟨field, named, same⟩ := uses.order item present
  have inScope : ScopedText (JoinedBy username fields) item.expr := same ▸ joinedBy_orderExpr named
  have plain : '.' ∉ item.direction.sql.toList := by cases item.direction <;> decide
  exact (inScope.appendPlain (by decide)).appendPlain plain

theorem qualifiers_albumJoin : qualifiers albumJoin =
    [albumAlias, albumAlias, "media_file", albumAlias, "media_file", albumAlias, "media_file"] := by
  rw [albumJoin, qualifiers_ofList rfl]
  decide +kernel

theorem qualifiers_ratingJoin :
    qualifiers ratingJoin = [ratingAlias, albumAlias, ratingAlias] := by
  rw [ratingJoin, qualifiers_ofList rfl]
  decide +kernel

theorem qualifiers_starredJoin :
    qualifiers starredJoin = ["media_file", starredAlias, starredAlias] := by
  rw [starredJoin, qualifiers_ofList rfl]
  decide +kernel

theorem neededJoins_inOrder (username : String) (fields : List Field) :
    JoinsInOrder ["media_file"] (neededJoins username fields) := by
  unfold neededJoins
  by_cases rated : .albumRating ∈ fields ∨ .ranking ∈ fields <;>
    by_cases starred : .starred ∈ fields ∨ .ranking ∈ fields <;>
    simp [rated, starred, JoinsInOrder, ScopedText, qualifiers_albumJoin, qualifiers_ratingJoin,
      qualifiers_starredJoin]

theorem Fragment.Uses.album_first (uses : fragment.Uses username fields)
    (present : ratingAlias ∈ fragment.joins.aliases) :
    ∃ between, fragment.joinClause = albumJoin ++ between ++ ratingJoin := by
  obtain ⟨entry, joined, named⟩ := List.mem_map.mp present
  rw [uses.joins_eq, mem_neededJoins] at joined
  have rated : .albumRating ∈ fields ∨ .ranking ∈ fields := by
    rcases joined with ⟨rated, -⟩ | ⟨-, starred⟩
    · exact rated
    · rw [List.mem_singleton.mp starred] at named
      exact absurd named (show starredAlias ≠ ratingAlias by decide)
  by_cases starred : .starred ∈ fields ∨ .ranking ∈ fields
  · refine ⟨" " ++ starredJoin ++ " ", ?_⟩
    simp [Fragment.joinClause, AliasMap.values, uses.joins_eq, neededJoins, rated, starred,
      String.intercalate_cons_cons, String.append_assoc]
  · refine ⟨" ", ?_⟩
    simp [Fragment.joinClause, AliasMap.values, uses.joins_eq, neededJoins, rated, starred,
      String.intercalate_cons_cons]

structure Fragment.Complete (username : String) (fields : List Field) (fragment : Fragment) : Prop where
  joins : fragment.joins.entries = neededJoins username fields
  selects : fragment.selects.entries.Perm (neededSelects fields)
  condition : ScopedText fragment.Joined fragment.condition
  order : ScopedText fragment.Joined fragment.orderClause
  columns : ScopedText fragment.Joined fragment.selectClause
  joinsInOrder : JoinsInOrder ["media_file"] fragment.joins.entries
  albumFirst : ratingAlias ∈ fragment.joins.aliases →
    albumAlias ∈ qualifiers ratingJoin ∧
      ∃ between, fragment.joinClause = albumJoin ++ between ++ ratingJoin

theorem compile_complete {query order : String} {scope : Scope}
    (compiled : compile query order username scope = .ok fragment) :
    fragment.Complete username (namedFields query order) := by
  have uses := compile_uses compiled
  constructor
  case joins => exact uses.joins_eq
  case selects => exact uses.selects_perm
  case condition => exact uses.joined uses.condition
  case order => exact uses.orderClause_joined
  case columns => exact uses.selectClause_joined
  case joinsInOrder =>
    rw [uses.joins_eq]
    exact neededJoins_inOrder username _
  case albumFirst =>
    intro present
    exact ⟨by simp [qualifiers_ratingJoin], uses.album_first present⟩

end Needed

theorem compile_complete_starred :
    ∃ fragment, compile "title:love" "-starred,year" "ann" .songs = .ok fragment ∧
      namedFields "title:love" "-starred,year" = [.title, .starred, .year] ∧
      fragment.joins.aliases = ["starred_media_file"] ∧
      fragment.Complete "ann" [.title, .starred, .year] := by
  have title : Predicate.Canonical (.compare "title" .contains "love") :=
    ⟨⟨by decide, Query.forall_chars (by decide)⟩,
      .inr ⟨by decide, Query.forall_chars (by decide), by decide, by decide, by decide⟩⟩
  have canonical : Expr.Canonical (.tests [.compare "title" .contains "love"]) :=
    .tests (by simp) (List.forall_mem_singleton.mpr title)
  have written : Expr.render (.tests [.compare "title" .contains "love"]) = "title:love" := by
    decide
  have parsed : Query.parse "title:love" = .ok (.tests [.compare "title" .contains "love"]) := by
    rw [← written]
    exact Query.parse_of_scans canonical.scans (canonical.spelled (by decide))
  have named : namedFields "title:love" "-starred,year" = [.title, .starred, .year] := by
    rw [namedFields, queryFields, if_neg (by decide), parsed]
    decide +kernel
  have found : (compile "title:love" "-starred,year" "ann" .songs).toOption.map
      (fun fragment => fragment.joins.aliases) = some ["starred_media_file"] := by
    rw [compile, compileQuery, if_neg (by decide), parseQuery, parsed]
    decide +kernel
  cases compiled : compile "title:love" "-starred,year" "ann" .songs with
  | error error => simp [compiled, Except.toOption] at found
  | ok fragment =>
    have aliases : fragment.joins.aliases = ["starred_media_file"] := by
      simpa [compiled, Except.toOption] using found
    exact ⟨fragment, rfl, named, aliases, named ▸ compile_complete compiled⟩

end MediaSearch.Sql
