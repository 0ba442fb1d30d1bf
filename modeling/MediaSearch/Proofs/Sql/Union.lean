import MediaSearch.Proofs.Sql.BindingOrder
import MediaSearch.Proofs.Sql.Compatible

set_option autoImplicit false

/-!
Fragments put together are a union, as long as no alias is defined in two ways. Otherwise the first
fragment that contradicts an earlier one is refused, and the alias that is named is the least of those in
conflict.
-/

namespace MediaSearch.Sql

structure Clash (α : Type) where
  name : String
  existing : α
  attempted : α

namespace AliasMap

variable {α : Type} {map other : AliasMap α} {maps : List (AliasMap α)} {name : String} {value : α}

theorem lookup_cons_ite (query : String) (entry : String × α) (rest : List (String × α)) :
    (entry :: rest).lookup query = if query = entry.1 then some entry.2 else rest.lookup query := by
  obtain ⟨name, value⟩ := entry
  by_cases same : query = name
  · simp [same]
  · have differs : (query == name) = false := by simpa using same
    simp [List.lookup_cons, same, differs]

theorem lookup_insertEntry (name query : String) (value : α) (entries : List (String × α)) :
    (insertEntry name value entries).lookup query =
      if query = name then some value else entries.lookup query := by
  induction entries with
  | nil => simp [insertEntry, lookup_cons_ite]
  | cons entry rest ih =>
    unfold insertEntry
    split
    · rw [lookup_cons_ite]
    · split
      · next same =>
        by_cases found : query = name <;> simp [lookup_cons_ite, ← same, found]
      · next different =>
        by_cases found : query = name
        · subst found
          simp [lookup_cons_ite, ih, different]
        · simp [lookup_cons_ite, ih, found]

theorem get?_insert (map : AliasMap α) (name query : String) (value : α) :
    (map.insert name value).get? query = if query = name then some value else map.get? query :=
  lookup_insertEntry name query value map.entries

theorem mem_entries_iff : (name, value) ∈ map.entries ↔ map.get? name = some value := by
  rw [get?, List.lookup_eq_some_iff]
  constructor
  · intro present
    obtain ⟨before, after, split⟩ := List.append_of_mem present
    refine ⟨before, after, split, fun entry earlier => ?_⟩
    have sorted := map.sorted
    rw [split] at sorted
    have less : AliasBefore entry (name, value) :=
      (List.pairwise_append.mp sorted).2.2 entry earlier (name, value) (by simp)
    have different : name ≠ entry.1 := fun same => String.lt_irrefl _ (same ▸ less)
    simpa using different
  · rintro ⟨before, after, split, -⟩
    simp [split]

theorem ext_get? (same : ∀ name value, map.get? name = some value ↔ other.get? name = some value) :
    map = other := by
  have entries : map.entries = other.entries :=
    map.sorted.eq_of_mem_iff other.sorted fun entry => by
      rw [mem_entries_iff, mem_entries_iff, same]
  cases map
  cases other
  cases entries
  rfl

theorem empty_insertAll_entries (map : AliasMap α) : empty.insertAll map.entries = map := by
  apply ext_get?
  intro name value
  have determined : ∀ {first second : String × α}, first ∈ map.entries → second ∈ map.entries →
      first.1 = second.1 → first = second := by
    rintro ⟨name, left⟩ ⟨_, right⟩ inFirst inSecond rfl
    have same := (mem_entries_iff.mp inFirst).symm.trans (mem_entries_iff.mp inSecond)
    rw [Option.some.inj same]
  rw [← mem_entries_iff, ← mem_entries_iff,
    mem_insertAll_iff determined (by simp [empty]) fun _ member => member]
  simp [empty]

def Compatible (map other : AliasMap α) : Prop :=
  ∀ name left right, map.get? name = some left → other.get? name = some right → left = right

def IsUnion (maps : List (AliasMap α)) (map : AliasMap α) : Prop :=
  ∀ name value, map.get? name = some value ↔ ∃ part ∈ maps, part.get? name = some value

theorem Compatible.symm (compatible : map.Compatible other) : other.Compatible map :=
  fun name left right inOther inMap => (compatible name right left inMap inOther).symm

theorem IsUnion.unique (union : IsUnion maps map) (unionOther : IsUnion maps other) : map = other :=
  ext_get? fun name value => (union name value).trans (unionOther name value).symm

theorem IsUnion.compatible_iff {part : AliasMap α} (union : IsUnion maps map) :
    map.Compatible part ↔ ∀ first ∈ maps, first.Compatible part := by
  constructor
  · intro compatible first member name left right inFirst inPart
    exact compatible name left right ((union name left).mpr ⟨first, member, inFirst⟩) inPart
  · intro each name left right inMap inPart
    obtain ⟨first, member, inFirst⟩ := (union name left).mp inMap
    exact each first member name left right inFirst inPart

theorem IsUnion.expand {front back : List (AliasMap α)} (inner : IsUnion maps map)
    (outer : IsUnion (front ++ map :: back) other) : IsUnion (front ++ maps ++ back) other := by
  intro name value
  rw [outer]
  simp only [List.mem_append, List.mem_cons, or_and_right, exists_or, exists_eq_left, inner name value,
    or_assoc]

theorem IsUnion.single (map : AliasMap α) : IsUnion [map] map := by
  simp [IsUnion]

structure Clashes (earlier : List (AliasMap α)) (map : AliasMap α) (clash : Clash α) : Prop where
  existing : ∃ first ∈ earlier, first.get? clash.name = some clash.existing
  attempted : map.get? clash.name = some clash.attempted
  differ : clash.existing ≠ clash.attempted

structure LeastClash (earlier : List (AliasMap α)) (map : AliasMap α) (clash : Clash α) : Prop where
  clashes : Clashes earlier map clash
  least : ∀ another, Clashes earlier map another → clash.name ≤ another.name

theorem Clashes.not_compatible {clash : Clash α} (clashes : Clashes maps map clash) :
    ¬ ∀ first ∈ maps, first.Compatible map := by
  intro each
  obtain ⟨first, member, existing⟩ := clashes.existing
  exact clashes.differ (each first member _ _ _ existing clashes.attempted)

variable [DecidableEq α]

def merge (map : AliasMap α) : List (String × α) → Except (Clash α) (AliasMap α)
  | [] => .ok map
  | (name, value) :: rest =>
    match map.get? name with
    | none => (map.insert name value).merge rest
    | some existing => if existing = value then map.merge rest else .error ⟨name, existing, value⟩

def Fits (map : AliasMap α) (entry : String × α) : Prop :=
  ∀ existing, map.get? entry.1 = some existing → existing = entry.2

-- The entries come in the order of their aliases, so those that are added do not meet the later ones.
theorem merge_entries_ends (map : AliasMap α) {entries : List (String × α)}
    (sorted : entries.Pairwise AliasBefore) :
    Ends
      (fun merged => (∀ entry ∈ entries, map.Fits entry) ∧
        ∀ name value, merged.get? name = some value ↔ map.get? name = some value ∨ (name, value) ∈ entries)
      (fun clash => map.get? clash.name = some clash.existing ∧ (clash.name, clash.attempted) ∈ entries ∧
        clash.existing ≠ clash.attempted ∧ ∀ entry ∈ entries, entry.1 < clash.name → map.Fits entry)
      (map.merge entries) := by
  induction entries generalizing map with
  | nil => exact .ok ⟨by simp, by simp⟩
  | cons entry rest ih =>
    obtain ⟨name, value⟩ := entry
    obtain ⟨before, restSorted⟩ := List.pairwise_cons.mp sorted
    have apart : ∀ entry ∈ rest, entry.1 ≠ name := fun entry later same =>
      String.lt_irrefl name (same ▸ before entry later)
    unfold merge
    split
    · next absent =>
      have fits : map.Fits (name, value) := by simp [Fits, absent]
      have unchanged : ∀ entry ∈ rest, (map.insert name value).get? entry.1 = map.get? entry.1 := by
        intro entry later
        rw [get?_insert, if_neg (apart entry later)]
      have stillFits : ∀ entry ∈ rest, (map.insert name value).Fits entry → map.Fits entry := by
        intro entry later fits
        rwa [Fits, unchanged entry later] at fits
      refine (ih (map.insert name value) restSorted).mono ?_ ?_
      · rintro merged ⟨each, union⟩
        refine ⟨List.forall_mem_cons.mpr ⟨fits, fun entry later => ?_⟩, fun query found => ?_⟩
        · exact stillFits entry later (each entry later)
        · rw [union, get?_insert]
          by_cases same : query = name
          · subst same
            simp [absent, eq_comm]
          · simp [same]
      · rintro clash ⟨existing, attempted, differ, least⟩
        have old := unchanged _ attempted
        refine ⟨old ▸ existing, List.mem_cons_of_mem _ attempted, differ, ?_⟩
        refine List.forall_mem_cons.mpr ⟨fun _ => fits, fun entry later less => ?_⟩
        exact stillFits entry later (least entry later less)
    · next existing found =>
      split
      · next same =>
        have fits : map.Fits (name, value) := by simp [Fits, found, same]
        refine (ih map restSorted).mono ?_ ?_
        · rintro merged ⟨each, union⟩
          refine ⟨List.forall_mem_cons.mpr ⟨fits, each⟩, fun query other => ?_⟩
          rw [union, List.mem_cons]
          constructor
          · exact Or.imp_right .inr
          · rintro (old | added | later)
            · exact .inl old
            · cases added
              exact .inl (same ▸ found)
            · exact .inr later
        · rintro clash ⟨existing, attempted, differ, least⟩
          exact ⟨existing, List.mem_cons_of_mem _ attempted, differ,
            List.forall_mem_cons.mpr ⟨fun _ => fits, least⟩⟩
      · next differ =>
        refine .error ⟨found, by simp, differ, ?_⟩
        -- no alias comes before the first one
        refine List.forall_mem_cons.mpr ⟨fun less => (String.lt_irrefl _ less).elim, fun entry later less => ?_⟩
        exact (String.lt_irrefl _ (String.lt_trans less (before entry later))).elim

theorem merge_ends (union : IsUnion maps map) (other : AliasMap α) :
    Ends (fun merged => (∀ first ∈ maps, first.Compatible other) ∧ IsUnion (maps ++ [other]) merged)
      (LeastClash maps other) (map.merge other.entries) := by
  refine (merge_entries_ends map other.sorted).mono ?_ ?_
  · rintro merged ⟨each, entries⟩
    constructor
    · rw [← union.compatible_iff]
      intro name left right inMap inOther
      exact each (name, right) (mem_entries_iff.mpr inOther) left inMap
    · intro name value
      rw [entries, mem_entries_iff, union]
      simp [or_and_right, exists_or]
  · rintro clash ⟨existing, attempted, differ, fits⟩
    refine ⟨⟨(union _ _).mp existing, mem_entries_iff.mp attempted, differ⟩, fun another clashes => ?_⟩
    rw [← String.not_lt]
    intro less
    have present := mem_entries_iff.mpr clashes.attempted
    exact clashes.differ (fits _ present less _ ((union _ _).mpr clashes.existing))

end AliasMap

namespace Fragment

open AliasMap (IsUnion LeastClash)

variable {fragment other first second third part made : Fragment} {earlier parts : List Fragment}

structure Compatible (first second : Fragment) : Prop where
  joins : first.joins.Compatible second.joins
  selects : first.selects.Compatible second.selects

structure Unites (parts : List Fragment) (made : Fragment) : Prop where
  joins : IsUnion (parts.map (·.joins)) made.joins
  selects : IsUnion (parts.map (·.selects)) made.selects

-- What is reported of a fragment that contradicts earlier ones: a join before a column.
inductive Conflict (earlier : List Fragment) (part : Fragment) : FragmentError → Prop
  | join {clash : Clash Join} (least : LeastClash (earlier.map (·.joins)) part.joins clash) :
      Conflict earlier part
        (.conflict .join clash.name clash.existing.describe clash.attempted.describe)
  | select {clash : Clash String} (joins : ∀ first ∈ earlier, first.joins.Compatible part.joins)
      (least : LeastClash (earlier.map (·.selects)) part.selects clash) :
      Conflict earlier part (.conflict .select clash.name clash.existing clash.attempted)

theorem Compatible.symm (compatible : first.Compatible second) : second.Compatible first :=
  ⟨compatible.joins.symm, compatible.selects.symm⟩

theorem compatible_comm : first.Compatible second ↔ second.Compatible first :=
  ⟨Compatible.symm, Compatible.symm⟩

theorem Conflict.not_compatible {error : FragmentError} (conflict : Conflict earlier part error) :
    ¬ ∀ first ∈ earlier, first.Compatible part := by
  intro each
  cases conflict with
  | join least => exact least.clashes.not_compatible (by simpa using fun first member => (each first member).joins)
  | select _ least =>
    exact least.clashes.not_compatible (by simpa using fun first member => (each first member).selects)

theorem mergeJoins_eq (fragment : Fragment) (entries : List (String × Join)) :
    fragment.mergeJoins entries =
      ((fragment.joins.merge entries).map fun joins => { fragment with joins }).mapError fun clash =>
        .conflict .join clash.name clash.existing.describe clash.attempted.describe := by
  induction entries generalizing fragment with
  | nil => rfl
  | cons entry rest ih =>
    obtain ⟨name, join⟩ := entry
    rw [mergeJoins, mergeJoin, AliasMap.merge]
    cases fragment.joins.get? name with
    | none => exact ih { fragment with joins := fragment.joins.insert name join }
    | some existing =>
      by_cases same : existing = join
      · simp only [if_pos same]
        exact ih fragment
      · simp only [if_neg same]
        rfl

theorem mergeSelects_eq (fragment : Fragment) (entries : List (String × String)) :
    fragment.mergeSelects entries =
      ((fragment.selects.merge entries).map fun selects => { fragment with selects }).mapError fun clash =>
        .conflict .select clash.name clash.existing clash.attempted := by
  induction entries generalizing fragment with
  | nil => rfl
  | cons entry rest ih =>
    obtain ⟨name, expr⟩ := entry
    rw [mergeSelects, mergeSelect, AliasMap.merge]
    cases fragment.selects.get? name with
    | none => exact ih { fragment with selects := fragment.selects.insert name expr }
    | some existing =>
      by_cases same : existing = expr
      · simp only [if_pos same]
        exact ih fragment
      · simp only [if_neg same]
        rfl

theorem mergeOrder_withCondition (fragment other : Fragment) (sql : String) :
    mergeOrder { fragment with condition := sql } other =
      (fragment.mergeOrder other).map fun merged => { merged with condition := sql } := by
  simp only [mergeOrder, mergeJoins_eq, mergeSelects_eq]
  cases fragment.joins.merge other.joins.entries with
  | error clash => rfl
  | ok joins =>
    change Except.mapError _ (Except.map _ (fragment.selects.merge _)) >>= _ =
      Except.map _ (Except.mapError _ (Except.map _ (fragment.selects.merge _)) >>= _)
    cases fragment.selects.merge other.selects.entries with
    | error clash => rfl
    | ok selects => rfl

theorem mergeJoins_ends (unites : Unites earlier fragment) (part : Fragment) :
    Ends
      (fun joined => (∀ first ∈ earlier, first.joins.Compatible part.joins) ∧
        IsUnion ((earlier ++ [part]).map (·.joins)) joined.joins ∧ joined.selects = fragment.selects)
      (Conflict earlier part) (fragment.mergeJoins part.joins.entries) := by
  rw [mergeJoins_eq]
  refine ((AliasMap.merge_ends unites.joins part.joins).map ?_ fun _ => id).mapError fun _ => .join
  rintro joins ⟨each, union⟩
  exact ⟨by simpa using each, by simpa using union, rfl⟩

theorem mergeSelects_ends (selects : IsUnion (earlier.map (·.selects)) fragment.selects) (part : Fragment)
    (joins : ∀ first ∈ earlier, first.joins.Compatible part.joins) :
    Ends
      (fun selected => (∀ first ∈ earlier, first.selects.Compatible part.selects) ∧
        IsUnion ((earlier ++ [part]).map (·.selects)) selected.selects ∧ selected.joins = fragment.joins)
      (Conflict earlier part) (fragment.mergeSelects part.selects.entries) := by
  rw [mergeSelects_eq]
  refine ((AliasMap.merge_ends selects part.selects).map ?_ fun _ => id).mapError fun _ => .select joins
  rintro selects ⟨each, union⟩
  exact ⟨by simpa using each, by simpa using union, rfl⟩

theorem mergeOrder_ends (unites : Unites earlier fragment) (part : Fragment) :
    Ends (fun made => (∀ first ∈ earlier, first.Compatible part) ∧ Unites (earlier ++ [part]) made)
      (Conflict earlier part) (fragment.mergeOrder part) := by
  refine (mergeJoins_ends unites part).bind (fun _ => id) ?_
  rintro joined ⟨joins, unitesJoins, sameSelects⟩
  refine (mergeSelects_ends (sameSelects ▸ unites.selects) part joins).bind (fun _ => id) ?_
  rintro selected ⟨selects, unitesSelects, sameJoins⟩
  refine .ok ⟨fun first member => ⟨joins first member, selects first member⟩, ?_, unitesSelects⟩
  rw [← sameJoins] at unitesJoins
  exact unitesJoins

theorem absorb_ends (unites : Unites earlier fragment) (part : Fragment) :
    Ends (fun made => (∀ first ∈ earlier, first.Compatible part) ∧ Unites (earlier ++ [part]) made)
      (Conflict earlier part) (fragment.absorb part) := by
  refine (mergeOrder_ends unites part).bind (fun _ => id) ?_
  rintro merged ⟨each, unitesMore⟩
  exact .ok ⟨each, unitesMore.joins, unitesMore.selects⟩

def FirstConflict (parts : List Fragment) (error : FragmentError) : Prop :=
  ∃ earlier part later, parts = earlier ++ part :: later ∧ earlier.Pairwise Compatible ∧
    Conflict earlier part error

theorem FirstConflict.not_compatible {error : FragmentError} (first : FirstConflict parts error) :
    ¬ parts.Pairwise Compatible := by
  obtain ⟨earlier, part, later, rfl, -, conflict⟩ := first
  intro compatible
  apply conflict.not_compatible
  intro first member
  exact (List.pairwise_append.mp compatible).2.2 first member part (by simp)

theorem absorbAll_ends (unites : Unites earlier fragment) (compatible : earlier.Pairwise Compatible)
    (parts : List Fragment) :
    Ends (fun made => (earlier ++ parts).Pairwise Compatible ∧ Unites (earlier ++ parts) made)
      (FirstConflict (earlier ++ parts)) (fragment.absorbAll parts) := by
  induction parts generalizing earlier fragment with
  | nil => exact .ok (by simpa using ⟨compatible, unites⟩)
  | cons part parts ih =>
    refine (absorb_ends unites part).bind ?_ ?_
    · intro error conflict
      exact ⟨earlier, part, parts, rfl, compatible, conflict⟩
    · rintro absorbed ⟨each, unitesMore⟩
      have more : (earlier ++ [part]).Pairwise Compatible := by
        refine List.pairwise_append.mpr ⟨compatible, by simp, ?_⟩
        simpa using each
      have rest := ih unitesMore more
      rwa [List.append_assoc] at rest

theorem combine_ends (connective : Connective) (parts : List Fragment) :
    Ends (fun made => parts.Pairwise Compatible ∧ Unites parts made) (FirstConflict parts)
      (combine connective parts) := by
  have nothing : Unites [] empty := ⟨by simp [IsUnion, empty, AliasMap.empty, AliasMap.get?],
    by simp [IsUnion, empty, AliasMap.empty, AliasMap.get?]⟩
  refine (absorbAll_ends nothing .nil parts).bind (fun _ => id) ?_
  rintro absorbed ⟨compatible, unites⟩
  exact .ok ⟨compatible, unites.joins, unites.selects⟩

theorem Unites.unique (unites : Unites parts made) (unitesOther : Unites parts other) :
    made.joins = other.joins ∧ made.selects = other.selects :=
  ⟨unites.joins.unique unitesOther.joins, unites.selects.unique unitesOther.selects⟩

theorem Unites.single (fragment : Fragment) : Unites [fragment] fragment :=
  ⟨.single fragment.joins, .single fragment.selects⟩

theorem Unites.expand {front back : List Fragment} (inner : Unites parts fragment)
    (outer : Unites (front ++ fragment :: back) made) : Unites (front ++ parts ++ back) made := by
  constructor
  case joins =>
    have union := outer.joins
    rw [List.map_append, List.map_cons] at union
    simpa using inner.joins.expand union
  case selects =>
    have union := outer.selects
    rw [List.map_append, List.map_cons] at union
    simpa using inner.selects.expand union

theorem Unites.compatible_iff (unites : Unites parts fragment) :
    fragment.Compatible part ↔ ∀ first ∈ parts, first.Compatible part := by
  have joins : fragment.joins.Compatible part.joins ↔ ∀ first ∈ parts, first.joins.Compatible part.joins := by
    simpa using unites.joins.compatible_iff
  have selects :
      fragment.selects.Compatible part.selects ↔ ∀ first ∈ parts, first.selects.Compatible part.selects := by
    simpa using unites.selects.compatible_iff
  constructor
  · intro compatible first member
    exact ⟨joins.mp compatible.joins first member, selects.mp compatible.selects first member⟩
  · intro each
    exact ⟨joins.mpr fun first member => (each first member).joins,
      selects.mpr fun first member => (each first member).selects⟩

theorem exists_combine_iff (connective : Connective) (parts : List Fragment) :
    (∃ made, combine connective parts = .ok made) ↔ parts.Pairwise Compatible := by
  have ends := combine_ends connective parts
  constructor
  · rintro ⟨made, combined⟩
    exact (ends.of_ok combined).1
  · intro compatible
    cases combined : combine connective parts with
    | ok made => exact ⟨made, rfl⟩
    | error error => exact absurd compatible (ends.of_error combined).not_compatible

theorem combine_perm {connective : Connective} {reordered : List Fragment} (perm : parts.Perm reordered)
    (combined : combine connective parts = .ok made) :
    ∃ made', combine connective reordered = .ok made' ∧ made'.joins = made.joins ∧
      made'.selects = made.selects := by
  obtain ⟨compatible, unites⟩ := (combine_ends connective parts).of_ok combined
  have compatibleAgain := (perm.pairwise_iff fun first => first.symm).mp compatible
  obtain ⟨made', combinedAgain⟩ := (exists_combine_iff connective reordered).mpr compatibleAgain
  obtain ⟨-, unitesAgain⟩ := (combine_ends connective reordered).of_ok combinedAgain
  have same : Unites reordered made := by
    constructor
    case joins =>
      intro name value
      rw [unites.joins]
      simp [perm.mem_iff]
    case selects =>
      intro name value
      rw [unites.selects]
      simp [perm.mem_iff]
  obtain ⟨joins, selects⟩ := unitesAgain.unique same
  exact ⟨made', combinedAgain, joins, selects⟩

structure Gathers (first : Fragment) (others : List Fragment) (made : Fragment) : Prop where
  unites : Unites (first :: others) made
  order : made.order = (first :: others).flatMap (·.order)
  condition : made.condition = first.condition
  params : made.conditionParams = first.conditionParams

theorem eq_of_parts (joins : made.joins = other.joins) (selects : made.selects = other.selects)
    (order : made.order = other.order) (condition : made.condition = other.condition)
    (params : made.conditionParams = other.conditionParams) : made = other := by
  cases made
  cases other
  simp_all

theorem Gathers.unique {others : List Fragment} (gathers : Gathers first others made)
    (gathersOther : Gathers first others other) : made = other := by
  obtain ⟨joins, selects⟩ := gathers.unites.unique gathersOther.unites
  exact eq_of_parts joins selects (gathers.order.trans gathersOther.order.symm)
    (gathers.condition.trans gathersOther.condition.symm) (gathers.params.trans gathersOther.params.symm)

theorem mergeOrder_gathers (first second : Fragment) :
    Ends (fun made => first.Compatible second ∧ Gathers first [second] made)
      (fun _ => ¬ first.Compatible second) (first.mergeOrder second) := by
  have ends := mergeOrder_ends (Unites.single first) second
  cases merged : first.mergeOrder second with
  | error error =>
    have conflict := (ends.of_error merged).not_compatible
    exact .error (by simpa using conflict)
  | ok made =>
    obtain ⟨compatible, unites⟩ := ends.of_ok merged
    refine .ok ⟨by simpa using compatible, unites, ?_, ?_, ?_⟩
    all_goals rw [mergeOrder_ok merged]
    simp

theorem pairwise_three : [first, second, third].Pairwise Compatible ↔
    first.Compatible second ∧ first.Compatible third ∧ second.Compatible third := by
  simp [and_assoc]

theorem mergeOrder_left (first second third : Fragment) :
    Ends (fun made => [first, second, third].Pairwise Compatible ∧ Gathers first [second, third] made)
      (fun _ => ¬ [first, second, third].Pairwise Compatible)
      (first.mergeOrder second >>= fun merged => merged.mergeOrder third) := by
  rw [pairwise_three]
  refine (mergeOrder_gathers first second).bind (fun _ conflict each => conflict each.1) ?_
  rintro merged ⟨compatible, gathers⟩
  have both : merged.Compatible third ↔ first.Compatible third ∧ second.Compatible third := by
    simpa using gathers.unites.compatible_iff
  refine (mergeOrder_gathers merged third).mono ?_ fun _ conflict each => conflict (both.mpr each.2)
  rintro made ⟨compatibleThird, outer⟩
  have pair : Unites ([] ++ merged :: [third]) made := outer.unites
  refine ⟨⟨compatible, both.mp compatibleThird⟩, gathers.unites.expand pair, ?_, ?_, ?_⟩
  · simp [outer.order, gathers.order]
  · rw [outer.condition, gathers.condition]
  · rw [outer.params, gathers.params]

theorem mergeOrder_right (first second third : Fragment) :
    Ends (fun made => [first, second, third].Pairwise Compatible ∧ Gathers first [second, third] made)
      (fun _ => ¬ [first, second, third].Pairwise Compatible)
      (second.mergeOrder third >>= fun merged => first.mergeOrder merged) := by
  rw [pairwise_three]
  refine (mergeOrder_gathers second third).bind (fun _ conflict each => conflict each.2.2) ?_
  rintro merged ⟨compatible, gathers⟩
  have both : first.Compatible merged ↔ first.Compatible second ∧ first.Compatible third := by
    rw [compatible_comm, gathers.unites.compatible_iff]
    simp [@compatible_comm first second, @compatible_comm first third]
  refine (mergeOrder_gathers first merged).mono ?_ fun _ conflict each => conflict (both.mpr ⟨each.1, each.2.1⟩)
  rintro made ⟨compatibleFirst, outer⟩
  obtain ⟨compatibleSecond, compatibleThird⟩ := both.mp compatibleFirst
  have pair : Unites ([first] ++ merged :: []) made := outer.unites
  refine ⟨⟨compatibleSecond, compatibleThird, compatible⟩, gathers.unites.expand pair, ?_, ?_, ?_⟩
  · simp [outer.order, gathers.order]
  · exact outer.condition
  · exact outer.params

theorem absorb_empty (fragment : Fragment) : fragment.absorb empty = .ok fragment := by
  simp [absorb, mergeOrder, mergeJoins, mergeSelects, empty, AliasMap.empty, Bind.bind, Except.bind, pure,
    Except.pure]

theorem absorbAll_empty (fragment : Fragment) (before after : List Fragment) :
    fragment.absorbAll (before ++ empty :: after) = fragment.absorbAll (before ++ after) := by
  induction before generalizing fragment with
  | nil =>
    rw [List.nil_append, List.nil_append, absorbAll, absorb_empty]
    rfl
  | cons part before ih => simp only [List.cons_append, absorbAll, ih]

theorem combine_empty (connective : Connective) (before after : List Fragment) :
    combine connective (before ++ empty :: after) = combine connective (before ++ after) := by
  have conditions : ((before ++ empty :: after).map (·.condition)).filter (! ·.isEmpty) =
      ((before ++ after).map (·.condition)).filter (! ·.isEmpty) := by
    simp [empty]
  rw [combine, combine, absorbAll_empty, conditions]

theorem eq_empty (nothing : fragment.isEmpty = true) (bound : fragment.ConditionBound) :
    fragment = empty := by
  obtain ⟨⟨selects, sortedSelects⟩, condition, params, ⟨joins, sortedJoins⟩, order⟩ := fragment
  simp only [isEmpty, AliasMap.isEmpty, Bool.and_eq_true, List.isEmpty_iff] at nothing
  obtain ⟨⟨⟨rfl, blank⟩, rfl⟩, rfl⟩ := nothing
  obtain rfl : condition = "" := by simpa using blank
  obtain rfl : params = [] := bound.boundParams_eq.symm
  rfl

theorem combine_single (connective : Connective) (bound : fragment.ConditionBound) :
    combine connective [fragment] = .ok fragment := by
  obtain ⟨made, combined⟩ := (exists_combine_iff connective [fragment]).mpr (List.pairwise_singleton _ _)
  obtain ⟨-, unites⟩ := (combine_ends connective [fragment]).of_ok combined
  have condition : joinConditions connective (conditions [fragment]) = fragment.condition := by
    by_cases blank : fragment.condition = ""
    · simp [conditions, blank, joinConditions]
    · simp [conditions, blank, joinConditions]
  have gathered : Gathers fragment [] made := by
    rw [combine_ok combined] at unites ⊢
    exact ⟨unites, by simp, condition, by simpa using bound.boundParams_eq⟩
  have itself : Gathers fragment [] fragment := ⟨.single fragment, by simp, rfl, rfl⟩
  rw [combined, gathered.unique itself]

structure CheckedUnion (connective : Connective) : Prop where
  succeeds : ∀ parts, (∃ made, combine connective parts = .ok made) ↔ parts.Pairwise Compatible
  unites : ∀ parts made, (∀ part ∈ parts, part.ConditionBound) → combine connective parts = .ok made →
    Unites parts made ∧ made.order = parts.flatMap (·.order) ∧
      made.conditionParams = parts.flatMap (·.conditionParams)
  reports : ∀ parts error, combine connective parts = .error error → FirstConflict parts error
  reordered : ∀ parts reordered made, parts.Perm reordered → combine connective parts = .ok made →
    ∃ made', combine connective reordered = .ok made' ∧ made'.joins = made.joins ∧
      made'.selects = made.selects
  neutral : ∀ before part after, part.isEmpty = true → part.ConditionBound →
    combine connective (before ++ part :: after) = combine connective (before ++ after)
  single : ∀ fragment, fragment.ConditionBound → combine connective [fragment] = .ok fragment

theorem checkedUnion (connective : Connective) : CheckedUnion connective where
  succeeds := exists_combine_iff connective
  unites parts made bound combined := by
    have params : parts.flatMap boundParams = parts.flatMap (·.conditionParams) :=
      List.flatMap_congr fun part member => (bound part member).boundParams_eq
    refine ⟨((combine_ends connective parts).of_ok combined).2, ?_, ?_⟩
    all_goals rw [combine_ok combined]
    exact params
  reports parts _ failed := (combine_ends connective parts).of_error failed
  reordered _ _ _ perm combined := combine_perm perm combined
  neutral before part after nothing bound := by rw [eq_empty nothing bound, combine_empty]
  single _ bound := combine_single connective bound

theorem mergeOrder_assoc (first second third : Fragment) {made : Fragment} :
    (first.mergeOrder second >>= fun merged => merged.mergeOrder third) = .ok made ↔
      (second.mergeOrder third >>= fun merged => first.mergeOrder merged) = .ok made :=
  Ends.ok_iff_ok (fun _ _ gathers other => gathers.unique other) (mergeOrder_left first second third)
    (mergeOrder_right first second third)

theorem fragments_form_checked_union :
    (∀ connective, CheckedUnion connective) ∧
      (∀ fragment, fragment.ConditionBound →
        empty.and fragment = .ok fragment ∧ fragment.and empty = .ok fragment ∧
          empty.or fragment = .ok fragment ∧ fragment.or empty = .ok fragment) ∧
      ∀ first second third made : Fragment,
        (first.mergeOrder second >>= fun merged => merged.mergeOrder third) = .ok made ↔
          (second.mergeOrder third >>= fun merged => first.mergeOrder merged) = .ok made := by
  refine ⟨checkedUnion, fun fragment bound => ?_, fun first second third _ => mergeOrder_assoc first second third⟩
  have onLeft (connective : Connective) : combine connective [empty, fragment] = .ok fragment :=
    (combine_empty connective [] [fragment]).trans (combine_single connective bound)
  have onRight (connective : Connective) : combine connective [fragment, empty] = .ok fragment :=
    (combine_empty connective [fragment] []).trans (combine_single connective bound)
  exact ⟨onLeft .and, onRight .and, onLeft .or, onRight .or⟩

def defining (text : String) (param : Option String) : Fragment :=
  { empty with
    joins := (AliasMap.empty.insert "b" ⟨text, none⟩).insert "a" ⟨text, param⟩
    selects := AliasMap.empty.insert "c" text }

theorem fragments_form_checked_union_conflict :
    combine .or [defining "x" none, empty, defining "x" none, defining "y" (some "u")] =
        .error (.conflict .join "a" "x" "y [u]") ∧
      FirstConflict [defining "x" none, empty, defining "x" none, defining "y" (some "u")]
        (.conflict .join "a" "x" "y [u]") := by
  have failed : combine .or [defining "x" none, empty, defining "x" none, defining "y" (some "u")] =
      .error (.conflict .join "a" "x" "y [u]") := by
    rfl
  have laws := fragments_form_checked_union.1 .or
  exact ⟨failed, laws.reports _ _ failed⟩

end Fragment

end MediaSearch.Sql
