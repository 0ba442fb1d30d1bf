import MediaSearch.Sql.Fragment

set_option autoImplicit false

namespace MediaSearch.Sql

section Results

variable {ε ε' α β : Type}

theorem bind_eq_ok {result : Except ε α} {next : α → Except ε β} {b : β} :
    result >>= next = .ok b ↔ ∃ a, result = .ok a ∧ next a = .ok b := by
  cases result <;> simp [Bind.bind, Except.bind]

theorem mapError_eq_ok {result : Except ε α} {f : ε → ε'} {a : α} :
    result.mapError f = .ok a ↔ result = .ok a := by
  cases result with
  | error => exact ⟨nofun, nofun⟩
  | ok b =>
    have mapped : (Except.ok b : Except ε α).mapError f = .ok b := rfl
    simp [mapped]

theorem pure_eq_ok {a b : α} : (pure a : Except ε α) = .ok b ↔ a = b := by
  simp [pure, Except.pure]

end Results

namespace AliasMap

variable {α : Type} {map : AliasMap α}

def insertAll (map : AliasMap α) (entries : List (String × α)) : AliasMap α :=
  entries.foldl (fun result entry => result.insert entry.1 entry.2) map

theorem insertAll_append (map : AliasMap α) (first second : List (String × α)) :
    map.insertAll (first ++ second) = (map.insertAll first).insertAll second :=
  List.foldl_append

theorem mem_insertAll {entries : List (String × α)} {found : String × α}
    (present : found ∈ (map.insertAll entries).entries) : found ∈ map.entries ∨ found ∈ entries := by
  induction entries generalizing map with
  | nil => exact Or.inl present
  | cons entry rest ih =>
    rcases ih present with early | late
    · rcases mem_insertEntry early with rfl | old
      · exact Or.inr (by simp)
      · exact Or.inl old
    · exact Or.inr (by simp [late])

theorem forall_mem_insertAll {allowed : String × α → Prop} {entries : List (String × α)}
    (before : ∀ entry ∈ map.entries, allowed entry) (added : ∀ entry ∈ entries, allowed entry) :
    ∀ entry ∈ (map.insertAll entries).entries, allowed entry := by
  intro entry present
  rcases mem_insertAll present with old | new
  · exact before entry old
  · exact added entry new

theorem mem_insertEntry_self (name : String) (value : α) (entries : List (String × α)) :
    (name, value) ∈ insertEntry name value entries := by
  induction entries with
  | nil => simp [insertEntry]
  | cons entry rest ih =>
    unfold insertEntry
    split
    · simp
    · split
      · simp
      · simp [ih]

theorem mem_insertEntry_of_ne {entries : List (String × α)} {found : String × α} {name : String}
    (value : α) (present : found ∈ entries) (other : found.1 ≠ name) :
    found ∈ insertEntry name value entries := by
  induction entries with
  | nil => cases present
  | cons entry rest ih =>
    unfold insertEntry
    rcases List.mem_cons.mp present with rfl | later
    · simp only [Ne.symm other, if_false]
      split <;> simp
    · split
      · simp [later]
      · split
        · simp [later]
        · simp [ih later]

-- Nothing is lost either, if no two of the entries give one alias two values.
theorem mem_insertAll_iff {allowed : String × α → Prop} {entries : List (String × α)}
    (determined : ∀ {first second}, allowed first → allowed second → first.1 = second.1 → first = second)
    (before : ∀ entry ∈ map.entries, allowed entry) (added : ∀ entry ∈ entries, allowed entry)
    {found : String × α} :
    found ∈ (map.insertAll entries).entries ↔ found ∈ map.entries ∨ found ∈ entries := by
  refine ⟨mem_insertAll, ?_⟩
  induction entries generalizing map with
  | nil => simp [insertAll]
  | cons entry rest ih =>
    obtain ⟨first, others⟩ := List.forall_mem_cons.mp added
    have allowedNext : ∀ later ∈ (map.insert entry.1 entry.2).entries, allowed later := by
      intro later present
      rcases mem_insertEntry present with rfl | old
      · exact first
      · exact before later old
    have next := ih allowedNext others
    have inserted : entry ∈ (map.insert entry.1 entry.2).entries := mem_insertEntry_self _ _ _
    rintro (old | new)
    · by_cases same : found.1 = entry.1
      · obtain rfl := determined (before found old) first same
        exact next (.inl inserted)
      · exact next (.inl (mem_insertEntry_of_ne _ old same))
    · rcases List.mem_cons.mp new with rfl | later
      · exact next (.inl inserted)
      · exact next (.inr later)

theorem insertEntry_of_lookup {entries : List (String × α)} {name : String} {value : α}
    (sorted : entries.Pairwise AliasBefore) (present : entries.lookup name = some value) :
    insertEntry name value entries = entries := by
  induction entries with
  | nil => simp at present
  | cons entry rest ih =>
    obtain ⟨before, restSorted⟩ := List.pairwise_cons.mp sorted
    obtain ⟨other, kept⟩ := entry
    by_cases same : name = other
    · subst same
      obtain rfl : kept = value := by simpa using present
      simp [insertEntry]
    · have differs : (name == other) = false := by simpa using same
      have later : rest.lookup name = some value := by
        simpa [List.lookup_cons, differs] using present
      -- the name stands in the rest, so it comes after the first alias
      obtain ⟨left, right, split, _⟩ := List.lookup_eq_some_iff.mp later
      have after : other < name := before (name, value) (by simp [split])
      have notBefore : ¬ name < other := fun less => String.lt_irrefl _ (String.lt_trans less after)
      simp [insertEntry, notBefore, same, ih restSorted later]

theorem insert_of_get? {name : String} {value : α} (present : map.get? name = some value) :
    map.insert name value = map := by
  obtain ⟨entries, sorted⟩ := map
  simp only [insert, AliasMap.mk.injEq]
  exact insertEntry_of_lookup sorted present

end AliasMap

theorem joinConditions_several (connective : Connective) (first second : String)
    (others : List String) :
    joinConditions connective (first :: second :: others) =
      connective.separator.intercalate ((first :: second :: others).map parenthesized) :=
  rfl

namespace Fragment

variable {fragment other result : Fragment}

theorem ofCondition_ok {sql : String} {params : List String}
    (built : ofCondition sql params = .ok result) :
    placeholderCount sql = params.length ∧
      result = { empty with condition := sql, conditionParams := params } := by
  unfold ofCondition at built
  split at built
  · next counted => exact ⟨counted, (Except.ok.inj built).symm⟩
  · cases built

theorem mergeJoin_ok {name : String} {join : Join} (merged : fragment.mergeJoin name join = .ok result) :
    result = { fragment with joins := fragment.joins.insert name join } := by
  unfold mergeJoin at merged
  split at merged
  · exact (Except.ok.inj merged).symm
  · next existing found =>
    split at merged
    · next same =>
      rw [same] at found
      rw [AliasMap.insert_of_get? found]
      exact (Except.ok.inj merged).symm
    · cases merged

theorem mergeSelect_ok {name expr : String} (merged : fragment.mergeSelect name expr = .ok result) :
    result = { fragment with selects := fragment.selects.insert name expr } := by
  unfold mergeSelect at merged
  split at merged
  · exact (Except.ok.inj merged).symm
  · next existing found =>
    split at merged
    · next same =>
      rw [same] at found
      rw [AliasMap.insert_of_get? found]
      exact (Except.ok.inj merged).symm
    · cases merged

theorem mergeJoins_ok {entries : List (String × Join)} (merged : fragment.mergeJoins entries = .ok result) :
    result = { fragment with joins := fragment.joins.insertAll entries } := by
  induction entries generalizing fragment with
  | nil => exact (Except.ok.inj merged).symm
  | cons entry rest ih =>
    obtain ⟨first, start, remaining⟩ := bind_eq_ok.mp merged
    rw [ih remaining, mergeJoin_ok start]
    rfl

theorem mergeSelects_ok {entries : List (String × String)}
    (merged : fragment.mergeSelects entries = .ok result) :
    result = { fragment with selects := fragment.selects.insertAll entries } := by
  induction entries generalizing fragment with
  | nil => exact (Except.ok.inj merged).symm
  | cons entry rest ih =>
    obtain ⟨first, start, remaining⟩ := bind_eq_ok.mp merged
    rw [ih remaining, mergeSelect_ok start]
    rfl

theorem mergeOrder_ok (merged : fragment.mergeOrder other = .ok result) :
    result = { fragment with
      selects := fragment.selects.insertAll other.selects.entries
      joins := fragment.joins.insertAll other.joins.entries
      order := fragment.order ++ other.order } := by
  obtain ⟨joined, joins, remaining⟩ := bind_eq_ok.mp merged
  obtain ⟨selected, selects, ordered⟩ := bind_eq_ok.mp remaining
  rw [← pure_eq_ok.mp ordered, mergeSelects_ok selects, mergeJoins_ok joins]

-- The texts that a fragment's condition binds; a fragment without a condition binds none.
def boundParams (fragment : Fragment) : List String :=
  if fragment.condition.isEmpty then [] else fragment.conditionParams

theorem absorb_ok (merged : fragment.absorb other = .ok result) :
    result = { fragment with
      selects := fragment.selects.insertAll other.selects.entries
      conditionParams := fragment.conditionParams ++ other.boundParams
      joins := fragment.joins.insertAll other.joins.entries
      order := fragment.order ++ other.order } := by
  obtain ⟨ordered, start, absorbed⟩ := bind_eq_ok.mp merged
  rw [← pure_eq_ok.mp absorbed, mergeOrder_ok start]
  rfl

theorem absorbAll_ok {parts : List Fragment} (merged : fragment.absorbAll parts = .ok result) :
    result = { fragment with
      selects := fragment.selects.insertAll (parts.flatMap (·.selects.entries))
      conditionParams := fragment.conditionParams ++ parts.flatMap boundParams
      joins := fragment.joins.insertAll (parts.flatMap (·.joins.entries))
      order := fragment.order ++ parts.flatMap (·.order) } := by
  induction parts generalizing fragment with
  | nil =>
    rw [← Except.ok.inj merged]
    simp [AliasMap.insertAll]
  | cons part parts ih =>
    obtain ⟨absorbed, start, remaining⟩ := bind_eq_ok.mp merged
    rw [ih remaining, absorb_ok start]
    simp [AliasMap.insertAll_append]

def conditions (parts : List Fragment) : List String :=
  (parts.map (·.condition)).filter (! ·.isEmpty)

theorem combine_ok {connective : Connective} {parts : List Fragment}
    (combined : combine connective parts = .ok result) :
    result =
      { selects := AliasMap.empty.insertAll (parts.flatMap (·.selects.entries))
        condition := joinConditions connective (conditions parts)
        conditionParams := parts.flatMap boundParams
        joins := AliasMap.empty.insertAll (parts.flatMap (·.joins.entries))
        order := parts.flatMap (·.order) } := by
  obtain ⟨absorbed, start, joined⟩ := bind_eq_ok.mp combined
  rw [← pure_eq_ok.mp joined, absorbAll_ok start]
  simp [empty, conditions]

theorem addJoin_ok {name sql : String} {param : Option String}
    (added : fragment.addJoin name sql param = .ok result) :
    placeholderCount sql = param.toList.length ∧
      result = { fragment with joins := fragment.joins.insert name { sql, param } } := by
  unfold addJoin at added
  split at added
  · next counted => exact ⟨counted, mergeJoin_ok added⟩
  · cases added

end Fragment

end MediaSearch.Sql
