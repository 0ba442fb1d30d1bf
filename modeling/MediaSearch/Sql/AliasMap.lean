set_option autoImplicit false

namespace MediaSearch.Sql

/-- One name is before another in byte order, which for UTF-8 is the order of the code points. -/
def AliasBefore {α : Type} (left right : String × α) : Prop := left.1 < right.1

def insertEntry {α : Type} (name : String) (value : α) : List (String × α) → List (String × α)
  | [] => [(name, value)]
  | entry :: rest =>
    if name < entry.1 then (name, value) :: entry :: rest
    else if name = entry.1 then (name, value) :: rest
    else entry :: insertEntry name value rest

theorem mem_insertEntry {α : Type} {name : String} {value : α} {entries : List (String × α)}
    {found : String × α} (present : found ∈ insertEntry name value entries) :
    found = (name, value) ∨ found ∈ entries := by
  induction entries with
  | nil => simpa [insertEntry] using present
  | cons entry rest ih =>
    simp only [insertEntry] at present
    split at present
    · simpa using present
    · split at present
      · rcases List.mem_cons.mp present with same | old
        · exact Or.inl same
        · exact Or.inr (List.mem_cons_of_mem _ old)
      · rcases List.mem_cons.mp present with same | inserted
        · exact Or.inr (same ▸ List.mem_cons_self)
        · exact (ih inserted).imp_right (List.mem_cons_of_mem _)

theorem insertEntry_sorted {α : Type} (name : String) (value : α) {entries : List (String × α)}
    (sorted : entries.Pairwise AliasBefore) :
    (insertEntry name value entries).Pairwise AliasBefore := by
  induction entries with
  | nil => simp [insertEntry]
  | cons entry rest ih =>
    obtain ⟨entryBefore, restSorted⟩ := List.pairwise_cons.mp sorted
    simp only [insertEntry]
    split
    · next before =>
      refine List.pairwise_cons.mpr ⟨fun found present => ?_, sorted⟩
      rcases List.mem_cons.mp present with rfl | old
      · exact before
      · exact String.lt_trans before (entryBefore found old)
    · next notBefore =>
      split
      · next same =>
        exact List.pairwise_cons.mpr ⟨fun found old => same ▸ entryBefore found old, restSorted⟩
      · next different =>
        refine List.pairwise_cons.mpr ⟨fun found present => ?_, ih restSorted⟩
        rcases mem_insertEntry present with rfl | old
        · exact Std.lt_of_le_of_ne (String.not_lt.mp notBefore) (Ne.symm different)
        · exact entryBefore found old

structure AliasMap (α : Type) where
  entries : List (String × α)
  sorted : entries.Pairwise AliasBefore
  deriving DecidableEq

namespace AliasMap

variable {α : Type}

def empty : AliasMap α := ⟨[], List.Pairwise.nil⟩

def isEmpty (map : AliasMap α) : Bool := map.entries.isEmpty

def get? (map : AliasMap α) (name : String) : Option α := map.entries.lookup name

def insert (map : AliasMap α) (name : String) (value : α) : AliasMap α :=
  ⟨insertEntry name value map.entries, insertEntry_sorted name value map.sorted⟩

def aliases (map : AliasMap α) : List String := map.entries.map (·.1)

def values (map : AliasMap α) : List α := map.entries.map (·.2)

end AliasMap

end MediaSearch.Sql
