import MediaSearch.FileTree
import MediaSearch.Proofs.Paths

set_option autoImplicit false

namespace MediaSearch.FileTree

variable {tree after : FileTree} {location other start : Location} {entry : Entry} {bytes : ByteArray} {path : Path}

theorem lookup_filter_ne {entries : List (Location × Entry)} (differs : other ≠ location) :
    (entries.filter fun entry => entry.1 != location).lookup other = entries.lookup other := by
  induction entries with
  | nil => rfl
  | cons entry entries ih =>
    obtain ⟨place, content⟩ := entry
    by_cases removed : place = location
    · have skipped : (other == location) = false := beq_eq_false_iff_ne.mpr differs
      simp [removed, List.lookup_cons, ih, skipped]
    · simp [removed, List.lookup_cons, ih]

-- The top is there already, so that what is absent lies below it.
theorem at?_set (absent : tree.at? location = none) : (tree.set location entry).at? location = some entry := by
  have below : location ≠ [] := by
    rintro rfl
    cases absent
  obtain ⟨name, names, rfl⟩ := List.exists_cons_of_ne_nil below
  have gone : (tree.entries.filter fun entry => entry.1 != name :: names).lookup (name :: names) = none := by
    refine List.lookup_eq_none_iff.mpr fun entry kept => ?_
    simpa [bne, BEq.comm] using (List.mem_filter.mp kept).2
  simp [at?, set, List.lookup_append, gone]

theorem at?_set_of_ne (differs : other ≠ location) : (tree.set location entry).at? other = tree.at? other := by
  cases other with
  | nil => rfl
  | cons name names =>
    have last : [(location, entry)].lookup (name :: names) = none := by
      rw [List.lookup_cons, beq_eq_false_iff_ne.mpr differs, List.lookup_nil]
    rw [at?, set, List.lookup_append, lookup_filter_ne differs, last, Option.or_none, at?]
    · simp
    · simp

theorem step_set (absent : tree.at? location = none) (piece : List Char) :
    (tree.set location (.file bytes)).step start piece = tree.step start piece ∨
      tree.step start piece = .error .missing ∧
        (tree.set location (.file bytes)).step start piece = .error .notDirectory := by
  by_cases here : start = location
  · subst here
    exact .inr ⟨by rw [step, absent], by rw [step, at?_set absent]⟩
  · exact .inl (by rw [step, step, at?_set_of_ne here])

theorem follow_set (absent : tree.at? location = none) (pieces : List (List Char)) :
    (tree.set location (.file bytes)).follow start pieces = tree.follow start pieces ∨
      tree.follow start pieces = .error .missing ∧
        (tree.set location (.file bytes)).follow start pieces = .error .notDirectory := by
  induction pieces generalizing start with
  | nil => exact .inl rfl
  | cons piece pieces ih =>
    rw [follow, follow]
    rcases step_set absent piece with same | ⟨before, later⟩
    · rw [same]
      cases tree.step start piece with
      | error reason => exact .inl rfl
      | ok next => exact ih
    · rw [before, later]
      exact .inr ⟨rfl, rfl⟩

theorem startOf_set (tree : FileTree) (location : Location) (entry : Entry) (path : Path) :
    (tree.set location entry).startOf path = tree.startOf path :=
  rfl

theorem look_set (absent : tree.at? location = none) (path : Path) :
    (tree.set location (.file bytes)).look path = tree.look path ∨
      tree.look path = .error .missing ∧
        ((tree.set location (.file bytes)).look path = .ok (.file bytes) ∨
          (tree.set location (.file bytes)).look path = .error .notDirectory) := by
  rw [look, look, locate, locate, startOf_set]
  rcases follow_set absent path.pieces with same | ⟨before, later⟩
  · rw [same]
    cases tree.follow (tree.startOf path) path.pieces with
    | error reason => exact .inl rfl
    | ok reached =>
      by_cases here : reached = location
      · subst here
        exact .inr (by simp only [absent, at?_set absent, true_and, true_or])
      · exact .inl (by simp only [at?_set_of_ne here])
  · rw [before, later]
    exact .inr ⟨rfl, .inr rfl⟩

theorem look_set_self (absent : tree.at? location = none) (reached : tree.locate path = .ok location) :
    (tree.set location (.file bytes)).look path = .ok (.file bytes) := by
  rcases follow_set absent path.pieces with same | ⟨nowhere, -⟩
  · rw [look, locate, startOf_set, same, ← locate, reached]
    simp only [at?_set absent]
  · rw [← locate, reached] at nowhere
    cases nowhere

theorem write_new (written : tree.write path bytes = .ok after) (absent : tree.look.exists? path = false) :
    ∃ location, tree.locate path = .ok location ∧ tree.at? location = none ∧
      after = tree.set location (.file bytes) := by
  unfold write at written
  split at written
  · cases written
  · next location reached =>
    have nothing : tree.at? location = none := by
      rw [Look.exists?, look, reached] at absent
      cases there : tree.at? location with
      | none => rfl
      | some entry =>
        simp only [there] at absent
        cases absent
    simp only [nothing] at written
    exact ⟨location, reached, nothing, (Except.ok.inj written).symm⟩

section Names

variable {name : String}

theorem step_unnamed {piece : List Char} (unnamed : Path.isName piece = false) :
    tree.step start piece = .ok start ∨ ∃ reason, ∀ piece, tree.step start piece = .error reason := by
  cases there : tree.at? start with
  | none => exact .inr ⟨.missing, fun piece => by rw [step, there]⟩
  | some entry =>
    cases entry with
    | directory => exact .inl (by simp [step, there, unnamed])
    | file bytes => exact .inr ⟨.notDirectory, fun piece => by rw [step, there]⟩
    | locked reason => exact .inr ⟨.notDirectory, fun piece => by rw [step, there]⟩

-- A piece that names nothing can only fail, and then the piece after it fails as well.
theorem follow_names (before : List (List Char)) (last : List Char) :
    tree.follow start (before ++ [last]) = tree.follow start (before.filter Path.isName ++ [last]) := by
  induction before generalizing start with
  | nil => rfl
  | cons piece before ih =>
    cases named : Path.isName piece with
    | true =>
      rw [List.filter_cons_of_pos named, List.cons_append, List.cons_append, follow, follow]
      cases tree.step start piece with
      | error reason => rfl
      | ok next => exact ih
    | false =>
      rw [List.filter_cons_of_neg (Bool.not_eq_true _ ▸ named), List.cons_append, follow]
      rcases step_unnamed named with stays | ⟨reason, stuck⟩
      · rw [stays]
        exact ih
      · have nonempty : before.filter Path.isName ++ [last] ≠ [] :=
          List.append_ne_nil_of_right_ne_nil _ (List.cons_ne_nil last [])
        obtain ⟨first, rest, more⟩ := List.exists_cons_of_ne_nil nonempty
        rw [more, follow, stuck, stuck]

theorem locate_child (directory : Path) (named : Path.isName name.toList = true) (apart : '/' ∉ name.toList) :
    tree.locate (directory.child name) =
      tree.follow (tree.startOf directory) (directory.names ++ [name.toList]) := by
  obtain ⟨sameHead, before, pieces, fewer⟩ := Path.child_pieces directory named apart
  rw [locate, startOf, sameHead, ← startOf, pieces, follow_names, fewer]

theorem look_child_congr {left right : Path} (same : left.same right = true)
    (named : Path.isName name.toList = true) (apart : '/' ∉ name.toList) :
    tree.look (left.child name) = tree.look (right.child name) := by
  obtain ⟨sameHead, sameNames⟩ := Path.same_iff.mp same
  have sameStart : tree.startOf left = tree.startOf right := by rw [startOf, sameHead, ← startOf]
  rw [look, look, locate_child left named apart, locate_child right named apart, sameStart, sameNames]

end Names

end MediaSearch.FileTree
