import MediaSearch.Text.Search

set_option autoImplicit false

namespace MediaSearch.Text

variable {separator : Char} {text : List Char}

theorem splitAt_eq_splitOn (separator : Char) (text : List Char) :
    splitAt separator text = text.splitOn separator := by
  induction text with
  | nil => rw [List.splitOn_nil, splitAt]
  | cons c rest ih =>
    obtain ⟨piece, pieces, split⟩ := List.exists_cons_of_ne_nil (List.splitOn_ne_nil separator rest)
    simp only [splitAt, ih, List.splitOn_cons_eq_if_modifyHead, beq_iff_eq, split, List.modifyHead_cons]

theorem splitAt_ne_nil (separator : Char) (text : List Char) : splitAt separator text ≠ [] := by
  rw [splitAt_eq_splitOn]
  exact List.splitOn_ne_nil separator text

theorem intercalate_splitAt (separator : Char) (text : List Char) :
    [separator].intercalate (splitAt separator text) = text := by
  rw [splitAt_eq_splitOn, List.intercalate_splitOn]

theorem splitAt_intercalate {pieces : List (List Char)} (apart : ∀ piece ∈ pieces, separator ∉ piece)
    (nonempty : pieces ≠ []) : splitAt separator ([separator].intercalate pieces) = pieces := by
  rw [splitAt_eq_splitOn, List.splitOn_intercalate separator apart nonempty]

theorem splitAt_append (first second : List Char) :
    splitAt separator (first ++ separator :: second) = splitAt separator first ++ splitAt separator second := by
  simp only [splitAt_eq_splitOn, List.splitOn_eq_splitOnP]
  exact List.splitOnP_append_cons first second (beq_self_eq_true separator)

theorem intercalate_append {first second : List (List Char)} (left : first ≠ []) (right : second ≠ []) :
    [separator].intercalate (first ++ second) =
      [separator].intercalate first ++ separator :: [separator].intercalate second := by
  induction first with
  | nil => exact absurd rfl left
  | cons piece pieces ih =>
    cases pieces with
    | nil => simp [List.intercalate_cons_of_ne_nil right]
    | cons next others =>
      have more : next :: others ++ second ≠ [] := List.cons_ne_nil next (others ++ second)
      rw [List.cons_append, List.intercalate_cons_of_ne_nil more, ih (List.cons_ne_nil next others),
        List.intercalate_cons_of_ne_nil (List.cons_ne_nil next others), List.append_assoc, List.append_assoc,
        List.append_assoc]

theorem splitAt_of_not_mem (apart : separator ∉ text) : splitAt separator text = [text] := by
  have single := splitAt_intercalate (List.forall_mem_singleton.mpr apart) (List.cons_ne_nil text [])
  rwa [List.intercalate_singleton] at single

theorem not_mem_of_mem_splitAt {piece : List Char} (listed : piece ∈ splitAt separator text) :
    separator ∉ piece := by
  induction text generalizing piece with
  | nil => simp_all [splitAt]
  | cons c rest ih =>
    obtain ⟨first, others, split⟩ := List.exists_cons_of_ne_nil (splitAt_ne_nil separator rest)
    rw [split] at ih
    rw [splitAt, split] at listed
    split at listed
    · rcases List.mem_cons.mp listed with rfl | later
      · exact List.not_mem_nil
      · exact ih later
    · next other =>
      rcases List.mem_cons.mp listed with rfl | later
      · exact List.not_mem_cons_of_ne_of_not_mem (Ne.symm other) (ih List.mem_cons_self)
      · exact ih (List.mem_cons_of_mem first later)

end MediaSearch.Text
