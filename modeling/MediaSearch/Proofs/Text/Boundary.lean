import MediaSearch.Text.Ascii
import MediaSearch.Text.Blank
import MediaSearch.Text.Position

set_option autoImplicit false

namespace MediaSearch.Text

variable {offset position : Nat} {text first rest before : List Char}

@[simp] theorem byteLength_append (first second : List Char) :
    byteLength (first ++ second) = byteLength first + byteLength second := by
  induction first with
  | nil => simp [byteLength]
  | cons c rest ih => simp only [List.cons_append, byteLength, ih, Nat.add_assoc]

theorem byteLength_pos (nonempty : text ≠ []) : 0 < byteLength text := by
  cases text with
  | nil => exact absurd rfl nonempty
  | cons c rest =>
    have := c.utf8Size_pos
    simp only [byteLength]
    omega

def IsBoundary (offset : Nat) (text : List Char) (position : Nat) : Prop :=
  ∃ before, before <+: text ∧ position = offset + byteLength before

theorem isBoundary_start : IsBoundary offset text offset :=
  ⟨[], List.nil_prefix, rfl⟩

theorem IsBoundary.after (whole : text = first ++ rest)
    (later : IsBoundary (offset + byteLength first) rest position) : IsBoundary offset text position := by
  obtain ⟨before, starts, rfl⟩ := later
  refine ⟨first ++ before, whole ▸ (List.prefix_append_right_inj first).mpr starts, ?_⟩
  rw [byteLength_append, Nat.add_assoc]

def StartsVisibly (text : List Char) : Prop := ∃ c ∈ text.head?, isBlank c = false

def Touches (before after : List Char) : Prop :=
  (∃ c ∈ before.getLast?, isBlank c = false) ∨ StartsVisibly after

def IsEdge (offset : Nat) (text : List Char) (position : Nat) : Prop :=
  ∃ before after, text = before ++ after ∧ position = offset + byteLength before ∧ Touches before after

theorem startsVisibly_cons {c : Char} (visible : isBlank c = false) : StartsVisibly (c :: rest) :=
  ⟨c, rfl, visible⟩

theorem StartsVisibly.ne_nil (starts : StartsVisibly text) : text ≠ [] := by
  rintro rfl
  obtain ⟨c, first, -⟩ := starts
  cases first

theorem startsVisibly_of_all (nonempty : text ≠ []) (visible : ∀ c ∈ text, isBlank c = false) :
    StartsVisibly text := by
  cases text with
  | nil => exact absurd rfl nonempty
  | cons c rest => exact startsVisibly_cons (visible c List.mem_cons_self)

theorem StartsVisibly.left (starts : StartsVisibly (first ++ rest)) (nonempty : first ≠ []) :
    StartsVisibly first := by
  cases first with
  | nil => exact absurd rfl nonempty
  | cons c first => exact starts

theorem StartsVisibly.append (starts : StartsVisibly first) (rest : List Char) :
    StartsVisibly (first ++ rest) := by
  obtain ⟨c, leads, visible⟩ := starts
  exact ⟨c, by simp [Option.mem_def.mp leads], visible⟩

theorem asciiLower_of_isBlank {c : Char} (blank : isBlank c = true) : asciiLower c = c := by
  unfold asciiLower Char.toLower
  split
  · next upper =>
    have low : 65 ≤ c.toNat := upper.1
    have high : c.toNat ≤ 90 := upper.2
    simp only [isBlank, Bool.or_eq_true, Bool.and_eq_true, decide_eq_true_eq, beq_iff_eq] at blank
    omega
  · rfl

theorem startsVisibly_of_sameIgnoringCase {word : List Char} (same : sameIgnoringCase text word = true)
    (starts : StartsVisibly (word.map asciiLower)) : StartsVisibly text := by
  rw [← beq_iff_eq.mp same] at starts
  obtain ⟨lower, first, visible⟩ := starts
  rw [List.head?_map] at first
  obtain ⟨c, leads, rfl⟩ := Option.map_eq_some_iff.mp first
  refine ⟨c, leads, Bool.eq_false_iff.mpr fun blank => ?_⟩
  rw [asciiLower_of_isBlank blank, blank] at visible
  cases visible

theorem isEdge_start (starts : StartsVisibly text) : IsEdge offset text offset :=
  ⟨[], text, rfl, rfl, .inr starts⟩

theorem isEdge_finish (last : ∃ c ∈ first.getLast?, isBlank c = false) (rest : List Char) :
    IsEdge offset (first ++ rest) (offset + byteLength first) :=
  ⟨first, rest, rfl, rfl, .inl last⟩

-- The end of a run of visible characters. A run that is empty ends before the first character.
theorem isEdge_takeWhile {p : Char → Bool} (visible : ∀ c, p c = true → isBlank c = false)
    (starts : StartsVisibly text) : IsEdge offset text (offset + byteLength (text.takeWhile p)) := by
  have whole := List.takeWhile_append_dropWhile (p := p) (l := text)
  cases last : (text.takeWhile p).getLast? with
  | none =>
    rw [List.getLast?_eq_none_iff.mp last]
    exact isEdge_start starts
  | some c =>
    have inRun : p c = true := List.all_eq_true.mp List.all_takeWhile c (List.mem_of_getLast? last)
    have run : IsEdge offset (text.takeWhile p ++ text.dropWhile p) _ :=
      isEdge_finish ⟨c, last, visible c inRun⟩ _
    rwa [whole] at run

theorem IsEdge.append (earlier : IsEdge offset first position) (rest : List Char) :
    IsEdge offset (first ++ rest) position := by
  obtain ⟨before, after, rfl, same, touches⟩ := earlier
  exact ⟨before, after ++ rest, List.append_assoc .., same, touches.imp_right (·.append rest)⟩

theorem IsEdge.after (whole : text = first ++ rest)
    (later : IsEdge (offset + byteLength first) rest position) : IsEdge offset text position := by
  obtain ⟨before, after, rfl, rfl, touches⟩ := later
  refine ⟨first ++ before, after, by rw [whole, List.append_assoc], ?_, touches.imp_left ?_⟩
  · rw [byteLength_append, Nat.add_assoc]
  · rintro ⟨c, last, visible⟩
    exact ⟨c, by simp [Option.mem_def.mp last], visible⟩

theorem IsEdge.cons {c : Char} (later : IsEdge (offset + c.utf8Size) rest position) :
    IsEdge offset (c :: rest) position := by
  have first : c :: rest = [c] ++ rest := rfl
  exact IsEdge.after first later

def IsStop (text before : List Char) : Prop :=
  ∃ after, text = before ++ after ∧ (after = [] ∨ Touches before after)

theorem IsStop.isPrefix (stop : IsStop text before) : before <+: text := by
  obtain ⟨after, rfl, -⟩ := stop
  exact List.prefix_append before after

def IsPlace (text : List Char) (position : Nat) : Prop :=
  ∃ before, IsStop text before ∧ position = byteLength before

theorem isPlace_finish : IsPlace text (byteLength text) :=
  ⟨text, ⟨[], text.append_nil.symm, .inl rfl⟩, rfl⟩

theorem IsEdge.isPlace (edge : IsEdge 0 text position) : IsPlace text position := by
  obtain ⟨before, after, whole, same, touches⟩ := edge
  exact ⟨before, ⟨after, whole, .inr touches⟩, by omega⟩

theorem before?_byteLength (starts : before <+: text) :
    before? text (byteLength before) = some before := by
  induction before generalizing text with
  | nil => cases text <;> rfl
  | cons c before ih =>
    obtain ⟨after, rfl⟩ := starts
    have size := c.utf8Size_pos
    have found := ih (List.prefix_append before after)
    obtain ⟨length, same⟩ : ∃ length, byteLength (c :: before) = length + 1 :=
      ⟨byteLength (c :: before) - 1, by simp only [byteLength]; omega⟩
    have rest : length + 1 - c.utf8Size = byteLength before := by
      simp only [byteLength] at same
      omega
    have fits : c.utf8Size ≤ length + 1 := by
      simp only [byteLength] at same
      omega
    rw [same, List.cons_append, before?, if_pos fits, rest, found]
    rfl

theorem before?_eq_some_iff :
    before? text offset = some before ↔ before <+: text ∧ byteLength before = offset := by
  constructor
  · intro found
    fun_induction before? text offset generalizing before with
    | case1 =>
      cases found
      exact ⟨List.nil_prefix, rfl⟩
    | case2 => cases found
    | case3 c rest offset fits ih =>
      obtain ⟨others, within, rfl⟩ := Option.map_eq_some_iff.mp found
      obtain ⟨starts, length⟩ := ih within
      refine ⟨List.cons_prefix_cons.mpr ⟨rfl, starts⟩, ?_⟩
      rw [byteLength, length]
      omega
    | case4 => cases found
  · rintro ⟨starts, rfl⟩
    exact before?_byteLength starts

end MediaSearch.Text
