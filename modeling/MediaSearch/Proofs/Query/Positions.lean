import MediaSearch.Proofs.Query.Seams

set_option autoImplicit false

namespace MediaSearch

namespace Text

variable {offset lines columns : Nat} {c : Char} {text before first second : List Char}

namespace Position

theorem reverse_passes (noFeed : '\n' ∉ before) : ∀ c ∈ before.reverse, (c != '\n') = true := by
  intro c member
  have other : c ≠ '\n' := fun same => noFeed (same ▸ List.mem_reverse.mp member)
  simpa using other

theorem after_of_not_mem (noFeed : '\n' ∉ before) : after before = ⟨1, before.length⟩ := by
  rw [after, List.count_eq_zero.mpr noFeed, List.takeWhile_eq_self_iff.mpr (reverse_passes noFeed),
    List.length_reverse]

def behind (front : List Char) (position : Position) : Position :=
  { line := front.count '\n' + position.line
    column := if position.line = 1 then (after front).column + position.column else position.column }

theorem after_append (front before : List Char) :
    after (front ++ before) = (after before).behind front := by
  have line : (front ++ before).count '\n' + 1 = front.count '\n' + (before.count '\n' + 1) := by
    rw [List.count_append, Nat.add_assoc]
  by_cases within : '\n' ∈ before
  · have later : (after before).line ≠ 1 := by
      have := List.count_pos_iff.mpr within
      simp only [after]
      omega
    -- the last line starts behind the feed, so what stands in front has no part in it
    have stops : ¬ before.reverse.dropWhile (· != '\n') = [] := by
      rw [List.dropWhile_eq_nil_iff]
      intro passes
      simpa using passes '\n' (List.mem_reverse.mpr within)
    have column : (before.reverse ++ front.reverse).takeWhile (· != '\n') =
        before.reverse.takeWhile (· != '\n') :=
      (Query.takeWhile_seam before.reverse fun none => absurd none stops).1
    rw [behind, if_neg later, after, line, List.reverse_append, column]
    rfl
  · rw [after_of_not_mem within, behind, if_pos rfl, after, line, List.count_eq_zero.mpr within,
      List.reverse_append, List.takeWhile_append_of_pos (reverse_passes within), List.length_append,
      List.length_reverse, Nat.add_comm before.length]
    rfl

theorem after_cons_feed (before : List Char) :
    after ('\n' :: before) = ⟨(after before).line + 1, (after before).column⟩ := by
  have feed : after ['\n'] = ⟨2, 0⟩ := rfl
  rw [← List.singleton_append, after_append, behind, feed, List.count_singleton_self, Nat.add_comm, Nat.zero_add,
    ite_self]

theorem after_cons_of_ne (noFeed : c ≠ '\n') (before : List Char) :
    after (c :: before) = ⟨(after before).line,
      if (after before).line = 1 then (after before).column + 1 else (after before).column⟩ := by
  have single : after [c] = ⟨1, 1⟩ := after_of_not_mem (by simpa using noFeed.symm)
  have none : [c].count '\n' = 0 := List.count_eq_zero.mpr (by simpa using noFeed.symm)
  rw [← List.singleton_append, after_append, behind, single, none, Nat.zero_add, Nat.add_comm 1]

def Precedes (first second : Position) : Prop :=
  first.line < second.line ∨ first.line = second.line ∧ first.column < second.column

theorem after_precedes (before : List Char) {more : List Char} (nonempty : more ≠ []) :
    (after before).Precedes (after (before ++ more)) := by
  rw [after_append]
  by_cases feeds : '\n' ∈ more
  · left
    have := List.count_pos_iff.mpr feeds
    simp only [after, behind]
    omega
  · right
    have := List.length_pos_iff.mpr nonempty
    rw [after_of_not_mem feeds, behind, if_pos rfl]
    exact ⟨rfl, Nat.lt_add_of_pos_right this⟩

theorem precedes_of_lt (startsFirst : first <+: text) (startsSecond : second <+: text)
    (shorter : byteLength first < byteLength second) : (after first).Precedes (after second) := by
  rcases List.prefix_or_prefix_of_prefix startsFirst startsSecond with ⟨more, rfl⟩ | ⟨more, rfl⟩
  · apply after_precedes
    rintro rfl
    simp at shorter
  · rw [byteLength_append] at shorter
    omega

end Position

-- How many bytes are passed with `lines` line feeds and then `columns` characters of one line.
def offsetAt? : List Char → Nat → Nat → Option Nat
  | _, 0, 0 => some 0
  | [], _, _ => none
  | c :: rest, 0, columns + 1 =>
    if c = '\n' then none else (offsetAt? rest 0 columns).map (c.utf8Size + ·)
  | c :: rest, lines + 1, columns =>
    (offsetAt? rest (if c = '\n' then lines else lines + 1) columns).map (c.utf8Size + ·)

def Position.offset? (text : List Char) (position : Position) : Option Nat :=
  if position.line = 0 then none else offsetAt? text (position.line - 1) position.column

theorem offsetAt?_after (starts : before <+: text) :
    offsetAt? text (before.count '\n') (Position.after before).column = some (byteLength before) := by
  induction before generalizing text with
  | nil => cases text <;> rfl
  | cons c before ih =>
    obtain ⟨rest, rfl⟩ := starts
    have found := ih (List.prefix_append before rest)
    by_cases feed : c = '\n'
    · subst feed
      rw [Position.after_cons_feed, List.count_cons_self, List.cons_append, offsetAt?, if_pos rfl, found]
      rfl
    · rw [Position.after_cons_of_ne feed, List.count_cons_of_ne feed, List.cons_append]
      cases feeds : before.count '\n' with
      | zero =>
        have first : (Position.after before).line = 1 := congrArg (· + 1) feeds
        rw [feeds] at found
        rw [if_pos first, offsetAt?, if_neg feed, found]
        rfl
      | succ lines =>
        have later : (Position.after before).line ≠ 1 := by simp [Position.after, feeds]
        rw [feeds] at found
        rw [if_neg later, offsetAt?, if_neg feed, found]
        rfl

theorem exists_after_of_offsetAt? (found : offsetAt? text lines columns = some offset) :
    ∃ before, before <+: text ∧ byteLength before = offset ∧ Position.after before = ⟨lines + 1, columns⟩ := by
  fun_induction offsetAt? text lines columns generalizing offset with
  | case1 => exact ⟨[], List.nil_prefix, Option.some.inj found, rfl⟩
  | case2 => cases found
  | case3 => cases found
  | case4 c rest columns noFeed ih =>
    obtain ⟨length, passed, rfl⟩ := Option.map_eq_some_iff.mp found
    obtain ⟨before, starts, rfl, place⟩ := ih passed
    refine ⟨c :: before, List.cons_prefix_cons.mpr ⟨rfl, starts⟩, rfl, ?_⟩
    rw [Position.after_cons_of_ne noFeed, place, if_pos rfl]
  | case5 c rest lines columns ih =>
    obtain ⟨length, passed, rfl⟩ := Option.map_eq_some_iff.mp found
    obtain ⟨before, starts, rfl, place⟩ := ih passed
    refine ⟨c :: before, List.cons_prefix_cons.mpr ⟨rfl, starts⟩, rfl, ?_⟩
    by_cases feed : c = '\n'
    · subst feed
      rw [Position.after_cons_feed, place, if_pos rfl]
    · rw [Position.after_cons_of_ne feed, place, if_neg feed, if_neg (by simp)]

theorem Position.offset?_eq_some_iff {position : Position} :
    position.offset? text = some offset ↔
      ∃ before, before <+: text ∧ byteLength before = offset ∧ after before = position := by
  obtain ⟨line, column⟩ := position
  constructor
  · intro found
    unfold offset? at found
    split at found
    · cases found
    · next positive =>
      obtain ⟨before, starts, length, place⟩ := exists_after_of_offsetAt? found
      refine ⟨before, starts, length, ?_⟩
      rw [place, Nat.sub_add_cancel (Nat.pos_of_ne_zero positive)]
  · rintro ⟨before, starts, rfl, place⟩
    obtain ⟨rfl, rfl⟩ := Position.mk.inj place
    exact offsetAt?_after starts

end Text

namespace Query

open Text (IsBoundary Position byteLength)

variable {input : String} {fault other : Fault} {offset first second : Nat} {error : SyntaxError}

theorem SyntaxError.at?_of_isBoundary (fault : Fault) (boundary : IsBoundary 0 input.toList offset) :
    ∃ before, before <+: input.toList ∧ byteLength before = offset ∧
      at? fault input offset = some ⟨fault, input, offset, .after before⟩ := by
  obtain ⟨before, starts, same⟩ := boundary
  obtain rfl : offset = byteLength before := by rw [same, Nat.zero_add]
  exact ⟨before, starts, rfl, at?_byteLength fault starts⟩

theorem SyntaxError.at?_precedes (fault other : Fault) (firstCut : IsBoundary 0 input.toList first)
    (secondCut : IsBoundary 0 input.toList second) (less : first < second) :
    ∃ earlier later, at? fault input first = some earlier ∧ at? other input second = some later ∧
      earlier.position.Precedes later.position := by
  obtain ⟨shorter, startsFirst, rfl, foundFirst⟩ := at?_of_isBoundary fault firstCut
  obtain ⟨longer, startsSecond, rfl, foundSecond⟩ := at?_of_isBoundary other secondCut
  exact ⟨_, _, foundFirst, foundSecond, Position.precedes_of_lt startsFirst startsSecond less⟩

theorem SyntaxError.offset?_position (found : at? fault input offset = some error) :
    error.position.offset? input.toList = some error.offset := by
  obtain ⟨before, starts, -, rfl⟩ := at?_eq_some_iff.mp found
  exact Position.offset?_eq_some_iff.mpr ⟨before, starts, rfl, rfl⟩

theorem SyntaxError.at?_of_offset? {position : Position} (fault : Fault)
    (found : position.offset? input.toList = some offset) :
    ∃ error, at? fault input offset = some error ∧ error.position = position := by
  obtain ⟨before, starts, rfl, rfl⟩ := Position.offset?_eq_some_iff.mp found
  exact ⟨_, at?_byteLength fault starts, rfl⟩

theorem SyntaxError.at?_of_le (fault : Fault) (beyond : byteLength input.toList ≤ offset) :
    at? fault input offset = atEnd? fault input := by
  rw [atEnd?, at?, at?, Nat.min_eq_right beyond, Nat.min_self]

theorem positions_determine_offsets (input : String) (fault other : Fault) :
    (∀ first second, IsBoundary 0 input.toList first → IsBoundary 0 input.toList second → first < second →
      ∃ earlier later, SyntaxError.at? fault input first = some earlier ∧
        SyntaxError.at? other input second = some later ∧ earlier.position.Precedes later.position) ∧
    (∀ first second earlier later, SyntaxError.at? fault input first = some earlier →
      SyntaxError.at? other input second = some later → earlier.offset ≠ later.offset →
      earlier.position ≠ later.position) ∧
    (∀ offset, IsBoundary 0 input.toList offset →
      ∃ error, SyntaxError.at? fault input offset = some error ∧ error.offset = offset ∧
        error.position.offset? input.toList = some offset) ∧
    (∀ position offset, position.offset? input.toList = some offset →
      ∃ error, SyntaxError.at? fault input offset = some error ∧ error.position = position) ∧
    ∀ offset, byteLength input.toList ≤ offset →
      ∃ error, SyntaxError.at? fault input offset = some error ∧ SyntaxError.atEnd? fault input = some error ∧
        error.offset = byteLength input.toList ∧ error.position = .after input.toList := by
  refine ⟨?ordered, ?distinct, ?recovered, ?places, ?beyond⟩
  case ordered =>
    intro first second firstCut secondCut less
    exact SyntaxError.at?_precedes fault other firstCut secondCut less
  case distinct =>
    intro first second earlier later foundFirst foundSecond differ same
    have recovered := SyntaxError.offset?_position foundFirst
    rw [same, SyntaxError.offset?_position foundSecond] at recovered
    exact differ (Option.some.inj recovered).symm
  case recovered =>
    intro offset boundary
    obtain ⟨before, -, -, found⟩ := SyntaxError.at?_of_isBoundary fault boundary
    exact ⟨_, found, rfl, SyntaxError.offset?_position found⟩
  case places =>
    intro position offset found
    exact SyntaxError.at?_of_offset? fault found
  case beyond =>
    intro offset beyond
    have last := SyntaxError.at?_byteLength fault (List.prefix_refl input.toList)
    exact ⟨_, (SyntaxError.at?_of_le fault beyond).trans last, last, rfl, rfl⟩

theorem positions_determine_offsets_wide :
    IsBoundary 0 "é\n名 )".toList 2 ∧ IsBoundary 0 "é\n名 )".toList 6 ∧
      ∃ earlier later, SyntaxError.at? .unexpectedOr "é\n名 )" 2 = some earlier ∧
        SyntaxError.at? .unexpectedClose "é\n名 )" 6 = some later ∧
        earlier.position = ⟨1, 1⟩ ∧ later.position = ⟨2, 1⟩ ∧ earlier.position.Precedes later.position ∧
        later.position.offset? "é\n名 )".toList = some 6 := by
  have firstCut : IsBoundary 0 "é\n名 )".toList 2 := ⟨['é'], by decide, rfl⟩
  have secondCut : IsBoundary 0 "é\n名 )".toList 6 := ⟨['é', '\n', '名'], by decide, rfl⟩
  obtain ⟨ordered, -, -, -, -⟩ := positions_determine_offsets "é\n名 )" .unexpectedOr .unexpectedClose
  obtain ⟨-, -, recovered, -, -⟩ := positions_determine_offsets "é\n名 )" .unexpectedClose .unexpectedOr
  obtain ⟨earlier, later, foundFirst, foundSecond, precedes⟩ := ordered 2 6 firstCut secondCut (by decide)
  obtain ⟨error, found, -, back⟩ := recovered 6 secondCut
  obtain rfl : error = later := Option.some.inj (found.symm.trans foundSecond)
  have firstPlace : earlier.position = ⟨1, 1⟩ := by
    cases foundFirst
    rfl
  have secondPlace : error.position = ⟨2, 1⟩ := by
    cases foundSecond
    rfl
  exact ⟨firstCut, secondCut, earlier, error, foundFirst, found, firstPlace, secondPlace, precedes, back⟩

end Query

end MediaSearch
