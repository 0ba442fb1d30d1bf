import Mathlib.Data.List.Infix
import MediaSearch.Path
import MediaSearch.Proofs.Text.Splitting

set_option autoImplicit false

namespace MediaSearch.Path

theorem same_iff {left right : Path} :
    left.same right = true ↔ left.head = right.head ∧ left.names = right.names := by
  simp [same]

theorem same_comm (left right : Path) : left.same right = right.same left := by
  rw [Bool.eq_iff_iff, same_iff, same_iff, eq_comm, eq_comm (a := left.names)]

section Start

variable {start body more text : List Char}

theorem splitHead_eq (text : List Char) : (splitHead text).1 ++ (splitHead text).2 = text := by
  fun_cases splitHead text <;> rfl

theorem splitHead_start (text : List Char) : splitHead (splitHead text).1 = ((splitHead text).1, []) := by
  fun_cases splitHead text <;> rfl

theorem splitHead_beginning (split : splitHead (start ++ body ++ '/' :: more) = (start, body ++ '/' :: more)) :
    splitHead (start ++ body) = (start, body) := by
  generalize start ++ body ++ '/' :: more = text at split
  unfold splitHead at split
  split at split
  · obtain ⟨rfl, -⟩ := Prod.mk.inj split
    rfl
  · obtain ⟨-, nothing⟩ := Prod.mk.inj split
    exact absurd nothing.symm (List.append_ne_nil_of_right_ne_nil body (List.cons_ne_nil '/' more))
  · obtain ⟨rfl, equal⟩ := Prod.mk.inj split
    cases body with
    | nil => rfl
    | cons c rest =>
      obtain ⟨rfl, -⟩ := List.cons.inj equal
      rfl
  · next notSlash notDot notDotSlash =>
    obtain ⟨rfl, rfl⟩ := Prod.mk.inj split
    rw [List.nil_append]
    unfold splitHead
    split
    · next rest => exact absurd rfl (notSlash (rest ++ '/' :: more))
    · exact absurd rfl (notDotSlash more)
    · next rest => exact absurd rfl (notDotSlash (rest ++ '/' :: more))
    · rfl

theorem splitHead_append (nonempty : text ≠ []) (slash : text = ['.'] → ∃ rest, more = '/' :: rest) :
    splitHead (text ++ more) = ((splitHead text).1, (splitHead text).2 ++ more) := by
  fun_cases splitHead text with
  | case1 rest => rfl
  | case2 =>
    obtain ⟨rest, rfl⟩ := slash rfl
    rfl
  | case3 rest => rfl
  | case4 chars notSlash notDot notDotSlash =>
    obtain ⟨c, others, rfl⟩ := List.exists_cons_of_ne_nil nonempty
    rw [List.cons_append]
    unfold splitHead
    split
    · next whole => exact absurd (congrArg (· :: others) (List.cons.inj whole).1) (notSlash others)
    · next whole =>
      obtain ⟨rfl, nothing⟩ := List.cons.inj whole
      exact absurd (congrArg _ (List.append_eq_nil_iff.mp nothing).1) notDot
    · next whole =>
      obtain ⟨rfl, after⟩ := List.cons.inj whole
      obtain ⟨rfl, -⟩ | ⟨further, rfl, -⟩ := List.append_eq_cons_iff.mp after
      · exact absurd rfl notDot
      · exact absurd rfl (notDotSlash further)
    · rfl

end Start

theorem toList_text (path : Path) : path.text.toList = path.head ++ ['/'].intercalate path.pieces := by
  rw [pieces, Text.intercalate_splitAt, head, splitHead_eq]

section Beginnings

variable {path : Path} {kept dropped reversed : List (List Char)}

theorem ofPieces_beginning (split : path.pieces = kept ++ dropped) (shorter : dropped ≠ []) :
    (ofPieces path.head kept.reverse).head = path.head ∧
      (ofPieces path.head kept.reverse).names = kept.filter isName := by
  suffices found : splitHead (ofPieces path.head kept.reverse).text.toList =
      (path.head, ['/'].intercalate kept) by
    refine ⟨by rw [head, found], ?_⟩
    rw [names, pieces, found]
    by_cases empty : kept = []
    · rw [empty]
      rfl
    · have apart : ∀ piece ∈ kept, '/' ∉ piece := fun piece listed =>
        Text.not_mem_of_mem_splitAt (split ▸ List.mem_append_left dropped listed : piece ∈ path.pieces)
      rw [Text.splitAt_intercalate apart empty]
  rw [ofPieces, String.toList_ofList, List.reverse_reverse]
  by_cases empty : kept = []
  · rw [empty, List.intercalate_nil, List.append_nil]
    exact splitHead_start path.text.toList
  · have whole : splitHead path.text.toList = (path.head, ['/'].intercalate path.pieces) := by
      rw [pieces, Text.intercalate_splitAt, head]
    rw [toList_text, split, Text.intercalate_append empty shorter, ← List.append_assoc] at whole
    exact splitHead_beginning whole

theorem filter_dropWhile_isName (pieces : List (List Char)) :
    (pieces.dropWhile fun piece => !isName piece).filter isName = pieces.filter isName := by
  induction pieces with
  | nil => rfl
  | cons piece pieces ih => cases named : isName piece <;> simp [named, ih]

theorem ofPieces_dropWhile (split : path.pieces = reversed.reverse ++ dropped) (shorter : dropped ≠ []) :
    (ofPieces path.head (reversed.dropWhile fun piece => !isName piece)).head = path.head ∧
      (ofPieces path.head (reversed.dropWhile fun piece => !isName piece)).names =
        (reversed.filter isName).reverse := by
  have whole : path.pieces = (reversed.dropWhile fun piece => !isName piece).reverse ++
      ((reversed.takeWhile fun piece => !isName piece).reverse ++ dropped) := by
    rw [← List.append_assoc, ← List.reverse_append, List.takeWhile_append_dropWhile, split]
  have beginning := ofPieces_beginning whole (List.append_ne_nil_of_right_ne_nil _ shorter)
  rwa [List.reverse_reverse, List.filter_reverse, filter_dropWhile_isName] at beginning

theorem tails_eq_cons {α : Type} (list : List α) : list.tails = list :: list.tails.tail := by
  cases list <;> rfl

-- Induction on the pieces from the last one on: a name adds one path, anything else none.
theorem aboveOf_eq (split : path.pieces = reversed.reverse ++ dropped) (start : path.head ≠ ['.']) :
    (aboveOf path.head reversed).map (fun up => (up.head, up.names)) =
      (reversed.filter isName).tails.tail.map fun names => (path.head, names.reverse) := by
  induction reversed generalizing dropped with
  | nil => simp [aboveOf, start]
  | cons piece before ih =>
    have shorter : path.pieces = before.reverse ++ piece :: dropped := by
      rw [split, List.reverse_cons, List.append_assoc, List.singleton_append]
    rw [aboveOf]
    split
    · next named =>
      obtain ⟨sameHead, fewer⟩ := ofPieces_dropWhile shorter (List.cons_ne_nil piece dropped)
      rw [List.map_cons, sameHead, fewer, ih shorter, List.filter_cons_of_pos named, List.tails_cons,
        List.tail_cons, tails_eq_cons (before.filter isName), List.map_cons, List.tail_cons]
    · next unnamed => rw [ih shorter, List.filter_cons_of_neg unnamed]

end Beginnings

def IsAbsolute (path : Path) : Prop := path.head = ['/']

section Absolute

variable {path : Path}

theorem above_eq (absolute : path.IsAbsolute) :
    (path :: path.above).map (fun up => (up.head, up.names)) =
      path.names.inits.reverse.map fun names => (['/'], names) := by
  have start : path.head ≠ ['.'] := by
    rw [absolute]
    decide
  have whole : path.pieces = path.pieces.reverse.reverse ++ [] := by
    rw [List.reverse_reverse, List.append_nil]
  have reversed : path.names.inits.reverse = path.names.reverse.tails.map List.reverse := by
    rw [List.map_reverse_tails, List.reverse_reverse]
  rw [List.map_cons, above, aboveOf_eq whole start, absolute, List.filter_reverse, reversed, List.map_map, ← names,
    tails_eq_cons path.names.reverse, List.map_cons, Function.comp_apply, List.reverse_reverse, List.tail_cons]
  rfl

theorem above_names (absolute : path.IsAbsolute) :
    (path :: path.above).map names = path.names.inits.reverse := by
  simpa [Function.comp_def] using congrArg (List.map Prod.snd) (above_eq absolute)

theorem above_absolute (absolute : path.IsAbsolute) {up : Path} (listed : up ∈ path :: path.above) :
    up.IsAbsolute := by
  have paired : (up.head, up.names) ∈ (path :: path.above).map fun up => (up.head, up.names) :=
    List.mem_map_of_mem listed
  rw [above_eq absolute] at paired
  obtain ⟨names, -, equal⟩ := List.mem_map.mp paired
  exact (congrArg Prod.fst equal).symm

theorem tails_pairwise_longer {α : Type} (list : List α) :
    list.tails.Pairwise fun longer shorter => shorter.length < longer.length := by
  induction list with
  | nil => simp
  | cons a rest ih =>
    rw [List.tails_cons]
    refine List.Pairwise.cons (fun shorter listed => ?_) ih
    exact Nat.lt_succ_of_le ((List.mem_tails shorter rest).mp listed).length_le

theorem above_pairwise_shorter (absolute : path.IsAbsolute) :
    (path :: path.above).Pairwise fun lower upper => upper.names.length < lower.names.length := by
  have shorter := tails_pairwise_longer path.names.reverse
  rw [List.tails_reverse, List.pairwise_reverse, List.pairwise_map] at shorter
  rw [← List.pairwise_map (f := names) (R := fun longer shorter => shorter.length < longer.length),
    above_names absolute, List.pairwise_reverse]
  exact shorter.imp fun {first second} fewer => by simpa using fewer

end Absolute

section Child

variable {name : String}

theorem splitHead_name {text : List Char} (named : isName text = true) (apart : '/' ∉ text) :
    splitHead text = ([], text) := by
  unfold splitHead
  split <;> simp_all [isName]

-- A name in a directory is one piece more, which may stand in place of an empty last piece.
theorem child_pieces (directory : Path) (named : isName name.toList = true) (apart : '/' ∉ name.toList) :
    (directory.child name).head = directory.head ∧
      ∃ before, (directory.child name).pieces = before ++ [name.toList] ∧ before.filter isName = directory.names := by
  have last : Text.splitAt '/' name.toList = [name.toList] := Text.splitAt_of_not_mem apart
  rw [head, head, pieces, names, pieces, child]
  by_cases empty : directory.text = ""
  · rw [if_pos (by simp [empty]), empty, String.empty_append, splitHead_name named apart, last]
    exact ⟨rfl, [], rfl, rfl⟩
  have nonempty : directory.text.toList ≠ [] := by simpa using empty
  by_cases ends : directory.text.toList.getLast? = some '/'
  · obtain ⟨before, text⟩ := List.getLast?_eq_some_iff.mp ends
    have notDot : directory.text.toList ≠ ['.'] := by
      intro dot
      simp [dot] at ends
    rw [if_pos (by simp [ends]), String.toList_append, splitHead_append nonempty fun dot => absurd dot notDot]
    refine ⟨rfl, ?_⟩
    have whole := splitHead_eq directory.text.toList
    obtain nothing | ⟨rest, c, after⟩ := (splitHead directory.text.toList).2.eq_nil_or_concat
    · rw [nothing, List.nil_append, last]
      exact ⟨[], rfl, rfl⟩
    · rw [List.concat_eq_append] at after
      rw [after, text, ← List.append_assoc] at whole
      obtain ⟨-, slash⟩ := List.append_inj' whole rfl
      obtain rfl := List.singleton_inj.mp slash
      rw [after, List.append_assoc, List.singleton_append, Text.splitAt_append, Text.splitAt_append, last,
        List.filter_append]
      exact ⟨_, rfl, (List.append_nil _).symm⟩
  · have whole : (directory.text ++ "/" ++ name).toList = directory.text.toList ++ '/' :: name.toList := by simp
    rw [if_neg (by simp [empty, ends]), whole, splitHead_append nonempty fun _ => ⟨name.toList, rfl⟩,
      Text.splitAt_append, last]
    exact ⟨rfl, _, rfl, rfl⟩

theorem child_names (directory : Path) (named : isName name.toList = true) (apart : '/' ∉ name.toList) :
    (directory.child name).names = directory.names ++ [name.toList] := by
  obtain ⟨-, before, pieces, fewer⟩ := child_pieces directory named apart
  rw [names, pieces, List.filter_append, fewer, List.filter_cons_of_pos named, List.filter_nil]

theorem parent?_child (directory : Path) (named : isName name.toList = true) (apart : '/' ∉ name.toList) :
    ∃ up, (directory.child name).parent? = some up ∧ up.same directory = true := by
  obtain ⟨sameHead, before, pieces, fewer⟩ := child_pieces directory named apart
  have split : (directory.child name).pieces = before.reverse.reverse ++ [name.toList] := by
    rw [List.reverse_reverse, pieces]
  obtain ⟨headUp, namesUp⟩ := ofPieces_dropWhile split (List.cons_ne_nil _ _)
  rw [List.filter_reverse, List.reverse_reverse, fewer] at namesUp
  rw [parent?, above, pieces, List.reverse_append, List.reverse_singleton, List.singleton_append, aboveOf,
    if_pos named, List.head?_cons]
  exact ⟨_, rfl, same_iff.mpr ⟨headUp.trans sameHead, namesUp⟩⟩

end Child

end MediaSearch.Path
