import MediaSearch.Proofs.Query.Layout
import MediaSearch.Proofs.Text.Splitting
import MediaSearch.Query.Order

set_option autoImplicit false

namespace MediaSearch

namespace Text

theorem trimEnd_isPrefix (text : List Char) : trimEnd text <+: text := by
  have suffix : text.reverse.dropWhile isBlank <:+ text.reverse := List.dropWhile_suffix isBlank
  simpa [trimEnd] using List.reverse_prefix.mpr suffix

theorem trimStart_startsVisibly {text : List Char} (nonempty : trimStart text ≠ []) :
    StartsVisibly (trimStart text) := by
  unfold trimStart at nonempty ⊢
  refine ⟨_, List.head?_eq_some_head nonempty, ?_⟩
  simpa using List.head_dropWhile_not isBlank nonempty

theorem trim_startsVisibly {text : List Char} (nonempty : trim text ≠ []) : StartsVisibly (trim text) := by
  obtain ⟨blanks, whole⟩ := trimEnd_isPrefix (trimStart text)
  have some : trimStart text ≠ [] := by
    intro none
    rw [trim, none] at nonempty
    exact nonempty rfl
  have starts := trimStart_startsVisibly some
  rw [← whole] at starts
  exact starts.left nonempty

end Text

namespace Query

open Text (StartsVisibly byteLength isBlank isEdge_takeWhile trim trimStart)

theorem Failure.Regular.append {offset : Nat} {first : List Char} {failure : Failure}
    (regular : failure.Regular offset first) (rest : List Char) :
    failure.Regular offset (first ++ rest) :=
  ⟨regular.edge.append rest, regular.notStray⟩

namespace OrderKey

theorem ofWord?_ends (direction : Direction) (offset : Nat) {word : List Char}
    (trimmed : word ≠ [] → StartsVisibly word) :
    Ends (fun _ => True) (Failure.Regular offset word) (ofWord? direction offset word) := by
  unfold ofWord?
  split
  · next c rest stopped =>
    have nonempty : word ≠ [] := by
      rintro rfl
      cases stopped
    exact .error ⟨isEdge_takeWhile (fun _ => isBlank_eq_false_of_isWordChar) (trimmed nonempty), rfl⟩
  · split
    · exact .ok trivial
    · exact .ok trivial

theorem ofPiece?_ends (offset : Nat) (piece : List Char) :
    Ends (fun _ => True) (Failure.Regular offset piece) (ofPiece? offset piece) := by
  obtain ⟨blanks, ends⟩ := Text.trimEnd_isPrefix (trimStart piece)
  have whole : piece = piece.takeWhile isBlank ++ (trim piece ++ blanks) := by
    rw [trim, ends, trimStart, List.takeWhile_append_dropWhile]
  simp only [ofPiece?]
  split
  · next rest minus =>
    have word : rest = rest.takeWhile isBlank ++ trimStart rest := by
      rw [trimStart, List.takeWhile_append_dropWhile]
    refine (ofWord?_ends _ _ Text.trimStart_startsVisibly).mono (fun _ _ => trivial) fun failure later => ?_
    have inner : failure.Regular _ ('-' :: rest) := .cons (.after word later)
    exact .after whole (minus ▸ inner.append blanks)
  · refine (ofWord?_ends _ _ Text.trim_startsVisibly).mono (fun _ _ => trivial) fun _ later => ?_
    exact .after whole (later.append blanks)

theorem ofPieces_ends (offset : Nat) (pieces : List (List Char)) :
    Ends (fun _ => True) (Failure.Regular offset ([','].intercalate pieces)) (ofPieces offset pieces) := by
  induction pieces generalizing offset with
  | nil => exact .ok trivial
  | cons piece pieces ih =>
    have first : Ends (fun _ => True) (Failure.Regular offset ([','].intercalate (piece :: pieces)))
        (ofPiece? offset piece) := by
      refine (ofPiece?_ends offset piece).mono (fun _ _ => trivial) fun _ regular => ?_
      cases pieces with
      | nil => rwa [List.intercalate_singleton]
      | cons next others =>
        rw [List.intercalate_cons_cons, List.append_assoc]
        exact regular.append _
    have others : Ends (fun _ => True) (Failure.Regular offset ([','].intercalate (piece :: pieces)))
        (ofPieces (offset + byteLength piece + 1) pieces) := by
      cases pieces with
      | nil => exact .ok trivial
      | cons next others =>
        have comma : offset + byteLength (piece ++ [',']) = offset + byteLength piece + 1 := by
          rw [Text.byteLength_append, ← Nat.add_assoc]
          rfl
        refine (ih _).mono (fun _ _ => trivial) fun _ later => ?_
        exact .after List.intercalate_cons_cons (comma ▸ later)
    rw [ofPieces]
    split
    · next failed => exact .error (first.of_error failed)
    · exact others.map (fun _ _ => trivial) fun _ regular => regular

end OrderKey

theorem parseOrder_ends (input : String) :
    Ends (fun _ => True) (ParseError.Placed input) (parseOrder input) := by
  refine (OrderKey.ofPieces_ends 0 _).mapError fun failure regular => ?_
  rw [Text.intercalate_splitAt] at regular
  exact regular.located.placed

end Query

end MediaSearch
