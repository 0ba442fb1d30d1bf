import MediaSearch.Proofs.Query.OrderLists
import MediaSearch.Proofs.Query.Positions

set_option autoImplicit false

namespace MediaSearch

namespace Query

open Text (Position byteLength isBlank isWordChar splitAt trim trimStart)

namespace OrderKey

theorem ofWord?_moved (direction : Direction) (distance offset : Nat) (word : List Char) :
    ofWord? direction (offset + distance) word =
      (ofWord? direction offset word).mapError (Failure.moved distance) := by
  unfold ofWord?
  split
  · rw [Nat.add_right_comm]
    rfl
  · split <;> rfl

theorem ofPiece?_moved (distance offset : Nat) (piece : List Char) :
    ofPiece? (offset + distance) piece = (ofPiece? offset piece).mapError (Failure.moved distance) := by
  have start (length : Nat) : offset + distance + length = offset + length + distance :=
    Nat.add_right_comm offset distance length
  simp only [ofPiece?, start]
  split
  · rw [← ofWord?_moved, Nat.add_right_comm _ distance, Nat.add_right_comm _ distance]
  · rw [← ofWord?_moved]

theorem ofPieces_moved (distance offset : Nat) (pieces : List (List Char)) :
    ofPieces (offset + distance) pieces = (ofPieces offset pieces).mapError (Failure.moved distance) := by
  induction pieces generalizing offset with
  | nil => rfl
  | cons piece pieces ih =>
    have rest : offset + distance + byteLength piece + 1 = offset + byteLength piece + 1 + distance := by omega
    rw [ofPieces, ofPieces, ofPiece?_moved, rest, ih]
    cases ofPiece? offset piece with
    | error failure => rfl
    | ok key => cases ofPieces (offset + byteLength piece + 1) pieces <;> rfl

def offsetBehind (offset : Nat) (pieces : List (List Char)) : Nat :=
  pieces.foldl (fun start piece => start + byteLength piece + 1) offset

theorem offsetBehind_eq (offset : Nat) {pieces : List (List Char)} (nonempty : pieces ≠ []) :
    offsetBehind offset pieces = offset + (byteLength ([','].intercalate pieces) + 1) := by
  induction pieces generalizing offset with
  | nil => exact absurd rfl nonempty
  | cons piece pieces ih =>
    cases pieces with
    | nil => simp [offsetBehind, Nat.add_assoc]
    | cons next others =>
      have later := ih (offset + byteLength piece + 1) (List.cons_ne_nil next others)
      have comma : byteLength [','] = 1 := rfl
      rw [offsetBehind, List.foldl_cons, ← offsetBehind, later, List.intercalate_cons_cons,
        Text.byteLength_append, Text.byteLength_append, comma]
      omega

theorem ofPieces_append (offset : Nat) (first second : List (List Char)) :
    ofPieces offset (first ++ second) =
      ofPieces offset first >>= fun keys => (ofPieces (offsetBehind offset first) second).map (keys ++ ·) := by
  induction first generalizing offset with
  | nil =>
    change ofPieces offset second = (ofPieces offset second).map id
    cases ofPieces offset second <;> rfl
  | cons piece pieces ih =>
    rw [List.cons_append, ofPieces, ofPieces, ih]
    cases ofPiece? offset piece with
    | error failure => rfl
    | ok key =>
      change Except.map _ (ofPieces _ pieces >>= _) = Except.map _ (ofPieces _ pieces) >>= _
      cases ofPieces (offset + byteLength piece + 1) pieces with
      | error failure => rfl
      | ok keys =>
        change Except.map _ (Except.map _ _) = Except.map _ (ofPieces (offsetBehind _ pieces) second)
        cases ofPieces (offsetBehind (offset + byteLength piece + 1) pieces) second with
        | error failure => rfl
        | ok more => exact congrArg Except.ok (List.append_assoc key.toList keys more).symm

theorem ofPieces_joined (first second : List Char) :
    ofPieces 0 (splitAt ',' (first ++ ',' :: second)) =
      ofPieces 0 (splitAt ',' first) >>= fun keys =>
        ((ofPieces 0 (splitAt ',' second)).mapError (Failure.moved (byteLength first + 1))).map (keys ++ ·) := by
  have behind : offsetBehind 0 (splitAt ',' first) = 0 + (byteLength first + 1) := by
    rw [offsetBehind_eq 0 (Text.splitAt_ne_nil ',' first), Text.intercalate_splitAt]
  rw [Text.splitAt_append, ofPieces_append, behind, ofPieces_moved]

end OrderKey

variable {first second : String} {keys more : List OrderKey} {error : ParseError}

theorem parseOrder_reads (input : String) :
    Ends (fun keys => OrderKey.ofPieces 0 (splitAt ',' input.toList) = .ok keys)
      (fun error => ∃ fault before, before <+: input.toList ∧
        OrderKey.ofPieces 0 (splitAt ',' input.toList) = .error ⟨fault, byteLength before⟩ ∧
        error = .malformed ⟨fault, input, byteLength before, .after before⟩)
      (parseOrder input) := by
  have ends := OrderKey.ofPieces_ends 0 (splitAt ',' input.toList)
  rw [Text.intercalate_splitAt] at ends
  unfold parseOrder
  generalize OrderKey.ofPieces 0 (splitAt ',' input.toList) = result at ends ⊢
  cases ends with
  | ok => exact .ok rfl
  | @error failure regular =>
    obtain ⟨before, stop, same⟩ := regular.located.place
    obtain ⟨fault, offset⟩ := failure
    obtain rfl : offset = byteLength before := same
    exact .error ⟨fault, before, stop.isPrefix, rfl, Failure.toParseError_of_isPrefix stop.isPrefix rfl⟩

theorem toList_joined (first second : String) :
    (first ++ "," ++ second).toList = first.toList ++ ',' :: second.toList := by
  simp

theorem parseOrder_both (readFirst : parseOrder first = .ok keys) (readSecond : parseOrder second = .ok more) :
    parseOrder (first ++ "," ++ second) = .ok (keys ++ more) := by
  have left := (parseOrder_reads first).of_ok readFirst
  have right := (parseOrder_reads second).of_ok readSecond
  rw [parseOrder, toList_joined, OrderKey.ofPieces_joined, left, right]
  rfl

theorem parseOrder_first_fails (failed : parseOrder first = .error error) (second : String) :
    ∃ found, error = .malformed found ∧
      parseOrder (first ++ "," ++ second) = .error (.malformed { found with input := first ++ "," ++ second }) := by
  obtain ⟨fault, before, starts, left, rfl⟩ := (parseOrder_reads first).of_error failed
  have within : before <+: (first ++ "," ++ second).toList := by
    rw [toList_joined]
    exact starts.trans (List.prefix_append first.toList _)
  have placed : Failure.toParseError (first ++ "," ++ second) ⟨fault, byteLength before⟩ = _ :=
    Failure.toParseError_of_isPrefix within rfl
  refine ⟨_, rfl, ?_⟩
  rw [parseOrder, toList_joined, OrderKey.ofPieces_joined, left]
  exact congrArg Except.error placed

theorem parseOrder_second_fails (read : parseOrder first = .ok keys) (failed : parseOrder second = .error error) :
    ∃ found, error = .malformed found ∧
      parseOrder (first ++ "," ++ second) =
        .error (.malformed
          { fault := found.fault
            input := first ++ "," ++ second
            offset := byteLength first.toList + 1 + found.offset
            position := found.position.behind (first ++ ",").toList }) := by
  have left := (parseOrder_reads first).of_ok read
  obtain ⟨fault, before, starts, right, rfl⟩ := (parseOrder_reads second).of_error failed
  have front : (first ++ "," ++ second).toList = (first ++ ",").toList ++ second.toList := by simp
  have within : (first ++ ",").toList ++ before <+: (first ++ "," ++ second).toList := by
    rw [front]
    exact (List.prefix_append_right_inj _).mpr starts
  have offset : byteLength ((first ++ ",").toList ++ before) = byteLength first.toList + 1 + byteLength before := by
    have comma : byteLength ",".toList = 1 := rfl
    rw [Text.byteLength_append, String.toList_append, Text.byteLength_append, comma]
  have moved : byteLength before + (byteLength first.toList + 1) = byteLength ((first ++ ",").toList ++ before) := by
    rw [offset, Nat.add_comm]
  have placed : Failure.toParseError (first ++ "," ++ second)
      ⟨fault, byteLength before + (byteLength first.toList + 1)⟩ = _ :=
    Failure.toParseError_of_isPrefix within moved
  rw [offset, Position.after_append] at placed
  refine ⟨_, rfl, ?_⟩
  rw [parseOrder, toList_joined, OrderKey.ofPieces_joined, left, right]
  exact congrArg Except.error placed

end Query

end MediaSearch
