import MediaSearch.Proofs.Query.Lockstep
import MediaSearch.Proofs.Query.OrderLists
import MediaSearch.Proofs.Query.Seams

set_option autoImplicit false

namespace MediaSearch.Query

open Text (byteLength isBlank splitAt trim trimEnd trimStart)

def Padded (text padded : List Char) : Prop :=
  ∃ front back, IsGap front ∧ IsGap back ∧ padded = front ++ text ++ back

variable {text padded back front : List Char}

theorem IsGap.trimStart_append (gap : IsGap front) (text : List Char) :
    trimStart (front ++ text) = trimStart text :=
  List.dropWhile_append_of_pos gap

theorem IsGap.trimEnd_append (gap : IsGap back) (text : List Char) : trimEnd (text ++ back) = trimEnd text := by
  have reversed : ∀ c ∈ back.reverse, isBlank c = true := fun c member => gap c (List.mem_reverse.mp member)
  rw [trimEnd, List.reverse_append, List.dropWhile_append_of_pos reversed, trimEnd]

theorem Padded.trim_eq (around : Padded text padded) : trim padded = trim text := by
  obtain ⟨front, back, before, behind, rfl⟩ := around
  rw [trim, trim, List.append_assoc, before.trimStart_append]
  by_cases blank : trimStart text = []
  · have gap : IsGap text := List.dropWhile_eq_nil_iff.mp blank
    rw [gap.trimStart_append, blank, trimStart, List.dropWhile_eq_nil_iff.mpr behind]
  · have kept : (text ++ back).dropWhile isBlank = text.dropWhile isBlank ++ back :=
      (takeWhile_seam text fun none => absurd none blank).2
    rw [trimStart, kept, behind.trimEnd_append, trimStart]

theorem padded_trim (text : List Char) : Padded (trim text) text := by
  have front : IsGap (text.takeWhile isBlank) := fun c => List.mem_takeWhile_imp
  have back : IsGap ((trimStart text).reverse.takeWhile isBlank).reverse :=
    fun c member => List.mem_takeWhile_imp (List.mem_reverse.mp member)
  refine ⟨_, _, front, back, ?_⟩
  rw [trim, trimEnd, List.append_assoc, ← List.reverse_append, List.takeWhile_append_dropWhile,
    List.reverse_reverse, trimStart, List.takeWhile_append_dropWhile]

theorem Padded.all_isBlank (around : Padded text padded) : padded.all isBlank = text.all isBlank := by
  obtain ⟨front, back, before, behind, rfl⟩ := around
  simp [List.all_eq_true.mpr before, List.all_eq_true.mpr behind]

theorem SameTokens.moved (distance : Nat) (lexemes : List Lexeme) :
    SameTokens lexemes (lexemes.map (Lexeme.moved distance)) := by
  induction lexemes with
  | nil => exact .nil
  | cons lexeme lexemes ih => exact .cons lexeme.token lexeme.offset _ ih

theorem scanFrom_append_gap (gap : IsGap front) (offset : Nat) (text : List Char) :
    scanFrom offset (front ++ text) = scanFrom (offset + byteLength front) text := by
  induction front generalizing offset with
  | nil => rfl
  | cons c front ih =>
    obtain ⟨blank, gap⟩ := List.forall_mem_cons.mp gap
    rw [List.cons_append, scanFrom_blank blank, ih gap, byteLength, Nat.add_assoc]

theorem scanFrom_padded (around : Padded text padded) :
    Ends (fun lexemes => ∃ lexemes', scanFrom 0 padded = .ok lexemes' ∧ SameTokens lexemes lexemes')
      (fun failure => ∃ failure', scanFrom 0 padded = .error failure' ∧ failure.SameFault failure')
      (scanFrom 0 text) := by
  obtain ⟨front, back, before, behind, rfl⟩ := around
  rw [List.append_assoc, scanFrom_append_gap before]
  have moved : ScanGoesOn (byteLength front) back 0 text := scanFrom_goesOn behind.endsWord 0 text
  refine moved.mono (fun lexemes found => ?_) fun failure refused => ?_
  · rw [FoundIn, scanFrom_gap behind] at found
    exact ⟨_, found, by simpa using .moved (byteLength front) lexemes⟩
  · exact ⟨_, refused behind, rfl⟩

def ParseError.fault : ParseError → Fault
  | .malformed error => error.fault
  | .misplaced failure => failure.fault

theorem Failure.fault_toParseError (failure : Failure) (input : String) :
    (failure.toParseError input).fault = failure.fault := by
  unfold toParseError
  split
  · next located =>
    obtain ⟨before, -, rfl⟩ := Option.map_eq_some_iff.mp located
    rfl
  · rfl

def ParseError.SameFault (error error' : ParseError) : Prop := error.fault = error'.fault

theorem Failure.SameFault.toParseError {failure failure' : Failure} (same : failure.SameFault failure')
    (input input' : String) : (failure.toParseError input).SameFault (failure'.toParseError input') := by
  rw [ParseError.SameFault, fault_toParseError, fault_toParseError, same]

theorem parse_padded {input input' : String} (around : Padded input.toList input'.toList) :
    EndAlike ParseError.SameFault (parse input) (parse input') := by
  have scanned := scanFrom_padded around
  unfold parse tokenize
  generalize scanFrom 0 input.toList = alone at scanned ⊢
  obtain ⟨lexemes', read, same⟩ | ⟨failure', refused, same⟩ := scanned
  · rw [read]
    exact (parseTokens_alike _ _ same).mapError fun _ _ fault => fault.toParseError input input'
  · rw [refused]
    exact .error (same.toParseError input input')

section Pieces

variable {separator : Char}

theorem splitAt_cons_of_ne {c : Char} (other : c ≠ separator) (text : List Char) :
    splitAt separator (c :: text) = (splitAt separator text).modifyHead (c :: ·) := by
  obtain ⟨piece, pieces, split⟩ := List.exists_cons_of_ne_nil (Text.splitAt_ne_nil separator text)
  rw [splitAt, if_neg other, split, List.modifyHead_cons]

theorem splitAt_front (apart : separator ∉ front) (text : List Char) :
    splitAt separator (front ++ text) = (splitAt separator text).modifyHead (front ++ ·) := by
  obtain ⟨piece, pieces, split⟩ := List.exists_cons_of_ne_nil (Text.splitAt_ne_nil separator text)
  induction front with
  | nil => simp [split]
  | cons c front ih =>
    have other : c ≠ separator := fun same => apart (by simp [same])
    have later : separator ∉ front := fun member => apart (List.mem_cons_of_mem c member)
    rw [List.cons_append, splitAt_cons_of_ne other, ih later, split]
    rfl

theorem splitAt_back (apart : separator ∉ back) (text : List Char) :
    ∃ pieces last, splitAt separator text = pieces ++ [last] ∧
      splitAt separator (text ++ back) = pieces ++ [last ++ back] := by
  induction text with
  | nil => exact ⟨[], [], rfl, Text.splitAt_of_not_mem apart⟩
  | cons c text ih =>
    obtain ⟨pieces, last, split, split'⟩ := ih
    by_cases same : c = separator
    · exact ⟨[] :: pieces, last, by simp [splitAt, same, split], by simp [splitAt, same, split']⟩
    · rw [List.cons_append, splitAt_cons_of_ne same, splitAt_cons_of_ne same, split, split']
      cases pieces with
      | nil => exact ⟨[], c :: last, rfl, rfl⟩
      | cons piece pieces => exact ⟨(c :: piece) :: pieces, last, rfl, rfl⟩

theorem Padded.map_trim_splitAt (visible : isBlank separator = false) (around : Padded text padded) :
    (splitAt separator padded).map trim = (splitAt separator text).map trim := by
  obtain ⟨front, back, before, behind, rfl⟩ := around
  have apart {gap : List Char} (blank : IsGap gap) : separator ∉ gap := by
    intro member
    simp [blank separator member] at visible
  have leading (piece : List Char) : trim (front ++ piece) = trim piece := by
    rw [trim, before.trimStart_append, trim]
  have trailing (piece : List Char) : trim (piece ++ back) = trim piece :=
    Padded.trim_eq ⟨[], back, by simp [IsGap], behind, rfl⟩
  obtain ⟨pieces, last, split, split'⟩ := splitAt_back (apart behind) text
  rw [List.append_assoc, splitAt_front (apart before), split, split']
  cases pieces with
  | nil => simp [leading, trailing]
  | cons piece pieces => simp [leading, trailing]

end Pieces

namespace OrderKey

theorem ofWord?_alike (direction : Direction) (offset offset' : Nat) (word : List Char) :
    EndAlike Failure.SameFault (ofWord? direction offset word) (ofWord? direction offset' word) := by
  unfold ofWord?
  split
  · exact .error rfl
  · split <;> exact .ok _

theorem ofPiece?_alike {piece piece' : List Char} (offset offset' : Nat) (same : trim piece = trim piece') :
    EndAlike Failure.SameFault (ofPiece? offset piece) (ofPiece? offset' piece') := by
  simp only [ofPiece?, same]
  split <;> exact ofWord?_alike _ _ _ _

theorem ofPieces_alike {pieces pieces' : List (List Char)} (offset offset' : Nat)
    (same : pieces.map trim = pieces'.map trim) :
    EndAlike Failure.SameFault (ofPieces offset pieces) (ofPieces offset' pieces') := by
  induction pieces generalizing pieces' offset offset' with
  | nil =>
    obtain rfl : pieces' = [] := by simpa using same.symm
    exact .ok []
  | cons piece pieces ih =>
    obtain ⟨piece', pieces', rfl, first, others⟩ := List.map_eq_cons_iff.mp same.symm
    have key := ofPiece?_alike offset offset' first.symm
    rw [ofPieces, ofPieces]
    generalize ofPiece? offset piece = alone, ofPiece? offset' piece' = around at key ⊢
    cases key with
    | ok key => exact (ih _ _ others.symm).map _
    | error fault => exact .error fault

end OrderKey

theorem parseOrder_padded {input input' : String} (around : Padded input.toList input'.toList) :
    EndAlike ParseError.SameFault (parseOrder input) (parseOrder input') := by
  have pieces : (splitAt ',' input'.toList).map trim = (splitAt ',' input.toList).map trim :=
    around.map_trim_splitAt rfl
  exact (OrderKey.ofPieces_alike 0 0 pieces.symm).mapError fun _ _ fault => fault.toParseError input input'

end MediaSearch.Query
