import MediaSearch.Proofs.Query.OrderComposition
import MediaSearch.Proofs.Query.Padding

set_option autoImplicit false

namespace MediaSearch

namespace Text

theorem before?_add {text : List Char} {c : Char} (offset : Nat) :
    before? (c :: text) (c.utf8Size + offset) = (before? text offset).map (c :: ·) := by
  have size := c.utf8Size_pos
  obtain ⟨less, same⟩ : ∃ less, c.utf8Size + offset = less + 1 := ⟨c.utf8Size + offset - 1, by omega⟩
  have fits : c.utf8Size ≤ less + 1 := by omega
  have rest : less + 1 - c.utf8Size = offset := by omega
  rw [same, before?, if_pos fits, rest]

theorem before?_behind (front text : List Char) (offset : Nat) :
    before? (front ++ text) (byteLength front + offset) = (before? text offset).map (front ++ ·) := by
  induction front with
  | nil => simp [byteLength]
  | cons c front ih =>
    rw [List.cons_append, byteLength, Nat.add_assoc, before?_add, ih, Option.map_map]
    rfl

end Text

namespace Query

open Text (byteLength isBlank)

def SyntaxError.behind (front : String) (error : SyntaxError) : SyntaxError :=
  { fault := error.fault
    input := front ++ error.input
    offset := error.offset + byteLength front.toList
    position := error.position.behind front.toList }

theorem SyntaxError.at?_behind (fault : Fault) (front input : String) (offset : Nat) :
    at? fault (front ++ input) (offset + byteLength front.toList) = (at? fault input offset).map (behind front) := by
  have clamped : min (offset + byteLength front.toList) (byteLength (front.toList ++ input.toList)) =
      byteLength front.toList + min offset (byteLength input.toList) := by
    rw [Text.byteLength_append]
    omega
  simp only [at?, String.toList_append, clamped, Text.before?_behind, Option.map_map]
  refine congrArg (Option.map · (Text.before? input.toList _)) (funext fun before => ?_)
  simp only [Function.comp_apply, behind, Text.Position.after_append, Nat.add_comm]

theorem Failure.toParseError_behind {failure : Failure} {input : String} {found : SyntaxError}
    (located : failure.toParseError input = .malformed found) (front : String) :
    (failure.moved (byteLength front.toList)).toParseError (front ++ input) = .malformed (found.behind front) := by
  have placed : SyntaxError.at? failure.fault input failure.offset = some found := by
    unfold toParseError at located
    split at located
    · next error placed => rw [placed, ParseError.malformed.inj located]
    · cases located
  simp only [toParseError, moved, SyntaxError.at?_behind, placed, Option.map_some]

variable {first gap second : List Char} {lexemes : List Lexeme}

theorem isGap_nil : IsGap [] := by simp [IsGap]

theorem scanFrom_moved (distance : Nat) (text : List Char) :
    Ends (fun lexemes => scanFrom distance text = .ok (lexemes.map (Lexeme.moved distance)))
      (fun failure => scanFrom distance text = .error (failure.moved distance)) (scanFrom 0 text) := by
  have goesOn : ScanGoesOn distance [] 0 text := scanFrom_goesOn isGap_nil.endsWord 0 text
  rw [ScanGoesOn, List.append_nil, Nat.zero_add] at goesOn
  refine goesOn.mono (fun lexemes found => ?_) fun failure refused => refused isGap_nil
  rw [FoundIn, List.append_nil, Nat.zero_add, scanFrom_nil] at found
  simpa [Except.map] using found

theorem scanFrom_juxtaposed (nonempty : gap ≠ []) (blank : IsGap gap) (scanned : scanFrom 0 first = .ok lexemes)
    (second : List Char) :
    scanFrom 0 (first ++ gap ++ second) = (scanFrom (byteLength (first ++ gap)) second).map (lexemes ++ ·) := by
  have ends : EndsWord (gap ++ second) := by
    cases gap with
    | nil => exact absurd rfl nonempty
    | cons c gap => exact blank.endsWord
  have found : FoundIn 0 (gap ++ second) 0 first lexemes := (scanFrom_goesOn ends 0 first).of_ok scanned
  have unmoved : Lexeme.moved 0 = id := rfl
  rw [FoundIn, unmoved, List.map_id, Nat.zero_add, scanFrom_append_gap blank, Nat.zero_add,
    ← Text.byteLength_append] at found
  rw [List.append_assoc, found]

-- What is read of a text that stands behind `front`, of which these tokens have been read.
def ReadBehind (front : String) (lexemes : List Lexeme) (text : String) : Prop :=
  Ends
    (fun more => tokenize (front ++ text) = .ok (lexemes ++ more.map (Lexeme.moved (byteLength front.toList))))
    (fun error => ∃ found, error = .malformed found ∧
      tokenize (front ++ text) = .error (.malformed (found.behind front)))
    (tokenize text)

theorem readBehind {front : String} (text : String)
    (read : scanFrom 0 (front ++ text).toList =
      (scanFrom (byteLength front.toList) text.toList).map (lexemes ++ ·)) :
    ReadBehind front lexemes text := by
  have moved := scanFrom_moved (byteLength front.toList) text.toList
  have regular := scanFrom_ends 0 text.toList
  unfold ReadBehind
  rw [tokenize, tokenize, read]
  generalize scanFrom 0 text.toList = alone at moved regular ⊢
  cases moved with
  | ok found =>
    rw [found]
    exact .ok rfl
  | @error failure refused =>
    obtain ⟨fault, before, -, -, located⟩ := (regular.of_error rfl).located.placed
    rw [refused]
    exact .error ⟨_, located, congrArg Except.error (failure.toParseError_behind located front)⟩

theorem tokenize_juxtaposed {gap : String} (blank : IsGap gap.toList) (second : String) :
    (∀ first lexemes, gap ≠ "" → tokenize first = .ok lexemes → ReadBehind (first ++ gap) lexemes second) ∧
      ReadBehind gap [] second := by
  constructor
  · intro first lexemes nonempty scanned
    have some : gap.toList ≠ [] := fun none => nonempty (String.toList_eq_nil_iff.mp none)
    have read := scanFrom_juxtaposed some blank (tokenize_eq_ok.mp scanned) second.toList
    refine readBehind second ?_
    simpa only [String.toList_append] using read
  · refine readBehind second ?_
    rw [String.toList_append, scanFrom_append_gap blank, Nat.zero_add]
    cases scanFrom (byteLength gap.toList) second.toList <;> rfl

theorem tokenize_juxtaposed_wide :
    IsGap "\u3000\n".toList ∧
    tokenize "title:é" = .ok [⟨.field "title", 0⟩, ⟨.operator .contains, 5⟩, ⟨.value "é", 6⟩] ∧
    tokenize "title:é\u3000\nNOT" =
      .ok [⟨.field "title", 0⟩, ⟨.operator .contains, 5⟩, ⟨.value "é", 6⟩, ⟨.not, 12⟩] ∧
    tokenize "title:é\u3000\nbeatles" =
      .error (.malformed ⟨.wordWithoutOperator "beatles", "title:é\u3000\nbeatles", 19, ⟨2, 7⟩⟩) ∧
    tokenize "\u3000\nbeatles" =
      .error (.malformed ⟨.wordWithoutOperator "beatles", "\u3000\nbeatles", 11, ⟨2, 7⟩⟩) := by
  have blank : IsGap "\u3000\n".toList := by simp [IsGap, isBlank]
  have title : scanWord 0 ('t' :: "itle:é".toList) =
      .ok ⟨[⟨.field "title", 0⟩, ⟨.operator .contains, 5⟩, ⟨.value "é", 6⟩], 8, []⟩ := rfl
  have first : tokenize "title:é" = .ok [⟨.field "title", 0⟩, ⟨.operator .contains, 5⟩, ⟨.value "é", 6⟩] :=
    tokenize_eq_ok.mpr ((scanFrom_word (by decide) title).trans (congrArg (Except.map _) scanFrom_nil))
  have negation : scanWord 0 ('N' :: "OT".toList) = .ok ⟨[⟨.not, 0⟩], 3, []⟩ := rfl
  have read : tokenize "NOT" = .ok [⟨.not, 0⟩] :=
    tokenize_eq_ok.mpr ((scanFrom_word (by decide) negation).trans (congrArg (Except.map _) scanFrom_nil))
  have word : scanWord 0 ('b' :: "eatles".toList) = .error ⟨.wordWithoutOperator "beatles", 7⟩ := rfl
  have refused : tokenize "beatles" = .error (.malformed ⟨.wordWithoutOperator "beatles", "beatles", 7, ⟨1, 7⟩⟩) :=
    congrArg (Except.mapError _) (scanFrom_refused (by decide) word)
  obtain ⟨joined, -⟩ := tokenize_juxtaposed blank "NOT"
  obtain ⟨behind, alone⟩ := tokenize_juxtaposed blank "beatles"
  obtain ⟨_, same, whole⟩ := (behind "title:é" _ (by decide) first).of_error refused
  obtain ⟨_, same', later⟩ := alone.of_error refused
  cases same
  cases same'
  exact ⟨blank, first, (joined "title:é" _ (by decide) first).of_ok read, whole, later⟩

end Query

end MediaSearch
