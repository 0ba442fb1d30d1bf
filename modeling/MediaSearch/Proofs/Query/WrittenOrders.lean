import MediaSearch.Proofs.Query.Padding

set_option autoImplicit false

namespace MediaSearch

namespace Text

variable {c : Char} {text : List Char}

def isNameChar (c : Char) : Bool := c.isLower || c.isDigit || c == '_'

theorem isWordChar_eq (c : Char) : isWordChar c = (c.isUpper || isNameChar c) := by
  have classes : isWordChar c = (((c.isUpper || c.isLower) || c.isDigit) || c == '_') := rfl
  rw [classes, isNameChar, Bool.or_assoc, Bool.or_assoc, Bool.or_assoc]

theorem isUpper_iff : c.isUpper = true ↔ 65 ≤ c.toNat ∧ c.toNat ≤ 90 := by
  delta Char.isUpper
  rw [decide_eq_true_eq, ge_iff_le, UInt32.le_iff_toNat_le, UInt32.le_iff_toNat_le]
  rfl

theorem isNameChar_iff : isNameChar c = true ↔
    ((97 ≤ c.toNat ∧ c.toNat ≤ 122) ∨ (48 ≤ c.toNat ∧ c.toNat ≤ 57)) ∨ c = '_' := by
  delta isNameChar Char.isLower Char.isDigit
  simp only [Bool.or_eq_true, Bool.and_eq_true, decide_eq_true_eq, beq_iff_eq, UInt32.le_iff_toNat_le,
    ge_iff_le]
  rfl

theorem asciiLower_of_isUpper (upper : c.isUpper = true) : (asciiLower c).toNat = c.toNat + 32 := by
  obtain ⟨low, high⟩ := isUpper_iff.mp upper
  unfold asciiLower Char.toLower
  split
  · have sum : (c.val + ('a'.val - 'A'.val)).toNat = (c.toNat + 32) % 4294967296 := rfl
    have small : (c.toNat + 32) % 4294967296 = c.toNat + 32 := by omega
    exact sum.trans small
  · next outside => exact absurd ⟨low, high⟩ outside

theorem asciiLower_of_not_isUpper (other : c.isUpper = false) : asciiLower c = c := by
  unfold asciiLower Char.toLower
  rw [dif_neg]
  intro range
  have upper : c.isUpper = true := isUpper_iff.mpr range
  simp [upper] at other

theorem isNameChar_asciiLower (word : isWordChar c = true) : isNameChar (asciiLower c) = true := by
  cases upper : c.isUpper with
  | true =>
    have range := isUpper_iff.mp upper
    rw [isNameChar_iff, asciiLower_of_isUpper upper]
    omega
  | false =>
    rw [asciiLower_of_not_isUpper upper]
    simpa [isWordChar_eq, upper] using word

theorem isUpper_eq_false_of_isNameChar (name : isNameChar c = true) : c.isUpper = false := by
  rw [Bool.eq_false_iff, ne_eq, isUpper_iff]
  rcases isNameChar_iff.mp name with ranges | rfl
  · omega
  · decide

structure IsName (text : List Char) : Prop where
  nonempty : text ≠ []
  plain : ∀ c ∈ text, isNameChar c = true

theorem isName_lower {word : List Char} (nonempty : word ≠ []) (each : ∀ c ∈ word, isWordChar c = true) :
    IsName (word.map asciiLower) := by
  refine ⟨by simpa using nonempty, fun c member => ?_⟩
  obtain ⟨written, present, rfl⟩ := List.mem_map.mp member
  exact isNameChar_asciiLower (each written present)

theorem IsName.word (name : IsName text) : ∀ c ∈ text, isWordChar c = true := by
  intro c member
  rw [isWordChar_eq, name.plain c member, Bool.or_true]

theorem IsName.visible (name : IsName text) : ∀ c ∈ text, isBlank c = false :=
  fun c member => Query.isBlank_eq_false_of_isWordChar (name.word c member)

theorem IsName.map_asciiLower (name : IsName text) : text.map asciiLower = text := by
  have kept : text.map asciiLower = text.map id :=
    List.map_congr_left fun c member =>
      asciiLower_of_not_isUpper (isUpper_eq_false_of_isNameChar (name.plain c member))
  rw [kept, List.map_id]

theorem IsName.not_mem (name : IsName text) (other : isWordChar c = false) : c ∉ text := by
  intro member
  simp [name.word c member] at other

theorem trimStart_of_visible (visible : ∀ c ∈ text, isBlank c = false) : trimStart text = text := by
  cases text with
  | nil => rfl
  | cons c rest => simp [trimStart, visible c (by simp)]

theorem trim_of_visible (visible : ∀ c ∈ text, isBlank c = false) : trim text = text := by
  have backwards : trimStart text.reverse = text.reverse :=
    trimStart_of_visible fun c member => visible c (List.mem_reverse.mp member)
  rw [trim, trimStart_of_visible visible]
  calc trimEnd text
      = (trimStart text.reverse).reverse := rfl
    _ = text := by rw [backwards, List.reverse_reverse]

-- White space behind the separators belongs to the pieces.
theorem intercalate_cons (separator : Char) (gap piece : List Char) (pieces : List (List Char)) :
    (separator :: gap).intercalate (piece :: pieces) =
      [separator].intercalate (piece :: pieces.map (gap ++ ·)) := by
  induction pieces generalizing piece with
  | nil => simp
  | cons next others ih =>
    rw [List.intercalate_cons_cons, ih, List.map_cons, List.intercalate_cons_cons]
    cases others with
    | nil => simp
    | cons later others => simp [List.intercalate_cons_cons]

theorem splitAt_intercalate_gap {separator : Char} {gap piece : List Char} {pieces : List (List Char)}
    (gapApart : separator ∉ gap) (apart : ∀ listed ∈ piece :: pieces, separator ∉ listed) :
    splitAt separator ((separator :: gap).intercalate (piece :: pieces)) =
      piece :: pieces.map (gap ++ ·) := by
  obtain ⟨first, others⟩ := List.forall_mem_cons.mp apart
  have spaced : ∀ listed ∈ piece :: pieces.map (gap ++ ·), separator ∉ listed := by
    refine List.forall_mem_cons.mpr ⟨first, fun listed member => ?_⟩
    obtain ⟨later, present, rfl⟩ := List.mem_map.mp member
    rw [List.mem_append, not_or]
    exact ⟨gapApart, others later present⟩
  rw [intercalate_cons]
  exact splitAt_intercalate spaced (List.cons_ne_nil _ _)

end Text

namespace Query

open Text (IsName byteLength isBlank isWordChar splitAt trim trimStart)

namespace OrderKey

variable {key : OrderKey} {keys : List OrderKey} {offset : Nat}

def IsNamed (key : OrderKey) : Prop := IsName key.field.toList

theorem ofWord?_named (direction : Direction) (offset : Nat) (word : List Char) :
    Ends (fun found => ∀ key ∈ found, key.IsNamed) (fun _ => True) (ofWord? direction offset word) := by
  unfold ofWord?
  split
  · exact .error trivial
  · next all =>
    split
    · exact .ok (by simp)
    · next some =>
      refine .ok fun key same => ?_
      cases same
      have nonempty : word ≠ [] := by simpa using some
      have each : ∀ c ∈ word, isWordChar c = true := List.dropWhile_eq_nil_iff.mp all
      simpa [IsNamed] using Text.isName_lower nonempty each

theorem ofPiece?_named (offset : Nat) (piece : List Char) :
    Ends (fun found => ∀ key ∈ found, key.IsNamed) (fun _ => True) (ofPiece? offset piece) := by
  simp only [ofPiece?]
  split
  · exact ofWord?_named _ _ _
  · exact ofWord?_named _ _ _

theorem ofPieces_named (offset : Nat) (pieces : List (List Char)) :
    Ends (fun keys => ∀ key ∈ keys, key.IsNamed) (fun _ => True) (ofPieces offset pieces) := by
  induction pieces generalizing offset with
  | nil => exact .ok (by simp)
  | cons piece pieces ih =>
    rw [ofPieces]
    split
    · exact .error trivial
    · next found read =>
      have first := (ofPiece?_named offset piece).of_ok read
      refine (ih _).map (fun keys others => ?_) fun _ => id
      refine List.forall_mem_append.mpr ⟨?_, others⟩
      simpa using first

theorem ofWord?_name {word : List Char} (name : IsName word) (direction : Direction) (offset : Nat) :
    ofWord? direction offset word = .ok (some ⟨String.ofList word, direction⟩) := by
  have all : word.dropWhile isWordChar = [] := List.dropWhile_eq_nil_iff.mpr name.word
  have some : word.isEmpty = false := by simpa using name.nonempty
  simp only [ofWord?, all, some, name.map_asciiLower]
  rfl

theorem render_ascending (field : String) : (⟨field, .ascending⟩ : OrderKey).render = field :=
  rfl

theorem toList_render_descending (field : String) :
    (⟨field, .descending⟩ : OrderKey).render.toList = '-' :: field.toList := by
  simp [render]

theorem IsNamed.visible (named : key.IsNamed) : ∀ c ∈ key.render.toList, isBlank c = false := by
  have name := Text.IsName.visible named
  obtain ⟨field, direction⟩ := key
  cases direction with
  | ascending => exact name
  | descending =>
    rw [toList_render_descending]
    exact List.forall_mem_cons.mpr ⟨rfl, name⟩

theorem IsNamed.no_comma (named : key.IsNamed) : ',' ∉ key.render.toList := by
  have name : ',' ∉ key.field.toList := Text.IsName.not_mem named rfl
  obtain ⟨field, direction⟩ := key
  cases direction with
  | ascending => exact name
  | descending =>
    rw [toList_render_descending]
    exact List.not_mem_cons_of_ne_of_not_mem (by decide) name

theorem ofPiece?_render (named : key.IsNamed) (offset : Nat) :
    ofPiece? offset key.render.toList = .ok (some key) := by
  have trimmed := Text.trim_of_visible named.visible
  obtain ⟨field, direction⟩ := key
  have name : IsName field.toList := named
  simp only [ofPiece?, trimmed]
  cases direction with
  | ascending =>
    have noMinus : '-' ∉ field.toList := name.not_mem rfl
    rw [render_ascending]
    split
    · next rest minus => simp [minus] at noMinus
    · rw [ofWord?_name name, String.ofList_toList]
  | descending =>
    simp only [toList_render_descending]
    rw [Text.trimStart_of_visible name.visible, ofWord?_name name, String.ofList_toList]

theorem ofPieces_render (named : ∀ key ∈ keys, key.IsNamed) (offset : Nat) :
    ofPieces offset (keys.map fun key => key.render.toList) = .ok keys := by
  induction keys generalizing offset with
  | nil => rfl
  | cons key keys ih =>
    obtain ⟨first, others⟩ := List.forall_mem_cons.mp named
    rw [List.map_cons, ofPieces, ofPiece?_render first]
    simp only [ih others]
    rfl

end OrderKey

variable {input : String} {keys : List OrderKey}

theorem parseOrder_named (read : parseOrder input = .ok keys) : ∀ key ∈ keys, key.IsNamed := by
  have ends : Ends (fun keys => ∀ key ∈ keys, OrderKey.IsNamed key) (fun _ => True) (parseOrder input) :=
    (OrderKey.ofPieces_named 0 _).mapError fun _ => id
  exact ends.of_ok read

theorem parseOrder_joined {gap : List Char} (blank : IsGap gap) (named : ∀ key ∈ keys, key.IsNamed) :
    parseOrder ((String.ofList (',' :: gap)).intercalate (keys.map OrderKey.render)) = .ok keys := by
  cases keys with
  | nil => rfl
  | cons key keys =>
    let written := (key :: keys).map fun key => key.render.toList
    let spaced := key.render.toList :: (keys.map fun key => key.render.toList).map (gap ++ ·)
    have gapApart : ',' ∉ gap := fun member => absurd (blank ',' member) (by decide)
    have apart : ∀ piece ∈ written, ',' ∉ piece := by
      intro piece member
      obtain ⟨listed, present, rfl⟩ := List.mem_map.mp member
      exact (named listed present).no_comma
    have pieces : splitAt ',' ((',' :: gap).intercalate written) = spaced :=
      Text.splitAt_intercalate_gap gapApart apart
    have trims : written.map trim = spaced.map trim := by
      have leading (piece : List Char) : trim (gap ++ piece) = trim piece := by
        rw [trim, blank.trimStart_append, trim]
      simp [written, spaced, leading]
    have read : OrderKey.ofPieces 0 spaced = .ok (key :: keys) :=
      ((OrderKey.ofPieces_alike 0 0 trims).ok_iff _).mp (OrderKey.ofPieces_render named 0)
    have whole : ((String.ofList (',' :: gap)).intercalate ((key :: keys).map OrderKey.render)).toList =
        (',' :: gap).intercalate written := by
      rw [String.toList_intercalate, String.toList_ofList, List.map_map]
      rfl
    rw [parseOrder, whole, pieces, read]
    rfl

theorem parseOrder_round_trip :
    (∀ keys : List OrderKey, (∀ key ∈ keys, key.IsNamed) →
      parseOrder (", ".intercalate (keys.map OrderKey.render)) = .ok keys ∧
        parseOrder (",".intercalate (keys.map OrderKey.render)) = .ok keys) ∧
      ∀ input keys, parseOrder input = .ok keys →
        (∀ key ∈ keys, key.IsNamed) ∧
          parseOrder (", ".intercalate (keys.map OrderKey.render)) = .ok keys ∧
          parseOrder (",".intercalate (keys.map OrderKey.render)) = .ok keys := by
  have space : IsGap [' '] := List.forall_mem_singleton.mpr rfl
  have nothing : IsGap [] := List.forall_mem_nil _
  have joined (keys : List OrderKey) (named : ∀ key ∈ keys, key.IsNamed) :
      parseOrder (", ".intercalate (keys.map OrderKey.render)) = .ok keys ∧
        parseOrder (",".intercalate (keys.map OrderKey.render)) = .ok keys :=
    ⟨parseOrder_joined space named, parseOrder_joined nothing named⟩
  refine ⟨joined, fun input keys read => ?_⟩
  have named := parseOrder_named read
  exact ⟨named, joined keys named⟩

theorem parseOrder_round_trip_spaced :
    ((∀ key ∈ [(⟨"x_2", .descending⟩ : OrderKey), ⟨"0", .ascending⟩], key.IsNamed) ∧
      parseOrder "-x_2, 0" = .ok [⟨"x_2", .descending⟩, ⟨"0", .ascending⟩] ∧
      parseOrder "-x_2,0" = .ok [⟨"x_2", .descending⟩, ⟨"0", .ascending⟩]) ∧
    parseOrder "\u3000-\tRanking ,,-, ALBUM " = .ok [⟨"ranking", .descending⟩, ⟨"album", .ascending⟩] ∧
      (∀ key ∈ [(⟨"ranking", .descending⟩ : OrderKey), ⟨"album", .ascending⟩], key.IsNamed) ∧
      parseOrder "-ranking, album" = .ok [⟨"ranking", .descending⟩, ⟨"album", .ascending⟩] ∧
      parseOrder "-ranking,album" = .ok [⟨"ranking", .descending⟩, ⟨"album", .ascending⟩] := by
  have named : ∀ key ∈ [(⟨"x_2", .descending⟩ : OrderKey), ⟨"0", .ascending⟩], key.IsNamed := by
    simp only [List.forall_mem_cons, List.not_mem_nil, false_imp_iff, implies_true, and_true]
    exact ⟨⟨by decide, forall_chars (by decide)⟩, ⟨by decide, forall_chars (by decide)⟩⟩
  have read : parseOrder "\u3000-\tRanking ,,-, ALBUM " =
      .ok [⟨"ranking", .descending⟩, ⟨"album", .ascending⟩] := rfl
  exact ⟨⟨named, parseOrder_round_trip.1 _ named⟩, read, parseOrder_round_trip.2 _ _ read⟩

end Query

end MediaSearch
