import MediaSearch.Proofs.Text.Balanced
import MediaSearch.Sql.Fragment

set_option autoImplicit false

/-!
What the text of a condition means. A text is read by precedence: `OR` binds loosest, then `AND`, then
`NOT` before a group; what is none of these is an atom. Truth has three values.
-/

namespace MediaSearch.Sql

open Text (Balanced finalLevel? levelAfter?)

inductive Truth where
  | yes
  | no
  | unknown
  deriving DecidableEq, Repr

namespace Truth

def and : Truth → Truth → Truth
  | .no, _ => .no
  | _, .no => .no
  | .yes, .yes => .yes
  | _, _ => .unknown

def or : Truth → Truth → Truth
  | .yes, _ => .yes
  | _, .yes => .yes
  | .no, .no => .no
  | _, _ => .unknown

def not : Truth → Truth
  | .yes => .no
  | .no => .yes
  | .unknown => .unknown

def all (values : List Truth) : Truth := values.foldr and .yes

def any (values : List Truth) : Truth := values.foldr or .no

@[simp] theorem all_singleton (value : Truth) : all [value] = value := by cases value <;> rfl

@[simp] theorem any_singleton (value : Truth) : any [value] = value := by cases value <;> rfl

end Truth

def extendFirst (front : List Char) : List (List Char) → List (List Char)
  | [] => [front]
  | piece :: pieces => (front ++ piece) :: pieces

def nextLevel (level : Nat) (c : Char) : Nat := (levelAfter? level c).getD 0

def splitOutside (separator : List Char) (level : Nat) : List Char → List (List Char)
  | [] => [[]]
  | c :: rest =>
    if level = 0 ∧ separator.isPrefixOf (c :: rest) = true then
      [] :: splitOutside separator 0 (rest.drop (separator.length - 1))
    else extendFirst [c] (splitOutside separator (nextLevel level c) rest)
termination_by text => text.length

def closeGroup? (level : Nat) : List Char → Option (List Char × List Char)
  | [] => none
  | c :: rest =>
    if level = 0 ∧ c = ')' then some ([], rest)
    else (closeGroup? (nextLevel level c) rest).map fun (inside, after) => (c :: inside, after)

def group? : List Char → Option (List Char)
  | '(' :: rest =>
    match closeGroup? 0 rest with
    | some (inside, []) => some inside
    | _ => none
  | _ => none

def negated? : List Char → Option (List Char)
  | 'N' :: 'O' :: 'T' :: ' ' :: rest => group? rest
  | _ => none

theorem closeGroup?_length {level : Nat} {text inside after : List Char}
    (closes : closeGroup? level text = some (inside, after)) : inside.length < text.length := by
  induction text generalizing level inside with
  | nil => simp [closeGroup?] at closes
  | cons c rest ih =>
    simp only [closeGroup?] at closes
    split at closes
    · cases closes
      simp
    · obtain ⟨⟨inner, _⟩, found, same⟩ := Option.map_eq_some_iff.mp closes
      cases same
      simpa using ih found

theorem group?_length {text inside : List Char} (found : group? text = some inside) :
    inside.length < text.length := by
  unfold group? at found
  split at found
  · split at found
    · next closes =>
      cases found
      have := closeGroup?_length closes
      simp
      omega
    · cases found
  · cases found

theorem negated?_length {text inside : List Char} (found : negated? text = some inside) :
    inside.length < text.length := by
  unfold negated? at found
  split at found
  · have := group?_length found
    simp
    omega
  · cases found

theorem length_le_of_mem_extendFirst {front piece : List Char} {pieces : List (List Char)} {bound : Nat}
    (each : ∀ piece ∈ pieces, piece.length ≤ bound) (member : piece ∈ extendFirst front pieces) :
    piece.length ≤ front.length + bound := by
  cases pieces with
  | nil => simp_all [extendFirst]
  | cons first rest =>
    rcases List.mem_cons.mp member with rfl | later
    · have := each first (by simp)
      simp
      omega
    · have := each piece (by simp [later])
      omega

theorem length_le_of_mem_splitOutside {separator text piece : List Char} {level : Nat}
    (member : piece ∈ splitOutside separator level text) : piece.length ≤ text.length := by
  fun_induction splitOutside separator level text generalizing piece with
  | case1 => simp_all
  | case2 level c rest _ ih =>
    rcases List.mem_cons.mp member with rfl | later
    · simp
    · have := ih later
      simp at this ⊢
      omega
  | case3 level c rest _ ih =>
    have := length_le_of_mem_extendFirst (fun piece member => ih member) member
    simp at this ⊢
    omega

mutual

-- The pieces come with the proof that they are pieces, which bounds their length.
def conditionValue (atom : String → Truth) (text : List Char) : Truth :=
  Truth.any ((splitOutside " OR ".toList 0 text).attach.map fun ⟨alternative, found⟩ =>
    Truth.all ((splitOutside " AND ".toList 0 alternative).attach.map fun ⟨operand, within⟩ =>
      have := length_le_of_mem_splitOutside found
      have := length_le_of_mem_splitOutside within
      operandValue atom operand))
termination_by 2 * text.length + 1

def operandValue (atom : String → Truth) (text : List Char) : Truth :=
  match negation : negated? text with
  | some inside =>
    have := negated?_length negation
    (conditionValue atom inside).not
  | none =>
    match group : group? text with
    | some inside =>
      have := group?_length group
      conditionValue atom inside
    | none => atom (String.ofList text)
termination_by 2 * text.length

end

theorem conditionValue_eq (atom : String → Truth) (text : List Char) :
    conditionValue atom text =
      Truth.any ((splitOutside Connective.or.separator.toList 0 text).map fun alternative =>
        Truth.all ((splitOutside Connective.and.separator.toList 0 alternative).map
          (operandValue atom))) := by
  rw [conditionValue]
  simp only [List.map_attach_eq_pmap, List.pmap_eq_map, Connective.separator]

theorem operandValue_not {atom : String → Truth} {text inside : List Char}
    (found : negated? text = some inside) :
    operandValue atom text = (conditionValue atom inside).not := by
  rw [operandValue]
  split
  · next same =>
    obtain rfl : _ = inside := by simpa [same] using found
    rfl
  · next none => simp [none] at found

theorem operandValue_group {atom : String → Truth} {text inside : List Char}
    (positive : negated? text = none) (found : group? text = some inside) :
    operandValue atom text = conditionValue atom inside := by
  rw [operandValue]
  split
  · next some => simp [some] at positive
  · split
    · next same =>
      obtain rfl : _ = inside := by simpa [same] using found
      rfl
    · next none => simp [none] at found

section Groups

variable {separator text rest : List Char} {level final : Nat}

theorem nextLevel_eq {next : Nat} {c : Char} (step : levelAfter? level c = some next) :
    nextLevel level c = next := by
  simp [nextLevel, step]

theorem extendFirst_extendFirst (front : List Char) (more : List Char) (pieces : List (List Char)) :
    extendFirst front (extendFirst more pieces) = extendFirst (front ++ more) pieces := by
  cases pieces <;> simp [extendFirst]

theorem extendFirst_nil {pieces : List (List Char)} (nonempty : pieces ≠ []) :
    extendFirst [] pieces = pieces := by
  cases pieces with
  | nil => exact absurd rfl nonempty
  | cons piece pieces => rfl

theorem splitOutside_nil : splitOutside separator level [] = [[]] := by
  rw [splitOutside.eq_def]

theorem splitOutside_keep {c : Char}
    (keeps : ¬ (level = 0 ∧ separator.isPrefixOf (c :: rest) = true)) :
    splitOutside separator level (c :: rest) =
      extendFirst [c] (splitOutside separator (nextLevel level c) rest) := by
  rw [splitOutside.eq_def]
  exact if_neg keeps

theorem splitOutside_cut {c : Char} (cuts : separator.isPrefixOf (c :: rest) = true) :
    splitOutside separator 0 (c :: rest) =
      [] :: splitOutside separator 0 (rest.drop (separator.length - 1)) := by
  rw [splitOutside.eq_def]
  exact if_pos ⟨rfl, cuts⟩

theorem splitOutside_ne_nil : splitOutside separator level text ≠ [] := by
  cases text with
  | nil => simp [splitOutside_nil]
  | cons c rest =>
    by_cases cuts : level = 0 ∧ separator.isPrefixOf (c :: rest) = true
    · obtain ⟨rfl, cuts⟩ := cuts
      simp [splitOutside_cut cuts]
    · rw [splitOutside_keep cuts]
      cases splitOutside separator (nextLevel level c) rest <;> simp [extendFirst]

theorem splitOutside_inside (run : finalLevel? level text = some final) :
    splitOutside separator (level + 1) (text ++ rest) =
      extendFirst text (splitOutside separator (final + 1) rest) := by
  induction text generalizing level with
  | nil =>
    obtain rfl : level = final := by simpa [finalLevel?] using run
    exact (extendFirst_nil splitOutside_ne_nil).symm
  | cons c text ih =>
    obtain ⟨next, step, remaining⟩ := Option.bind_eq_some_iff.mp run
    rw [List.cons_append, splitOutside_keep (by simp), nextLevel_eq (Text.levelAfter?_succ step),
      ih remaining, extendFirst_extendFirst]
    rfl

theorem closeGroup?_append (run : finalLevel? level text = some final) :
    closeGroup? level (text ++ rest) =
      (closeGroup? final rest).map fun (inside, after) => (text ++ inside, after) := by
  induction text generalizing level with
  | nil =>
    obtain rfl : level = final := by simpa [finalLevel?] using run
    simp
  | cons c text ih =>
    obtain ⟨next, step, remaining⟩ := Option.bind_eq_some_iff.mp run
    have stays : ¬ (level = 0 ∧ c = ')') := by
      rintro ⟨rfl, rfl⟩
      simp [levelAfter?] at step
    rw [List.cons_append, closeGroup?, if_neg stays, nextLevel_eq step, ih remaining, Option.map_map]
    rfl

theorem group?_parenthesized (balanced : Balanced text) :
    group? ('(' :: (text ++ [')'])) = some text := by
  simp [group?, closeGroup?_append balanced, closeGroup?]

def enclosed (text : List Char) : List Char := '(' :: (text ++ [')'])

theorem toList_parenthesized (sql : String) : (parenthesized sql).toList = enclosed sql.toList := by
  simp [parenthesized, enclosed]

theorem splitOutside_enclosed (connective : Connective) (balanced : Balanced text) :
    splitOutside connective.separator.toList 0 (enclosed text ++ rest) =
      extendFirst (enclosed text) (splitOutside connective.separator.toList 0 rest) := by
  have opens : ¬ (0 = 0 ∧ connective.separator.toList.isPrefixOf ('(' :: (text ++ ')' :: rest)) = true) := by
    cases connective <;> simp [Connective.separator]
  calc splitOutside connective.separator.toList 0 (enclosed text ++ rest)
      = splitOutside connective.separator.toList 0 ('(' :: (text ++ ')' :: rest)) := by
        simp [enclosed]
    _ = extendFirst ['('] (extendFirst text
          (splitOutside connective.separator.toList 1 (')' :: rest))) := by
        rw [splitOutside_keep opens, nextLevel_eq (show levelAfter? 0 '(' = some 1 from rfl),
          splitOutside_inside balanced]
    _ = extendFirst ['('] (extendFirst text (extendFirst [')']
          (splitOutside connective.separator.toList 0 rest))) := by
        rw [splitOutside_keep (by simp), nextLevel_eq (show levelAfter? 1 ')' = some 0 from rfl)]
    _ = extendFirst (enclosed text) (splitOutside connective.separator.toList 0 rest) := by
        simp [extendFirst_extendFirst, enclosed]

theorem splitOutside_separator (nonempty : separator ≠ []) :
    splitOutside separator 0 (separator ++ rest) = [] :: splitOutside separator 0 rest := by
  cases separator with
  | nil => exact absurd rfl nonempty
  | cons c others =>
    have cuts : (c :: others).isPrefixOf (c :: (others ++ rest)) = true :=
      List.isPrefixOf_iff_prefix.mpr (List.prefix_append (c :: others) rest)
    rw [List.cons_append, splitOutside_cut cuts]
    simp

theorem splitOutside_groups (connective : Connective) {texts : List (List Char)}
    (nonempty : texts ≠ []) (balanced : ∀ text ∈ texts, Balanced text) :
    splitOutside connective.separator.toList 0
      (connective.separator.toList.intercalate (texts.map enclosed)) = texts.map enclosed := by
  induction texts with
  | nil => exact absurd rfl nonempty
  | cons text texts ih =>
    have first := balanced text (by simp)
    cases texts with
    | nil =>
      rw [List.map_singleton, List.intercalate_singleton, ← List.append_nil (enclosed text),
        splitOutside_enclosed connective first, splitOutside_nil]
      rfl
    | cons second texts =>
      have others := ih (by simp) fun later member => balanced later (by simp [member])
      simp only [List.map_cons, List.intercalate_cons_cons, List.append_assoc] at others ⊢
      rw [splitOutside_enclosed connective first,
        splitOutside_separator (by cases connective <;> decide), others]
      simp [extendFirst]

theorem splitOutside_beforeAnd :
    splitOutside Connective.or.separator.toList 0 (Connective.and.separator.toList ++ '(' :: rest) =
      extendFirst Connective.and.separator.toList
        (splitOutside Connective.or.separator.toList 0 ('(' :: rest)) := by
  simp [splitOutside_keep, nextLevel, levelAfter?, extendFirst_extendFirst, Connective.separator]

theorem splitOutside_beforeNot (connective : Connective) :
    splitOutside connective.separator.toList 0 ("NOT ".toList ++ '(' :: rest) =
      extendFirst "NOT ".toList (splitOutside connective.separator.toList 0 ('(' :: rest)) := by
  cases connective <;>
    simp [splitOutside_keep, nextLevel, levelAfter?, extendFirst_extendFirst, Connective.separator]

theorem splitOutside_conjunction {texts : List (List Char)} (nonempty : texts ≠ [])
    (balanced : ∀ text ∈ texts, Balanced text) :
    splitOutside Connective.or.separator.toList 0
        (Connective.and.separator.toList.intercalate (texts.map enclosed)) =
      [Connective.and.separator.toList.intercalate (texts.map enclosed)] := by
  induction texts with
  | nil => exact absurd rfl nonempty
  | cons text texts ih =>
    have first := balanced text (by simp)
    cases texts with
    | nil => simpa using splitOutside_groups .or (by simp) balanced
    | cons second texts =>
      have others := ih (by simp) fun later member => balanced later (by simp [member])
      have opens : ∃ rest, Connective.and.separator.toList.intercalate
          ((second :: texts).map enclosed) = '(' :: rest := by
        simp [enclosed]
      obtain ⟨rest, starts⟩ := opens
      rw [starts] at others
      rw [List.map_cons, List.map_cons, List.intercalate_cons_cons, ← List.map_cons, starts,
        List.append_assoc, splitOutside_enclosed .or first, splitOutside_beforeAnd, others]
      simp [extendFirst]

end Groups

section Values

variable {atom : String → Truth} {text : List Char}

theorem splitOutside_one_group (connective : Connective) (balanced : Balanced text) :
    splitOutside connective.separator.toList 0 (enclosed text) = [enclosed text] := by
  have groups := splitOutside_groups connective (List.cons_ne_nil text [])
    (List.forall_mem_singleton.mpr balanced)
  simpa using groups

theorem operandValue_enclosed (balanced : Balanced text) :
    operandValue atom (enclosed text) = conditionValue atom text :=
  operandValue_group rfl (group?_parenthesized balanced)

theorem conditionValue_enclosed (balanced : Balanced text) :
    conditionValue atom (enclosed text) = conditionValue atom text := by
  rw [conditionValue_eq, splitOutside_one_group .or balanced, List.map_singleton,
    Truth.any_singleton, splitOutside_one_group .and balanced, List.map_singleton,
    Truth.all_singleton, operandValue_enclosed balanced]

theorem conditionValue_not (balanced : Balanced text) :
    conditionValue atom ("NOT ".toList ++ enclosed text) = (conditionValue atom text).not := by
  have whole (connective : Connective) :
      splitOutside connective.separator.toList 0 ("NOT ".toList ++ enclosed text) =
        ["NOT ".toList ++ enclosed text] := by
    have group := splitOutside_one_group connective balanced
    rw [enclosed] at group ⊢
    rw [splitOutside_beforeNot, group]
    rfl
  rw [conditionValue_eq, whole, List.map_singleton, Truth.any_singleton, whole, List.map_singleton,
    Truth.all_singleton]
  exact operandValue_not (group?_parenthesized balanced)

def joinTruth : Connective → List Truth → Truth
  | .and => Truth.all
  | .or => Truth.any

theorem conditionValue_groups (connective : Connective) {texts : List (List Char)}
    (nonempty : texts ≠ []) (balanced : ∀ text ∈ texts, Balanced text) :
    conditionValue atom (connective.separator.toList.intercalate (texts.map enclosed)) =
      joinTruth connective (texts.map (conditionValue atom)) := by
  cases connective with
  | and =>
    rw [conditionValue_eq, splitOutside_conjunction nonempty balanced, List.map_singleton,
      Truth.any_singleton, splitOutside_groups .and nonempty balanced, List.map_map]
    refine congrArg Truth.all (List.map_congr_left fun text member => ?_)
    exact operandValue_enclosed (balanced text member)
  | or =>
    rw [conditionValue_eq, splitOutside_groups .or nonempty balanced, List.map_map]
    refine congrArg Truth.any (List.map_congr_left fun text member => ?_)
    rw [Function.comp_apply, splitOutside_one_group .and (balanced text member),
      List.map_singleton, Truth.all_singleton, operandValue_enclosed (balanced text member)]

theorem balanced_groups (connective : Connective) {texts : List (List Char)}
    (balanced : ∀ text ∈ texts, Balanced text) :
    Balanced (connective.separator.toList.intercalate (texts.map enclosed)) := by
  have separator : Balanced connective.separator.toList := by cases connective <;> decide
  induction texts with
  | nil => rfl
  | cons text texts ih =>
    have first : Balanced (enclosed text) := (balanced text (by simp)).parenthesized
    have others := ih fun later member => balanced later (by simp [member])
    cases texts with
    | nil => simpa using first
    | cons second texts =>
      rw [List.map_cons, List.map_cons, List.intercalate_cons_cons]
      exact (first.append separator).append others

end Values

end MediaSearch.Sql
