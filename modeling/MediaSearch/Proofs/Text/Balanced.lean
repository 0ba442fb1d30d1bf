set_option autoImplicit false

namespace MediaSearch.Text

def levelAfter? (level : Nat) (c : Char) : Option Nat :=
  if c = '(' then some (level + 1)
  else if c = ')' then if level = 0 then none else some (level - 1)
  else some level

def finalLevel? (level : Nat) : List Char → Option Nat
  | [] => some level
  | c :: rest => (levelAfter? level c).bind (finalLevel? · rest)

def Balanced (text : List Char) : Prop := finalLevel? 0 text = some 0

instance (text : List Char) : Decidable (Balanced text) :=
  inferInstanceAs (Decidable (finalLevel? 0 text = some 0))

theorem levelAfter?_of_plain {c : Char} (opens : c ≠ '(') (closes : c ≠ ')') (level : Nat) :
    levelAfter? level c = some level := by
  simp [levelAfter?, opens, closes]

theorem levelAfter?_succ {level next : Nat} {c : Char} (step : levelAfter? level c = some next) :
    levelAfter? (level + 1) c = some (next + 1) := by
  by_cases opens : c = '('
  · simp_all [levelAfter?]
  · by_cases closes : c = ')'
    · subst closes
      cases level with
      | zero => simp [levelAfter?] at step
      | succ level => simp_all [levelAfter?]
    · simp_all [levelAfter?]

theorem finalLevel?_append (level : Nat) (text rest : List Char) :
    finalLevel? level (text ++ rest) = (finalLevel? level text).bind (finalLevel? · rest) := by
  induction text generalizing level with
  | nil => rfl
  | cons c text ih =>
    cases step : levelAfter? level c with
    | none => simp [finalLevel?, step]
    | some next => simp [finalLevel?, step, ih]

theorem finalLevel?_succ {level final : Nat} {text : List Char}
    (run : finalLevel? level text = some final) : finalLevel? (level + 1) text = some (final + 1) := by
  induction text generalizing level with
  | nil => simpa [finalLevel?] using run
  | cons c text ih =>
    obtain ⟨next, step, rest⟩ := Option.bind_eq_some_iff.mp run
    simp [finalLevel?, levelAfter?_succ step, ih rest]

theorem finalLevel?_of_plain {text : List Char} (plain : ∀ c ∈ text, c ≠ '(' ∧ c ≠ ')') (level : Nat) :
    finalLevel? level text = some level := by
  induction text generalizing level with
  | nil => rfl
  | cons c text ih =>
    have first := plain c (by simp)
    simp [finalLevel?, levelAfter?_of_plain first.1 first.2,
      ih fun later member => plain later (by simp [member])]

theorem Balanced.append {text rest : List Char} (balanced : Balanced text)
    (balancedRest : Balanced rest) : Balanced (text ++ rest) := by
  rw [Balanced, finalLevel?_append, balanced]
  exact balancedRest

theorem Balanced.parenthesized {text : List Char} (balanced : Balanced text) :
    Balanced ('(' :: (text ++ [')'])) := by
  have inside : finalLevel? 1 text = some 1 := finalLevel?_succ balanced
  simp [Balanced, finalLevel?, levelAfter?, finalLevel?_append, inside]

-- No beginning of the text closes more than it opens, and all that is opened is closed.
structure Matched (text : List Char) : Prop where
  beginning : ∀ before, before <+: text → before.count ')' ≤ before.count '('
  whole : text.count ')' = text.count '('

theorem forall_isPrefix_cons {c : Char} {text : List Char} {bound : List Char → Prop} :
    (∀ before, before <+: c :: text → bound before) ↔
      bound [] ∧ ∀ before, before <+: text → bound (c :: before) := by
  constructor
  · intro each
    exact ⟨each [] List.nil_prefix, fun before starts => each _ (List.cons_prefix_cons.mpr ⟨rfl, starts⟩)⟩
  · rintro ⟨none, some⟩ before starts
    rcases List.prefix_cons_iff.mp starts with rfl | ⟨rest, rfl, within⟩
    · exact none
    · exact some rest within

theorem finalLevel?_eq_some_iff {level final : Nat} {text : List Char} :
    finalLevel? level text = some final ↔
      (∀ before, before <+: text → before.count ')' ≤ level + before.count '(') ∧
        text.count ')' + final = level + text.count '(' := by
  induction text generalizing level with
  | nil => simp [finalLevel?, eq_comm]
  | cons c text ih =>
    rw [forall_isPrefix_cons]
    by_cases opens : c = '('
    · subst opens
      have deeper (count : Nat) : level + 1 + count = level + (count + 1) := by omega
      have step : finalLevel? level ('(' :: text) = finalLevel? (level + 1) text := by
        simp [finalLevel?, levelAfter?]
      simp [step, ih, deeper]
    · by_cases closes : c = ')'
      · subst closes
        cases level with
        | zero =>
          have refused : finalLevel? 0 (')' :: text) = none := by simp [finalLevel?, levelAfter?]
          constructor
          · simp [refused]
          · rintro ⟨⟨-, beginning⟩, -⟩
            simpa using beginning [] List.nil_prefix
        | succ level =>
          have step : finalLevel? (level + 1) (')' :: text) = finalLevel? level text := by
            simp [finalLevel?, levelAfter?]
          have inside (closed opened : Nat) : closed + 1 ≤ level + 1 + opened ↔ closed ≤ level + opened := by omega
          have total : text.count ')' + 1 + final = level + 1 + text.count '(' ↔
              text.count ')' + final = level + text.count '(' := by omega
          simp [step, ih, inside, total]
      · have step : finalLevel? level (c :: text) = finalLevel? level text := by
          simp [finalLevel?, levelAfter?_of_plain opens closes]
        simp [step, ih, List.count_cons_of_ne opens, List.count_cons_of_ne closes]

theorem balanced_iff {text : List Char} : Balanced text ↔ Matched text := by
  rw [Balanced, finalLevel?_eq_some_iff]
  simp only [Nat.zero_add, Nat.add_zero]
  exact ⟨fun ⟨beginning, whole⟩ => ⟨beginning, whole⟩, fun matched => ⟨matched.beginning, matched.whole⟩⟩

end MediaSearch.Text
