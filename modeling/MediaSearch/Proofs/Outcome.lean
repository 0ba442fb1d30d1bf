set_option autoImplicit false

/-!
How a computation that may fail ends. Success and failure are stated together, so that one lemma says all
that there is to know about a function's result.
-/

namespace MediaSearch

variable {ε ε' α β : Type}

inductive Ends (returns : α → Prop) (fails : ε → Prop) : Except ε α → Prop
  | ok {a : α} (returned : returns a) : Ends returns fails (.ok a)
  | error {e : ε} (reported : fails e) : Ends returns fails (.error e)

namespace Ends

variable {returns : α → Prop} {fails : ε → Prop} {result : Except ε α}

theorem of_ok {a : α} (ends : Ends returns fails result) (succeeds : result = .ok a) : returns a := by
  subst succeeds
  cases ends with
  | ok returned => exact returned

theorem of_error {e : ε} (ends : Ends returns fails result) (failed : result = .error e) : fails e := by
  subst failed
  cases ends with
  | error reported => exact reported

theorem mono {returns' : α → Prop} {fails' : ε → Prop} (ends : Ends returns fails result)
    (returned : ∀ a, returns a → returns' a) (reported : ∀ e, fails e → fails' e) :
    Ends returns' fails' result := by
  cases ends with
  | ok right => exact .ok (returned _ right)
  | error known => exact .error (reported _ known)

theorem map {f : α → β} {returns' : β → Prop} {fails' : ε → Prop} (ends : Ends returns fails result)
    (returned : ∀ a, returns a → returns' (f a)) (reported : ∀ e, fails e → fails' e) :
    Ends returns' fails' (result.map f) := by
  cases ends with
  | ok right => exact .ok (returned _ right)
  | error known => exact .error (reported _ known)

theorem mapError {f : ε → ε'} {fails' : ε' → Prop} (ends : Ends returns fails result)
    (reported : ∀ e, fails e → fails' (f e)) : Ends returns fails' (result.mapError f) := by
  cases ends with
  | ok right => exact .ok right
  | error known => exact .error (reported _ known)

theorem bind {next : α → Except ε β} {returns' : β → Prop} {fails' : ε → Prop}
    (ends : Ends returns fails result) (reported : ∀ e, fails e → fails' e)
    (continued : ∀ a, returns a → Ends returns' fails' (next a)) :
    Ends returns' fails' (result >>= next) := by
  cases ends with
  | ok right => exact continued _ right
  | error known => exact .error (reported _ known)

theorem ok_iff_ok {succeeds : Prop} {result' : Except ε α}
    (unique : ∀ a b, returns a → returns b → a = b)
    (first : Ends (fun a => succeeds ∧ returns a) (fun _ => ¬ succeeds) result)
    (second : Ends (fun a => succeeds ∧ returns a) (fun _ => ¬ succeeds) result') {a : α} :
    result = .ok a ↔ result' = .ok a := by
  cases first with
  | ok right =>
    cases second with
    | ok right' => rw [unique _ _ right.2 right'.2]
    | error known => exact absurd right.1 known
  | error known =>
    cases second with
    | ok right' => exact absurd right'.1 known
    | error known' => simp

end Ends

abbrev Returns (returns : α → Prop) (result : Except ε α) : Prop := Ends returns (fun _ => False) result

namespace Returns

variable {returns : α → Prop} {result : Except ε α}

theorem exists_ok (first : Returns returns result) : ∃ a, result = .ok a ∧ returns a := by
  cases first with
  | ok returned => exact ⟨_, rfl, returned⟩
  | error impossible => exact impossible.elim

theorem bind {next : α → Except ε β} {returns' : β → Prop} {fails : ε → Prop}
    (first : Returns returns result) (continued : ∀ a, returns a → Ends returns' fails (next a)) :
    Ends returns' fails (result >>= next) :=
  Ends.bind first (fun _ => False.elim) continued

theorem mapError {f : ε → ε'} (first : Returns returns result) : Returns returns (result.mapError f) :=
  Ends.mapError first fun _ => False.elim

theorem ends {fails : ε → Prop} (first : Returns returns result) : Ends returns fails result :=
  Ends.mono first (fun _ => id) fun _ => False.elim

end Returns

def failure? : Except ε α → Option ε
  | .ok _ => none
  | .error e => some e

theorem failure?_eq_some {result : Except ε α} {e : ε} : failure? result = some e ↔ result = .error e := by
  cases result <;> simp [failure?]

theorem failure?_eq_none {result : Except ε α} : failure? result = none ↔ ∃ a, result = .ok a := by
  cases result <;> simp [failure?]

theorem eq_of_failure?_eq {first second : Except ε α} (failures : failure? first = failure? second)
    (agree : ∀ a b, first = .ok a → second = .ok b → a = b) : first = second := by
  cases first with
  | ok a =>
    obtain ⟨b, same⟩ := failure?_eq_none.mp failures.symm
    rw [same, agree a b rfl same]
  | error e => exact (failure?_eq_some.mp failures.symm).symm

-- The computation fails exactly if there is a failure to report, and reports it.
def Reports (failure : Option ε) (returns : α → Prop) (result : Except ε α) : Prop :=
  Ends (fun a => failure = none ∧ returns a) (fun e => failure = some e) result

namespace Reports

variable {returns : α → Prop} {returns' : β → Prop} {result : Except ε α} {next : α → Except ε β}
  {failure failure' : Option ε}

theorem failure?_eq (reports : Reports failure returns result) : failure? result = failure := by
  cases reports with
  | ok returned => exact returned.1.symm
  | error reported => exact reported.symm

theorem of_ends {fails : ε → Prop} (ends : Ends returns fails result) :
    Reports (failure? result) returns result := by
  cases ends with
  | ok returned => exact .ok ⟨rfl, returned⟩
  | error reported => exact .error rfl

theorem of_returns (first : Returns returns result) : Reports none returns result :=
  Ends.mono first (fun _ returned => ⟨rfl, returned⟩) fun _ => False.elim

-- The second failure is looked for only if there was none before.
theorem bind (first : Reports failure returns result)
    (continued : ∀ a, result = .ok a → returns a → Reports failure' returns' (next a)) :
    Reports (failure.or failure') returns' (result >>= next) := by
  cases first with
  | ok returned =>
    obtain ⟨rfl, right⟩ := returned
    exact continued _ rfl right
  | error reported =>
    subst reported
    exact .error rfl

theorem andThen (first : Reports failure returns result)
    (continued : ∀ a, returns a → Returns returns' (next a)) :
    Reports failure returns' (result >>= next) := by
  rw [← failure.or_none]
  exact first.bind fun a _ right => of_returns (continued a right)

theorem mapError {ε' : Type} (f : ε → ε') (result : Except ε α) :
    Reports ((failure? result).map f) (fun _ => True) (result.mapError f) := by
  cases result with
  | ok a => exact .ok ⟨rfl, trivial⟩
  | error e => exact .error rfl

end Reports

inductive EndAlike (agree : ε → ε' → Prop) : Except ε α → Except ε' α → Prop
  | ok (a : α) : EndAlike agree (.ok a) (.ok a)
  | error {e : ε} {e' : ε'} (agrees : agree e e') : EndAlike agree (.error e) (.error e')

namespace EndAlike

theorem refl {agree : ε → ε → Prop} (same : ∀ e, agree e e) :
    (result : Except ε α) → EndAlike agree result result
  | .ok a => .ok a
  | .error e => .error (same e)

variable {agree : ε → ε' → Prop} {first : Except ε α} {second : Except ε' α}

theorem ok_iff (alike : EndAlike agree first second) (a : α) : first = .ok a ↔ second = .ok a := by
  cases alike with
  | ok b => exact ⟨fun same => by cases same; rfl, fun same => by cases same; rfl⟩
  | error agrees => exact ⟨nofun, nofun⟩

theorem of_error {e : ε} (alike : EndAlike agree first second) (failed : first = .error e) :
    ∃ e', second = .error e' ∧ agree e e' := by
  subst failed
  cases alike with
  | error agrees => exact ⟨_, rfl, agrees⟩

theorem map (f : α → β) (alike : EndAlike agree first second) :
    EndAlike agree (first.map f) (second.map f) := by
  cases alike with
  | ok a => exact .ok (f a)
  | error agrees => exact .error agrees

theorem mapError {δ δ' : Type} {f : ε → δ} {f' : ε' → δ'} {agree' : δ → δ' → Prop}
    (alike : EndAlike agree first second) (agrees : ∀ e e', agree e e' → agree' (f e) (f' e')) :
    EndAlike agree' (first.mapError f) (second.mapError f') := by
  cases alike with
  | ok a => exact .ok a
  | error same => exact .error (agrees _ _ same)

theorem bind {next : α → Except ε β} {next' : α → Except ε' β} (alike : EndAlike agree first second)
    (continued : ∀ a, EndAlike agree (next a) (next' a)) :
    EndAlike agree (first >>= next) (second >>= next') := by
  cases alike with
  | ok a => exact continued a
  | error agrees => exact .error agrees

end EndAlike

end MediaSearch
