import SignOn.Error

/-!
# Results of several steps

A computation of two steps succeeds exactly if both steps do.
-/

namespace SignOn

variable {ε α β : Type}

theorem bind_eq_ok_iff {x : Except ε α} {f : α → Except ε β} {b : β} :
    x >>= f = .ok b ↔ ∃ a, x = .ok a ∧ f a = .ok b := by
  cases x with
  | error e =>
    constructor
    · intro h
      cases h
    · rintro ⟨a, h, -⟩
      cases h
  | ok a =>
    constructor
    · intro h
      exact ⟨a, rfl, h⟩
    · rintro ⟨a', h, h'⟩
      cases h
      exact h'

theorem map_eq_ok_iff {x : Except ε α} {f : α → β} {b : β} :
    x.map f = .ok b ↔ ∃ a, x = .ok a ∧ f a = b := by
  cases x with
  | error e => simp [Except.map]
  | ok a => simp [Except.map]

theorem mapError_eq_ok_iff {ε' : Type} {x : Except ε α} {f : ε → ε'} {a : α} :
    x.mapError f = .ok a ↔ x = .ok a := by
  cases x with
  | error e =>
    constructor
    · intro h
      cases h
    · intro h
      cases h
  | ok b =>
    constructor
    · intro h
      cases h
      rfl
    · intro h
      cases h
      rfl

/-- A check in front of a computation has to be passed. -/
theorem guard_eq_ok_iff {γ : Type} {p : Prop} [Decidable p] {e : ε} {f : γ → Except ε β}
    {x : Except ε β} {b : β} :
    (if p then (.error e : Except ε γ) >>= f else x) = .ok b ↔ ¬ p ∧ x = .ok b := by
  by_cases h : p
  · rw [if_pos h]
    constructor
    · intro h'
      cases h'
    · intro h'
      exact absurd h h'.1
  · rw [if_neg h]
    exact ⟨fun h' => ⟨h, h'⟩, fun h' => h'.2⟩

/-! ## All that is to be said of a result -/

section Outcome

variable {x : Except ε α} {P : Prop} {Q : α → Prop} {R : ε → Prop}

/-- Of a failure nothing is to be shown but that it was due and what it is. -/
theorem outcome_of_error {e : ε} (h : x = .error e) (hNot : ¬ P) (hFails : R e) :
    ((∃ a, x = .ok a) ↔ P) ∧ (∀ a, x = .ok a → Q a) ∧ ∀ e, x = .error e → R e := by
  subst h
  simp [hNot, hFails]

theorem outcome_of_ok {a : α} (h : x = .ok a) (hSucceeds : P) (hGives : Q a) :
    ((∃ a, x = .ok a) ↔ P) ∧ (∀ a, x = .ok a → Q a) ∧ ∀ e, x = .error e → R e := by
  subst h
  simp [hSucceeds, hGives]

end Outcome

end SignOn
