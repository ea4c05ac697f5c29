import ActorCritic.Error

/-!
When a sequence of attempts succeeds: every step succeeds in turn, and no guard fails.
-/

namespace ActorCritic
namespace Attempt

variable {ε ε' β γ : Type}

theorem eq_ok_of_toOption {x : Except ε β} {y : β} (h : x.toOption = some y) : x = .ok y := by
  cases x with
  | ok a =>
      cases h
      rfl
  | error e => cases h

theorem exists_ok_of_isSome {x : Except ε β} (h : x.toOption.isSome = true) : ∃ y, x = .ok y := by
  obtain ⟨y, hy⟩ := Option.isSome_iff_exists.1 h
  exact ⟨y, eq_ok_of_toOption hy⟩

@[simp] theorem ok_bind (x : β) (f : β → Except ε γ) : (.ok x : Except ε β) >>= f = f x := rfl

@[simp] theorem error_bind (e : ε) (f : β → Except ε γ) :
    (.error e : Except ε β) >>= f = .error e := rfl

theorem bind_eq_ok {x : Except ε β} {f : β → Except ε γ} {y : γ} :
    x >>= f = .ok y ↔ ∃ a, x = .ok a ∧ f a = .ok y := by
  cases x with
  | ok a => simp [bind, Except.bind]
  | error e => simp [bind, Except.bind]

theorem bind_eq_error {x : Except ε β} {f : β → Except ε γ} {e : ε} :
    x >>= f = .error e ↔ x = .error e ∨ ∃ a, x = .ok a ∧ f a = .error e := by
  cases x with
  | ok a => simp [bind, Except.bind]
  | error e => simp [bind, Except.bind]

/-- Sequences with one start are equal if they go on alike from what it gives. -/
theorem bind_congr {x : Except ε β} {f g : β → Except ε γ} (h : ∀ a, x = .ok a → f a = g a) :
    x >>= f = x >>= g := by
  cases x with
  | ok a => exact h a rfl
  | error e => rfl

/-- A guard that fails where `c` holds, in front of the rest `y` of a sequence. -/
theorem guard_eq_ok {c : Prop} [Decidable c] {e : ε} {f : Unit → Attempt ε β}
    {y : Attempt ε β} {b : β} :
    (if c then fail e >>= f else y) = .ok b ↔ ¬c ∧ y = .ok b := by
  by_cases h : c
  · simp [h, fail, bind, Except.bind]
  · simp [h]

theorem pure_eq_ok {x y : β} : (pure x : Except ε β) = .ok y ↔ x = y := by
  simp [pure, Except.pure]

theorem map_eq_error {x : Except ε β} {f : β → γ} {e : ε} :
    x.map f = .error e ↔ x = .error e := by
  cases x <;> simp [Except.map]

theorem mapError_eq_ok {x : Except ε β} {f : ε → ε'} {y : β} :
    x.mapError f = .ok y ↔ x = .ok y := by
  constructor
  · intro h
    cases x with
    | ok a => exact congrArg Except.ok (Except.ok.inj h)
    | error e => cases h
  · rintro rfl
    rfl

theorem mapError_eq_error {x : Except ε β} {f : ε → ε'} {e : ε'} :
    x.mapError f = .error e ↔ ∃ cause, x = .error cause ∧ f cause = e := by
  constructor
  · intro h
    cases x with
    | ok a => cases h
    | error cause => exact ⟨cause, rfl, Except.error.inj h⟩
  · rintro ⟨cause, rfl, rfl⟩
    rfl

theorem lift_abort_eq_ok {α : Type} {x : Except Abort β} {y : β} :
    (liftM x : Run α β) = .ok y ↔ x = .ok y := by
  cases x with
  | ok a => exact ⟨fun h => congrArg Except.ok (Except.ok.inj h), fun h => by rw [h]; rfl⟩
  | error a => exact ⟨nofun, nofun⟩

theorem lift_abort_eq_error {α : Type} {x : Except Abort β} {e : Failure (Error α)} :
    (liftM x : Run α β) = .error e ↔ ∃ a, x = .error a ∧ .abort a = e := by
  cases x with
  | ok a => exact ⟨nofun, nofun⟩
  | error a =>
      constructor
      · rintro ⟨⟩
        exact ⟨a, rfl, rfl⟩
      · rintro ⟨_, ⟨⟩, rfl⟩
        rfl

end Attempt
end ActorCritic
