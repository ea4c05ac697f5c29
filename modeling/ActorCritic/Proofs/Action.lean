import ActorCritic.Proofs.Attempt
import ActorCritic.World

/-!
How actions run: what a sequence of actions gives in terms of its parts, and properties of the
state that every part keeps. A failed action keeps the changes that it made, so a kept property
is stated for both outcomes, and what an action achieves for its successful runs alone.
-/

namespace ActorCritic
namespace Action

variable {α σ τ β γ : Type}

theorem bind_run (a : Action α σ β) (f : β → Action α σ γ) (s : σ) :
    (a >>= f) s =
      match a s with
      | (.ok x, u) => f x u
      | (.error e, u) => (.error e, u) := rfl

theorem eq_of_fst {a : Action α σ β} {s : σ} {r : Run α β} (h : (a s).1 = r) :
    a s = (r, (a s).2) :=
  Prod.ext h rfl

/-- A run that gives a result ends in its second component. -/
theorem eq_of_toOption {a : Action α σ β} {s : σ} {x : β} (h : (a s).1.toOption = some x) :
    a s = (.ok x, (a s).2) :=
  eq_of_fst (Attempt.eq_ok_of_toOption h)

theorem exists_error_of_isNone {a : Action α σ β} {s : σ}
    (h : (a s).1.toOption.isNone = true) : ∃ e, a s = (.error e, (a s).2) := by
  cases hrun : (a s).1 with
  | ok x =>
      rw [hrun] at h
      cases h
  | error e => exact ⟨e, eq_of_fst hrun⟩

theorem bind_eq_ok {a : Action α σ β} {f : β → Action α σ γ} {s t : σ} {y : γ} :
    (a >>= f) s = (.ok y, t) ↔ ∃ x u, a s = (.ok x, u) ∧ f x u = (.ok y, t) := by
  rw [bind_run]
  cases h : a s with
  | mk r u =>
      cases r with
      | ok x => simp [and_assoc]
      | error e => simp

theorem bind_eq {a : Action α σ β} {f : β → Action α σ γ} {s t : σ} {r : Run α γ} :
    (a >>= f) s = (r, t) ↔
      (∃ e, a s = (.error e, t) ∧ r = .error e) ∨ ∃ x u, a s = (.ok x, u) ∧ f x u = (r, t) := by
  rw [bind_run]
  cases h : a s with
  | mk q u =>
      cases q with
      | ok x => simp [and_assoc]
      | error e =>
          simp only [Prod.mk.injEq, Except.error.injEq, reduceCtorEq, false_and, exists_false,
            or_false]
          constructor
          · rintro ⟨rfl, rfl⟩
            exact ⟨e, ⟨rfl, rfl⟩, rfl⟩
          · rintro ⟨_, ⟨rfl, rfl⟩, rfl⟩
            exact ⟨rfl, rfl⟩

theorem bind_eq_error {a : Action α σ β} {f : β → Action α σ γ} {s t : σ}
    {e : Failure (Error α)} :
    (a >>= f) s = (.error e, t) ↔
      a s = (.error e, t) ∨ ∃ x u, a s = (.ok x, u) ∧ f x u = (.error e, t) := by
  simp [bind_eq]

theorem bind_of_ok {a : Action α σ β} {f : β → Action α σ γ} {s u : σ} {x : β}
    (h : a s = (.ok x, u)) : (a >>= f) s = f x u := by
  rw [bind_run, h]

instance : LawfulMonad (Action α σ) := by
  refine LawfulMonad.mk' _ ?_ ?_ ?_
  · intro β a
    funext s
    change (a >>= pure) s = a s
    rw [bind_run]
    split
    · next x t h =>
        rw [h]
        rfl
    · next e t h => rw [h]
  · intro β γ x f
    rfl
  · intro β γ δ a f g
    funext s
    simp only [bind_run]
    cases h : a s with
    | mk r u => cases r <;> rfl

theorem ite_bind (c : Prop) [Decidable c] (a b : Action α σ β) (f : β → Action α σ γ) :
    (if c then a else b) >>= f = if c then a >>= f else b >>= f :=
  apply_ite (· >>= f) c a b

theorem pure_eq_ok {x y : β} {s t : σ} :
    (pure x : Action α σ β) s = (.ok y, t) ↔ x = y ∧ s = t := by
  change ((.ok x : Run α β), s) = (.ok y, t) ↔ x = y ∧ s = t
  simp

theorem read_bind_eq {f : σ → Action α σ β} {s : σ} {r : Run α β × σ} :
    (read >>= f) s = r ↔ f s s = r := Iff.rfl

theorem lift_eq {r x : Run α β} {s t : σ} :
    (liftM r : Action α σ β) s = (x, t) ↔ r = x ∧ s = t := by
  change (r, s) = (x, t) ↔ r = x ∧ s = t
  simp

theorem lift_abort_eq_ok {r : Except Abort β} {x : β} {s t : σ} :
    (liftM r : Action α σ β) s = (.ok x, t) ↔ r = .ok x ∧ s = t :=
  lift_eq.trans (and_congr_left' Attempt.lift_abort_eq_ok)

theorem lift_abort_eq_error {r : Except Abort β} {e : Failure (Error α)} {s t : σ} :
    (liftM r : Action α σ β) s = (.error e, t) ↔ ∃ a, r = .error a ∧ .abort a = e ∧ s = t := by
  constructor
  · intro h
    obtain ⟨hr, hst⟩ := lift_eq.1 h
    obtain ⟨a, hr, ha⟩ := Attempt.lift_abort_eq_error.1 hr
    exact ⟨a, hr, ha, hst⟩
  · rintro ⟨a, hr, ha, hst⟩
    exact lift_eq.2 ⟨Attempt.lift_abort_eq_error.2 ⟨a, hr, ha⟩, hst⟩

theorem update_eq_ok {f : σ → σ} {s t : σ} {u : Unit} :
    (update f : Action α σ Unit) s = (.ok u, t) ↔ f s = t := by
  change ((.ok () : Run α Unit), f s) = (.ok u, t) ↔ f s = t
  simp

theorem within_eq {get : σ → τ} {set : σ → τ → σ} {a : Action α τ β} {s t : σ} {r : Run α β} :
    within get set a s = (r, t) ↔ ∃ x, a (get s) = (r, x) ∧ set s x = t := by
  change ((a (get s)).1, set s (a (get s)).2) = (r, t) ↔ _
  cases a (get s) with
  | mk q x => simp [and_assoc]

theorem repeated_one (a : Action α σ Unit) : repeated a 1 = a := bind_pure_unit

/-- Repeating on a part of the state is acting on it repeatedly. -/
theorem repeated_within {get : σ → τ} {set : σ → τ → σ} (hget : ∀ s x, get (set s x) = x)
    (hset : ∀ s x y, set (set s x) y = set s y) (hself : ∀ s, set s (get s) = s)
    (a : Action α τ Unit) (n : Nat) :
    repeated (within get set a) n = within get set (repeated a n) := by
  induction n with
  | zero =>
      funext s
      exact Prod.ext rfl (hself s).symm
  | succ n ih =>
      funext s
      rw [repeated, ih, repeated]
      -- Either the first time fails, or the others see what it has left of the part.
      cases hfirst : a (get s) with
      | mk r x =>
          cases r with
          | ok u => simp [bind_run, within, hfirst, hget, hset]
          | error e => simp [bind_run, within, hfirst]

theorem repeated_succ_eq_ok {a : Action α σ Unit} {n : Nat} {s t : σ} :
    repeated a (n + 1) s = (.ok (), t) ↔
      ∃ u, a s = (.ok (), u) ∧ repeated a n u = (.ok (), t) := by
  simp only [repeated, bind_eq_ok]
  constructor
  · rintro ⟨⟨⟩, u, h⟩
    exact ⟨u, h⟩
  · rintro ⟨u, h⟩
    exact ⟨(), u, h⟩

theorem repeated_snoc {a : Action α σ Unit} {n : Nat} {s t u : σ}
    (h : repeated a n s = (.ok (), t)) (ha : a t = (.ok (), u)) :
    repeated a (n + 1) s = (.ok (), u) := by
  induction n generalizing s with
  | zero =>
      obtain ⟨-, rfl⟩ := pure_eq_ok.1 h
      exact repeated_succ_eq_ok.2 ⟨u, ha, rfl⟩
  | succ n ih =>
      obtain ⟨v, hv, h⟩ := repeated_succ_eq_ok.1 h
      exact repeated_succ_eq_ok.2 ⟨v, hv, ih h⟩

/-- What every run of the action carries from one count to the next, all of its runs do. -/
theorem repeated_induction {a : Action α σ Unit} {R : Nat → σ → Prop} {n : Nat}
    (step : ∀ i s t, i < n → R i s → a s = (.ok (), t) → R (i + 1) t) {i k : Nat} {s t : σ}
    (hk : i + k ≤ n) (hs : R i s) (h : repeated a k s = (.ok (), t)) : R (i + k) t := by
  induction k generalizing i s with
  | zero =>
      obtain ⟨-, rfl⟩ := pure_eq_ok.1 h
      exact hs
  | succ k ih =>
      obtain ⟨u, hu, h⟩ := repeated_succ_eq_ok.1 h
      have hrest := ih (i := i + 1) (by omega) (step i s u (by omega) hs hu) h
      rwa [Nat.add_right_comm, Nat.add_assoc] at hrest

/-- A repetition fails in the run after some that succeeded. -/
theorem repeated_eq_error {a : Action α σ Unit} {n : Nat} {s t : σ} {e : Failure (Error α)}
    (h : repeated a n s = (.error e, t)) :
    ∃ i u, i < n ∧ repeated a i s = (.ok (), u) ∧ a u = (.error e, t) := by
  induction n generalizing s with
  | zero => cases h
  | succ n ih =>
      obtain h | ⟨⟨⟩, v, hv, h⟩ := bind_eq_error.1 h
      · exact ⟨0, s, Nat.succ_pos n, rfl, h⟩
      · obtain ⟨i, u, hi, hu, hfail⟩ := ih h
        exact ⟨i + 1, u, Nat.succ_lt_succ hi, repeated_succ_eq_ok.2 ⟨v, hv, hu⟩, hfail⟩

theorem repeated_of_error {a : Action α σ Unit} {i n : Nat} {s t u : σ} {e : Failure (Error α)}
    (hi : i < n) (h : repeated a i s = (.ok (), t)) (ha : a t = (.error e, u)) :
    repeated a n s = (.error e, u) := by
  obtain ⟨n, rfl⟩ := Nat.exists_eq_succ_of_ne_zero (Nat.ne_of_gt (Nat.zero_lt_of_lt hi))
  induction i generalizing n s with
  | zero =>
      obtain ⟨-, rfl⟩ := pure_eq_ok.1 h
      exact bind_eq_error.2 (.inl ha)
  | succ i ih =>
      obtain ⟨v, hv, h⟩ := repeated_succ_eq_ok.1 h
      obtain ⟨n, rfl⟩ := Nat.exists_eq_succ_of_ne_zero (by omega : n ≠ 0)
      exact bind_eq_error.2 (.inr ⟨(), v, hv, ih h n (by omega)⟩)

/-- Whatever its outcome, the action keeps `P`, and it fails only with causes that satisfy `E`. -/
def Respects (P : σ → Prop) (E : Failure (Error α) → Prop) (a : Action α σ β) : Prop :=
  ∀ s, P s → P (a s).2 ∧ ∀ e, (a s).1 = .error e → E e

namespace Respects

variable {P : σ → Prop} {E : Failure (Error α) → Prop}

theorem outcome {a : Action α σ β} (ha : Respects P E a) {s t : σ} {r : Run α β}
    (h : a s = (r, t)) (hs : P s) : P t ∧ ∀ e, r = .error e → E e := by
  have ht := ha s hs
  rwa [h] at ht

theorem keeps {a : Action α σ β} (ha : Respects P E a) {s t : σ} {r : Run α β}
    (h : a s = (r, t)) (hs : P s) : P t :=
  (ha.outcome h hs).1

theorem cause {a : Action α σ β} (ha : Respects P E a) {s t : σ} {e : Failure (Error α)}
    (h : a s = (.error e, t)) (hs : P s) : E e :=
  (ha.outcome h hs).2 e rfl

theorem lift {r : Run α β} (h : ∀ e, r = .error e → E e) :
    Respects P E (liftM r : Action α σ β) :=
  fun _ hs => ⟨hs, h⟩

theorem lift_abort {r : Except Abort β} (h : ∀ a, E (.abort a)) :
    Respects P E (liftM r : Action α σ β) := by
  refine lift ?_
  intro e he
  cases r with
  | ok x => cases he
  | error a =>
      cases he
      exact h a

theorem pure (x : β) : Respects P E (Pure.pure x : Action α σ β) :=
  lift (r := .ok x) fun _ h => nomatch h

theorem update {f : σ → σ} (h : ∀ s, P s → P (f s)) : Respects P E (Action.update f) :=
  fun s hs => ⟨h s hs, fun _ he => by cases he⟩

theorem read_bind {f : σ → Action α σ β} (h : ∀ s, P s → Respects P E (f s)) :
    Respects P E (read >>= f) :=
  fun s hs => h s hs s hs

theorem bind {a : Action α σ β} {f : β → Action α σ γ} (ha : Respects P E a)
    (hf : ∀ x, Respects P E (f x)) : Respects P E (a >>= f) := by
  intro s hs
  rw [bind_run]
  cases h : a s with
  | mk r u =>
      have hu := ha.keeps h hs
      cases r with
      | ok x => exact hf x u hu
      | error e => exact ⟨hu, fun e' he => by cases he; exact ha.cause h hs⟩

/-- What follows a result may use how it came about. -/
theorem lift_bind {r : Run α β} {f : β → Action α σ γ} (h : ∀ e, r = .error e → E e)
    (hf : ∀ x, r = .ok x → Respects P E (f x)) :
    Respects P E ((liftM r : Action α σ β) >>= f) := by
  cases r with
  | ok x => exact hf x rfl
  | error e =>
      refine fun s hs => ⟨hs, fun e' he => ?_⟩
      cases he
      exact h e rfl

theorem lift_abort_bind {r : Except Abort β} {f : β → Action α σ γ} (h : ∀ a, E (.abort a))
    (hf : ∀ x, r = .ok x → Respects P E (f x)) :
    Respects P E ((liftM r : Action α σ β) >>= f) := by
  cases r with
  | ok x => exact hf x rfl
  | error a => exact lift_bind (r := .error (.abort a)) (fun e he => by cases he; exact h a) nofun

theorem repeated {a : Action α σ Unit} (ha : Respects P E a) (n : Nat) :
    Respects P E (Action.repeated a n) := by
  induction n with
  | zero => exact pure ()
  | succ n ih => exact ha.bind fun _ => ih

theorem within {get : σ → τ} {set : σ → τ → σ} {Q : τ → Prop} {a : Action α τ β}
    (ha : Respects Q E a) (hget : ∀ s, P s → Q (get s))
    (hset : ∀ s x, P s → Q x → P (set s x)) : Respects P E (Action.within get set a) := by
  intro s hs
  obtain ⟨hq, he⟩ := ha (get s) (hget s hs)
  exact ⟨hset s _ hs hq, he⟩

end Respects
end Action
end ActorCritic
