import ActorCritic.Proofs.Action

/-!
Two runs side by side. A run that is not aborted is followed by another if both give results, or
both fail with the same error, and their states stay related. The other run must not abort, but it
may do less on the way; so the judgement is about what the first run is bound to have in common
with a simpler one. Two runs in lockstep do the same, and abort alike as well.
-/

namespace ActorCritic

/-- The run came back, with a result or with an error. -/
def Run.Returns {α β : Type} (r : Run α β) : Prop := ∀ a, r ≠ .error (.abort a)

theorem Run.returns_of_isSome {α β : Type} {r : Run α β} (h : r.toOption.isSome = true) :
    r.Returns := by
  rintro a rfl
  cases h

namespace Action

variable {α σ τ β γ δ ε : Type}

/-- From states that `R` relates, unless the first run aborts, both runs give results that `Q`
relates, in states that `S` relates, or both fail with one error, in states that `F` relates. -/
def Follows (R S F : σ → τ → Prop) (Q : β → γ → Prop) (a : Action α σ β) (b : Action α τ γ) :
    Prop :=
  ∀ s t, R s t → (a s).1.Returns →
    (∃ x u y v, a s = (.ok x, u) ∧ b t = (.ok y, v) ∧ Q x y ∧ S u v) ∨
      ∃ e u v, a s = (.error e, u) ∧ b t = (.error e, v) ∧ F u v

/-- Where both runs end, be it with a result or with an error. -/
theorem Follows.states {R S : σ → τ → Prop} {Q : β → γ → Prop} {a : Action α σ β}
    {b : Action α τ γ} (h : Follows R S S Q a b) {s : σ} {t : τ} (hst : R s t)
    (hreturns : (a s).1.Returns) : S (a s).2 (b t).2 := by
  obtain ⟨x, u, y, v, ha, hb, -, huv⟩ | ⟨e, u, v, ha, hb, huv⟩ := h s t hst hreturns
  · rw [ha, hb]
    exact huv
  · rw [ha, hb]
    exact huv

theorem returns_of_bind {a : Action α σ β} {f : β → Action α σ γ} {s : σ}
    (h : ((a >>= f) s).1.Returns) : (a s).1.Returns := by
  intro cause hcause
  rw [bind_run, show a s = (.error (.abort cause), (a s).2) from Prod.ext hcause rfl] at h
  exact h cause rfl

namespace Follows

variable {R S S' F : σ → τ → Prop} {Q : β → γ → Prop} {Q' : δ → ε → Prop}

theorem bind {a : Action α σ β} {b : Action α τ γ} {f : β → Action α σ δ} {g : γ → Action α τ ε}
    (h : Follows R S F Q a b) (hrest : ∀ x y, Q x y → Follows S S' F Q' (f x) (g y)) :
    Follows R S' F Q' (a >>= f) (b >>= g) := by
  intro s t hst hreturns
  obtain ⟨x, u, y, v, ha, hb, hxy, huv⟩ | ⟨e, u, v, ha, hb, huv⟩ :=
    h s t hst (returns_of_bind hreturns)
  · rw [bind_of_ok ha] at hreturns ⊢
    rw [bind_of_ok hb]
    exact hrest x y hxy u v huv hreturns
  · exact .inr ⟨e, u, v, bind_eq_error.2 (.inl ha), bind_eq_error.2 (.inl hb), huv⟩

/-- A first step that has nothing to be followed by. -/
theorem bind_left {a : Action α σ β} {f : β → Action α σ δ} {b : Action α τ ε}
    (h : Follows R S F (fun _ _ => True) a (Pure.pure () : Action α τ Unit))
    (hrest : ∀ x, Follows S S' F Q' (f x) b) : Follows R S' F Q' (a >>= f) b :=
  bind (g := fun _ => b) h fun x _ _ => hrest x

theorem read_left {f : σ → Action α σ β} {b : Action α τ γ}
    (h : ∀ s t, R s t → Follows R S F Q (f s) b) : Follows R S F Q (read >>= f) b :=
  fun s t hst => h s t hst s t hst

theorem read_right {a : Action α σ β} {g : τ → Action α τ γ}
    (h : ∀ s t, R s t → Follows R S F Q a (g t)) : Follows R S F Q a (read >>= g) :=
  fun s t hst => h s t hst s t hst

theorem pure {x : β} {y : γ} (hxy : Q x y) :
    Follows R R F Q (Pure.pure x : Action α σ β) (Pure.pure y) :=
  fun s t hst _ => .inl ⟨x, s, y, t, rfl, rfl, hxy, hst⟩

theorem read_bind {f : σ → Action α σ β} {g : τ → Action α τ γ}
    (h : ∀ s t, R s t → Follows R S F Q (f s) (g t)) :
    Follows R S F Q (read >>= f) (read >>= g) :=
  fun s t hst => h s t hst s t hst

theorem update {f : σ → σ} {g : τ → τ} (h : ∀ s t, R s t → S (f s) (g t)) :
    Follows R S F (fun _ _ => True) (Action.update f : Action α σ Unit) (Action.update g) :=
  fun s t hst _ => .inl ⟨(), f s, (), g t, rfl, rfl, trivial, h s t hst⟩

theorem update_left {f : σ → σ} (h : ∀ s t, R s t → S (f s) t) :
    Follows R S F (fun _ _ => True) (Action.update f : Action α σ Unit)
      (Pure.pure () : Action α τ Unit) :=
  fun s t hst _ => .inl ⟨(), f s, (), t, rfl, rfl, trivial, h s t hst⟩

/-- The same attempt on both sides. -/
theorem lift {r : Run α β} (h : ∀ s t, R s t → F s t) :
    Follows R R F (fun x y => x = y ∧ r = .ok x) (liftM r : Action α σ β)
      (liftM r : Action α τ β) := by
  intro s t hst _
  cases r with
  | ok x => exact .inl ⟨x, s, x, t, rfl, rfl, ⟨rfl, rfl⟩, hst⟩
  | error e => exact .inr ⟨e, s, t, rfl, rfl, h s t hst⟩

/-- An attempt that can only abort has a result if the run returns. -/
theorem lift_abort {r : Except Abort β} :
    Follows R R F (fun x y => x = y ∧ r = .ok x) (liftM r : Action α σ β)
      (liftM r : Action α τ β) := by
  intro s t hst hreturns
  cases r with
  | ok x => exact .inl ⟨x, s, x, t, rfl, rfl, ⟨rfl, rfl⟩, hst⟩
  | error a => exact absurd rfl (hreturns a)

/-- So has one that fails only by an abort. -/
theorem lift_of_abort {r : Run α β} (h : ∀ e, r = .error e → ∃ a, e = .abort a) :
    Follows R R F (fun x y => x = y ∧ r = .ok x) (liftM r : Action α σ β)
      (liftM r : Action α τ β) := by
  intro s t hst hreturns
  cases r with
  | ok x => exact .inl ⟨x, s, x, t, rfl, rfl, ⟨rfl, rfl⟩, hst⟩
  | error e =>
      obtain ⟨a, rfl⟩ := h e rfl
      exact absurd rfl (hreturns a)

theorem lift_of_abort_left {r : Run α β} (h : ∀ e, r = .error e → ∃ a, e = .abort a) :
    Follows R R F (fun _ _ => True) (liftM r : Action α σ β) (Pure.pure () : Action α τ Unit) := by
  intro s t hst hreturns
  cases r with
  | ok x => exact .inl ⟨x, s, (), t, rfl, rfl, trivial, hst⟩
  | error e =>
      obtain ⟨a, rfl⟩ := h e rfl
      exact absurd rfl (hreturns a)

theorem lift_abort_left {r : Except Abort β} :
    Follows R R F (fun _ _ => True) (liftM r : Action α σ β) (Pure.pure () : Action α τ Unit) := by
  intro s t hst hreturns
  cases r with
  | ok x => exact .inl ⟨x, s, (), t, rfl, rfl, trivial, hst⟩
  | error a => exact absurd rfl (hreturns a)

theorem mono {R' S'' F' : σ → τ → Prop} {Q'' : β → γ → Prop} {a : Action α σ β}
    {b : Action α τ γ} (h : Follows R S F Q a b) (hR : ∀ s t, R' s t → R s t)
    (hS : ∀ s t, S s t → S'' s t) (hF : ∀ s t, F s t → F' s t)
    (hQ : ∀ x y, Q x y → Q'' x y) : Follows R' S'' F' Q'' a b := by
  intro s t hst hreturns
  obtain ⟨x, u, y, v, ha, hb, hxy, huv⟩ | ⟨e, u, v, ha, hb, huv⟩ := h s t (hR s t hst) hreturns
  · exact .inl ⟨x, u, y, v, ha, hb, hQ x y hxy, hS u v huv⟩
  · exact .inr ⟨e, u, v, ha, hb, hF u v huv⟩

theorem within {σ' τ' : Type} {R' S' F' : σ' → τ' → Prop} {get : σ → σ'} {set : σ → σ' → σ}
    {get' : τ → τ'} {set' : τ → τ' → τ} {a : Action α σ' β} {b : Action α τ' γ}
    (h : Follows R' S' F' Q a b) (hget : ∀ s t, R s t → R' (get s) (get' t))
    (hset : ∀ s t x y, R s t → S' x y → S (set s x) (set' t y))
    (hfail : ∀ s t x y, R s t → F' x y → F (set s x) (set' t y)) :
    Follows R S F Q (Action.within get set a) (Action.within get' set' b) := by
  intro s t hst hreturns
  obtain ⟨x, u, y, v, ha, hb, hxy, huv⟩ | ⟨e, u, v, ha, hb, huv⟩ :=
    h (get s) (get' t) (hget s t hst) hreturns
  · exact .inl ⟨x, set s u, y, set' t v, within_eq.2 ⟨u, ha, rfl⟩, within_eq.2 ⟨v, hb, rfl⟩, hxy,
      hset s t u v hst huv⟩
  · exact .inr ⟨e, set s u, set' t v, within_eq.2 ⟨u, ha, rfl⟩, within_eq.2 ⟨v, hb, rfl⟩,
      hfail s t u v hst huv⟩

end Follows

/-- From states that `R` relates, both runs end alike, aborts included, and again in such states. -/
def Lockstep (R : σ → τ → Prop) (a : Action α σ β) (b : Action α τ β) : Prop :=
  ∀ s t, R s t → (a s).1 = (b t).1 ∧ R (a s).2 (b t).2

namespace Lockstep

variable {R : σ → τ → Prop}

theorem pure (x : β) : Lockstep R (Pure.pure x : Action α σ β) (Pure.pure x) :=
  fun _ _ h => ⟨rfl, h⟩

theorem update {f : σ → σ} {g : τ → τ} (h : ∀ s t, R s t → R (f s) (g t)) :
    Lockstep R (Action.update f : Action α σ Unit) (Action.update g) :=
  fun s t hst => ⟨rfl, h s t hst⟩

theorem read_bind {f : σ → Action α σ β} {g : τ → Action α τ β}
    (h : ∀ s t, R s t → Lockstep R (f s) (g t)) : Lockstep R (read >>= f) (read >>= g) :=
  fun s t hst => h s t hst s t hst

theorem bind {a : Action α σ β} {b : Action α τ β} {f : β → Action α σ γ} {g : β → Action α τ γ}
    (h : Lockstep R a b) (hrest : ∀ x, Lockstep R (f x) (g x)) :
    Lockstep R (a >>= f) (b >>= g) := by
  intro s t hst
  obtain ⟨hfirst, hbetween⟩ := h s t hst
  rw [bind_run, bind_run, eq_of_fst hfirst]
  cases hb : b t with
  | mk r v =>
  rw [hb] at hbetween
  cases r with
  | ok x => exact hrest x _ _ hbetween
  | error e => exact ⟨rfl, hbetween⟩

/-- The same attempt on both sides. -/
theorem lift {r : Run α β} : Lockstep R (liftM r : Action α σ β) (liftM r : Action α τ β) :=
  fun _ _ h => ⟨rfl, h⟩

theorem lift_abort {r : Except Abort β} :
    Lockstep R (liftM r : Action α σ β) (liftM r : Action α τ β) :=
  fun _ _ h => ⟨rfl, h⟩

end Lockstep
end Action
end ActorCritic
