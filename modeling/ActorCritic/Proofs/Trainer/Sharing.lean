import ActorCritic.Proofs.Snapshot
import ActorCritic.Proofs.Trainer.Lawful
import ActorCritic.Proofs.Trainer.Unscheduled
import ActorCritic.Trainer.Sharing

/-!
What a copy of layers between trainers achieves. Where it succeeds, both trainers have the layers
of the range in common; however it ends, every other layer of the target, and its step, are as
before, even if only some of the snapshots were installed.
-/

namespace ActorCritic

variable {α σ : Type}

/-- The weights and the state of both trainers have the layers `first`, …, `last - 1` in common. -/
structure Reading.SharesLayers (first last : Nat) (a b : Reading α) : Prop where
  weights : ∃ u v, a.weights = .ok u ∧ b.weights = .ok v ∧ u.SameWithin first last v
  state : a.state.SameWithin first last b.state

/-- Weights, state and slots differ in no layer but `first`, …, `last - 1`, and the step is the
same. -/
structure Reading.SameOutside (first last : Nat) (a b : Reading α) : Prop where
  step : a.step = b.step
  weights : a.weights = b.weights ∨
    ∃ u v, a.weights = .ok u ∧ b.weights = .ok v ∧ u.SameOutside first last v
  state : a.state.SameOutside first last b.state
  slots : a.slots = b.slots ∨
    ∃ u v, a.slots = some u ∧ b.slots = some v ∧ u.SameOutside first last v

namespace Reading

theorem SharesLayers.symm {first last : Nat} {a b : Reading α} (h : a.SharesLayers first last b) :
    b.SharesLayers first last a := by
  obtain ⟨u, v, hu, hv, hsame⟩ := h.weights
  exact ⟨⟨v, u, hv, hu, hsame.symm⟩, h.state.symm⟩

theorem SameOutside.refl (first last : Nat) (a : Reading α) : a.SameOutside first last a :=
  ⟨rfl, .inl rfl, .refl _ _ _, .inl rfl⟩

end Reading

section Copy

variable {ρ τ : Type} [Trainer α σ ρ] [Trainer α σ τ] {first last : Nat} {source : ρ}
  {withSlots : Bool}

/-- The snapshots that a copy is going to install. -/
structure SharedLayers.Copies (copies : SharedLayers α) (first last : Nat)
    (source target : Reading α) : Prop where
  weights : ∃ u v, source.weights = .ok u ∧ target.weights = .ok v ∧
    u.copyLayers v first last = .ok copies.weights
  state : source.state.copyLayers target.state first last = .ok copies.state
  slots : ∀ s, copies.slots = some s → ∃ u v, source.slots = some u ∧ target.slots = some v ∧
    u.copyLayers v first last = .ok s

theorem sharedLayers_eq_ok_iff {target : τ} {copies : SharedLayers α} :
    sharedLayers first last source target withSlots = .ok copies ↔
      copies.Copies first last (Trainer.reading source) (Trainer.reading target) ∧
        copies.slots.isSome = withSlots := by
  unfold sharedLayers
  constructor
  · intro h
    obtain ⟨v, hv, h⟩ := Attempt.bind_eq_ok.1 h
    obtain ⟨u, hu, h⟩ := Attempt.bind_eq_ok.1 h
    obtain ⟨weights, hweights, h⟩ := Attempt.bind_eq_ok.1 h
    obtain ⟨state, hstate, h⟩ := Attempt.bind_eq_ok.1 h
    have hw := Attempt.mapError_eq_ok.1 hweights
    have hs := Attempt.mapError_eq_ok.1 hstate
    cases withSlots with
    | false =>
        cases h
        exact ⟨⟨⟨u, v, hu, hv, hw⟩, hs, fun _ hnone => by cases hnone⟩, rfl⟩
    | true =>
        cases hsource : Trainer.slots source with
        | none => simp [hsource, Run.fail] at h
        | some us =>
            cases htarget : Trainer.slots target with
            | none => simp [hsource, htarget, Run.fail] at h
            | some vs =>
                simp only [hsource, htarget] at h
                obtain ⟨slots, hslots, h⟩ := Attempt.bind_eq_ok.1 h
                cases h
                refine ⟨⟨⟨u, v, hu, hv, hw⟩, hs, ?_⟩, rfl⟩
                rintro _ ⟨⟩
                exact ⟨us, vs, hsource, htarget, Attempt.mapError_eq_ok.1 hslots⟩
  · rintro ⟨⟨⟨u, v, hu, hv, hw⟩, hs, hslots⟩, rfl⟩
    refine Attempt.bind_eq_ok.2 ⟨v, hv, Attempt.bind_eq_ok.2 ⟨u, hu, ?_⟩⟩
    refine Attempt.bind_eq_ok.2 ⟨_, Attempt.mapError_eq_ok.2 hw, ?_⟩
    refine Attempt.bind_eq_ok.2 ⟨_, Attempt.mapError_eq_ok.2 hs, ?_⟩
    obtain ⟨weights, state, slots⟩ := copies
    cases slots with
    | none => rfl
    | some s =>
        obtain ⟨us, vs, hsource, htarget, hcopy⟩ := hslots s rfl
        have hsource : Trainer.slots source = some us := hsource
        have htarget : Trainer.slots target = some vs := htarget
        simp only [hsource, htarget]
        exact Attempt.bind_eq_ok.2 ⟨s, Attempt.mapError_eq_ok.2 hcopy, rfl⟩

theorem sharedLayers_eq_ok {target : τ} {copies : SharedLayers α}
    (h : sharedLayers first last source target withSlots = .ok copies) :
    copies.Copies first last (Trainer.reading source) (Trainer.reading target) :=
  (sharedLayers_eq_ok_iff.1 h).1

theorem sharedLayers_error {target : τ} {e : Failure (Error α)}
    (hsource : ∀ e, Trainer.weights source = .error e → ¬e.IsSchedule)
    (htarget : ∀ e, Trainer.weights target = .error e → ¬e.IsSchedule)
    (h : sharedLayers first last source target withSlots = .error e) : ¬e.IsSchedule := by
  unfold sharedLayers at h
  obtain h | ⟨v, -, h⟩ := Attempt.bind_eq_error.1 h
  · exact htarget e h
  obtain h | ⟨u, -, h⟩ := Attempt.bind_eq_error.1 h
  · exact hsource e h
  obtain h | ⟨weights, -, h⟩ := Attempt.bind_eq_error.1 h
  · exact not_isSchedule_of_ofParams h
  obtain h | ⟨state, -, h⟩ := Attempt.bind_eq_error.1 h
  · exact not_isSchedule_of_ofParams h
  cases withSlots with
  | false => cases h
  | true =>
      cases hus : Trainer.slots source with
      | none =>
          simp only [hus] at h
          cases h
          exact id
      | some us =>
          cases hvs : Trainer.slots target with
          | none =>
              simp only [hus, hvs] at h
              cases h
              exact id
          | some vs =>
              simp only [hus, hvs] at h
              obtain h | ⟨slots, -, h⟩ := Attempt.bind_eq_error.1 h
              · exact not_isSchedule_of_ofParams h
              · cases h

/-- A copy between trainers that work without a schedule fails for other causes only. -/
theorem keeps_copyLayersFrom {P : τ → Prop} (hP : Trainer.KeepsSchedule P)
    (hsource : ∀ e, Trainer.weights source = .error e → ¬e.IsSchedule) :
    Trainer.Keeps P (copyLayersFrom first last source withSlots) := by
  refine Action.Respects.read_bind fun x hx => ?_
  refine Action.Respects.bind (Action.Respects.lift fun e he => ?_) fun copies => ?_
  · exact sharedLayers_error hsource (hP.weights x.1 hx) he
  refine (hP.setWeights _).bind fun _ => (hP.setState _).bind fun _ => ?_
  cases copies.slots with
  | none => exact Action.Respects.pure _
  | some s => exact hP.setSlots s

namespace SharedLayers.Copies

variable {copies : SharedLayers α} {a b : Reading α}

/-- Installing the weights, the state and the slots, if there are any, one after another. -/
def installed (copies : SharedLayers α) (b : Reading α) : Reading α where
  step := b.step
  weights := .ok copies.weights
  state := copies.state
  slots := copies.slots.or b.slots

theorem sameOutside_weights (h : copies.Copies first last a b) :
    b.SameOutside first last { b with weights := .ok copies.weights } := by
  obtain ⟨u, v, -, hv, hcopy⟩ := h.weights
  exact ⟨rfl, .inr ⟨v, _, hv, rfl, Snapshot.sameOutside_copyLayers hcopy⟩, .refl _ _ _, .inl rfl⟩

theorem sameOutside_state (h : copies.Copies first last a b) :
    b.SameOutside first last
      { b with weights := .ok copies.weights, state := copies.state } :=
  ⟨rfl, h.sameOutside_weights.weights, Snapshot.sameOutside_copyLayers h.state, .inl rfl⟩

theorem sameOutside_installed (h : copies.Copies first last a b) :
    b.SameOutside first last (installed copies b) := by
  refine ⟨rfl, h.sameOutside_weights.weights, h.sameOutside_state.state, ?_⟩
  cases hslots : copies.slots with
  | none => exact .inl (by simp [installed, hslots])
  | some s =>
      obtain ⟨u, v, -, hv, hcopy⟩ := h.slots s hslots
      exact .inr ⟨v, s, hv, by simp [installed, hslots], Snapshot.sameOutside_copyLayers hcopy⟩

theorem sharesLayers (h : copies.Copies first last a b) :
    a.SharesLayers first last (installed copies b) := by
  obtain ⟨u, v, hu, -, hcopy⟩ := h.weights
  exact ⟨⟨u, _, hu, rfl, Snapshot.sameWithin_copyLayers hcopy⟩,
    Snapshot.sameWithin_copyLayers h.state⟩

end SharedLayers.Copies

variable [LawfulTrainer τ] {x y : τ × World α σ}

theorem reading_of_installed_weights {copies : SharedLayers α} {a : Reading α}
    (hfit : copies.Copies first last a (Trainer.reading x.1))
    (h : Trainer.setWeights copies.weights x = (.ok (), y)) :
    Trainer.reading y.1 = { Trainer.reading x.1 with weights := .ok copies.weights } := by
  obtain ⟨u, v, -, hv, hcopy⟩ := hfit.weights
  exact LawfulTrainer.reading_of_setWeights h hv (Snapshot.layout_copyLayers hcopy)

theorem reading_of_installed_state {copies : SharedLayers α} {a b : Reading α}
    (hfit : copies.Copies first last a b)
    (hx : Trainer.reading x.1 = { b with weights := .ok copies.weights })
    (h : Trainer.setState copies.state x = (.ok (), y)) :
    Trainer.reading y.1 = { b with weights := .ok copies.weights, state := copies.state } := by
  have hstate : Trainer.state x.1 = b.state := congrArg Reading.state hx
  have hlayout : copies.state.layout = (Trainer.state x.1).layout := by
    rw [hstate]
    exact Snapshot.layout_copyLayers hfit.state
  rw [LawfulTrainer.reading_of_setState h hlayout, hx]

/-- All copies are computed before the first is installed, and in the end all are. -/
theorem copyLayersFrom_installed (h : copyLayersFrom first last source withSlots x = (.ok (), y)) :
    ∃ copies : SharedLayers α, sharedLayers first last source x.1 withSlots = .ok copies ∧
      Trainer.reading y.1 = SharedLayers.Copies.installed copies (Trainer.reading x.1) := by
  replace h := Action.read_bind_eq.1 h
  obtain ⟨copies, _, hcopies, h⟩ := Action.bind_eq_ok.1 h
  obtain ⟨hshared, rfl⟩ := Action.lift_eq.1 hcopies
  have hfit := sharedLayers_eq_ok hshared
  refine ⟨copies, hshared, ?_⟩
  obtain ⟨⟨⟩, u, hweights, h⟩ := Action.bind_eq_ok.1 h
  obtain ⟨⟨⟩, v, hstate, h⟩ := Action.bind_eq_ok.1 h
  have hv := reading_of_installed_state hfit (reading_of_installed_weights hfit hweights) hstate
  cases hslots : copies.slots with
  | none =>
      simp only [hslots] at h
      obtain ⟨-, rfl⟩ := Action.pure_eq_ok.1 h
      simp [hv, SharedLayers.Copies.installed, hslots]
  | some s =>
      simp only [hslots] at h
      rw [LawfulTrainer.reading_setSlots h, hv]
      simp [SharedLayers.Copies.installed, hslots]

theorem copyLayersFrom_eq_ok (h : copyLayersFrom first last source withSlots x = (.ok (), y)) :
    ∃ copies : SharedLayers α,
      copies.Copies first last (Trainer.reading source) (Trainer.reading x.1) ∧
      Trainer.reading y.1 = SharedLayers.Copies.installed copies (Trainer.reading x.1) := by
  obtain ⟨copies, hshared, hread⟩ := copyLayersFrom_installed h
  exact ⟨copies, sharedLayers_eq_ok hshared, hread⟩

theorem copyLayersFrom_sameOutside {r : Run α Unit}
    (h : copyLayersFrom first last source withSlots x = (r, y)) :
    (Trainer.reading x.1).SameOutside first last (Trainer.reading y.1) := by
  obtain ⟨e, hread, rfl⟩ | ⟨copies, _, hcopies, h⟩ :=
    Action.bind_eq.1 (Action.read_bind_eq.1 h)
  · obtain ⟨-, rfl⟩ := Action.lift_eq.1 hread
    exact .refl _ _ _
  obtain ⟨hshared, rfl⟩ := Action.lift_eq.1 hcopies
  have hfit := sharedLayers_eq_ok hshared
  obtain ⟨e, hweights, rfl⟩ | ⟨⟨⟩, u, hweights, h⟩ := Action.bind_eq.1 h
  · rw [LawfulTrainer.reading_setWeights_error hweights]
    exact .refl _ _ _
  have hu := reading_of_installed_weights hfit hweights
  obtain ⟨e, hstate, rfl⟩ | ⟨⟨⟩, v, hstate, h⟩ := Action.bind_eq.1 h
  · rw [LawfulTrainer.reading_setState_error hstate, hu]
    exact hfit.sameOutside_weights
  have hv := reading_of_installed_state hfit hu hstate
  -- What was installed before a failure stays installed, and is a copy of the same layers.
  cases hslots : copies.slots with
  | none =>
      simp only [hslots] at h
      cases h
      rw [hv]
      exact hfit.sameOutside_state
  | some s =>
      simp only [hslots] at h
      cases r with
      | ok done =>
          rw [LawfulTrainer.reading_setSlots h, hv]
          have hinstalled := hfit.sameOutside_installed
          simpa [SharedLayers.Copies.installed, hslots] using hinstalled
      | error e =>
          rw [LawfulTrainer.reading_setSlots_error h, hv]
          exact hfit.sameOutside_state

end Copy
end ActorCritic
