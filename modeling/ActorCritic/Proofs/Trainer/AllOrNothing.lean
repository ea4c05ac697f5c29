import ActorCritic.LearningRate
import ActorCritic.Proofs.Trainer.Gradient
import ActorCritic.Proofs.Trainer.Recording
import ActorCritic.Proofs.Trainer.Sharing

/-!
A copy of layers is made in full or not at all. Weights, state and slots are all compared before
the first of them is installed, and a trainer takes whatever has the shapes of its own, so that
nothing can fail once the target has been changed. The source is only read.
-/

namespace ActorCritic

variable {α σ ρ τ : Type}

namespace Reading

/-- The layers `first`, …, `last - 1` fit in weights, in state and, if wanted, in slots. -/
structure Matches (first last : Nat) (withSlots : Bool) (source target : Reading α) : Prop where
  weights : ∃ u v, source.weights = .ok u ∧ target.weights = .ok v ∧ u.Matches first last v
  state : source.state.Matches first last target.state
  slots : withSlots = true →
    ∃ u v, source.slots = some u ∧ target.slots = some v ∧ u.Matches first last v

/-- The layers `first`, …, `last - 1` are those of the source, in slots only if wanted, and all
others are as before. -/
structure Copied (first last : Nat) (withSlots : Bool) (source before after : Reading α) :
    Prop where
  step : after.step = before.step
  weights : ∃ u v w, source.weights = .ok u ∧ before.weights = .ok v ∧ after.weights = .ok w ∧
    u.SameWithin first last w ∧ v.SameOutside first last w
  state : source.state.SameWithin first last after.state ∧
    before.state.SameOutside first last after.state
  slots : if withSlots then
      ∃ u v w, source.slots = some u ∧ before.slots = some v ∧ after.slots = some w ∧
        u.SameWithin first last w ∧ v.SameOutside first last w
    else after.slots = before.slots

end Reading

namespace SharedLayers.Copies

variable {first last : Nat} {copies : SharedLayers α} {a b : Reading α}

theorem fits (h : copies.Copies first last a b) :
    a.Matches first last copies.slots.isSome b := by
  obtain ⟨u, v, hu, hv, hcopy⟩ := h.weights
  refine ⟨⟨u, v, hu, hv, ?_⟩, ?_, ?_⟩
  · exact Snapshot.exists_copyLayers_iff.1 ⟨_, hcopy⟩
  · exact Snapshot.exists_copyLayers_iff.1 ⟨_, h.state⟩
  · intro hsome
    obtain ⟨s, hs⟩ := Option.isSome_iff_exists.1 hsome
    obtain ⟨u, v, hu, hv, hcopy⟩ := h.slots s hs
    exact ⟨u, v, hu, hv, Snapshot.exists_copyLayers_iff.1 ⟨_, hcopy⟩⟩

theorem copied_installed (h : copies.Copies first last a b) :
    a.Copied first last copies.slots.isSome b (installed copies b) := by
  obtain ⟨u, v, hu, hv, hcopy⟩ := h.weights
  refine ⟨rfl, ⟨u, v, _, hu, hv, rfl, ?_, ?_⟩, ⟨?_, ?_⟩, ?_⟩
  · exact Snapshot.sameWithin_copyLayers hcopy
  · exact Snapshot.sameOutside_copyLayers hcopy
  · exact Snapshot.sameWithin_copyLayers h.state
  · exact Snapshot.sameOutside_copyLayers h.state
  · cases hslots : copies.slots with
    | none => simp [installed, hslots]
    | some s =>
        obtain ⟨u, v, hu, hv, hcopy⟩ := h.slots s hslots
        have hinstalled : (installed copies b).slots = some s := by simp [installed, hslots]
        exact ⟨u, v, s, hu, hv, hinstalled, Snapshot.sameWithin_copyLayers hcopy,
          Snapshot.sameOutside_copyLayers hcopy⟩

end SharedLayers.Copies

theorem exists_copies {first last : Nat} {withSlots : Bool} {a b : Reading α}
    (h : a.Matches first last withSlots b) :
    ∃ copies : SharedLayers α, copies.Copies first last a b ∧ copies.slots.isSome = withSlots := by
  obtain ⟨u, v, hu, hv, hweights⟩ := h.weights
  obtain ⟨weights, hweights⟩ := Snapshot.exists_copyLayers_iff.2 hweights
  obtain ⟨state, hstate⟩ := Snapshot.exists_copyLayers_iff.2 h.state
  cases withSlots with
  | false =>
      exact ⟨⟨weights, state, none⟩, ⟨⟨u, v, hu, hv, hweights⟩, hstate, nofun⟩, rfl⟩
  | true =>
      obtain ⟨us, vs, hus, hvs, hslots⟩ := h.slots rfl
      obtain ⟨slots, hslots⟩ := Snapshot.exists_copyLayers_iff.2 hslots
      refine ⟨⟨weights, state, some slots⟩, ⟨⟨u, v, hu, hv, hweights⟩, hstate, ?_⟩, rfl⟩
      rintro _ ⟨⟩
      exact ⟨us, vs, hus, hvs, hslots⟩

section Install

variable [Trainer α σ ρ] [Trainer α σ τ]

/-- What `P` says of trainers is enough for them to take what has the shapes of their own. -/
structure Trainer.TakesFitting (P : τ → Prop) : Prop where
  setWeights {x : τ × World α σ} {s v : Snapshot α} : P x.1 →
    Trainer.weights x.1 = .ok v → s.outline = v.outline →
      ∃ y, Trainer.setWeights s x = (.ok (), y) ∧ P y.1
  setState {x : τ × World α σ} {s : Snapshot α} : P x.1 →
    s.outline = (Trainer.state x.1).outline → ∃ y, Trainer.setState s x = (.ok (), y) ∧ P y.1
  setSlots {x : τ × World α σ} {s v : Snapshot α} : P x.1 →
    Trainer.slots x.1 = some v → ∃ y, Trainer.setSlots s x = (.ok (), y)

variable [LawfulTrainer τ] {P : τ → Prop} {source : ρ} {x : τ × World α σ} {first last : Nat}
  {withSlots : Bool} {copies : SharedLayers α}

/-- Copies that were computed can be installed. -/
theorem exists_copyLayersFrom (hP : Trainer.TakesFitting P) (hx : P x.1)
    (hshared : sharedLayers first last source x.1 withSlots = .ok copies) :
    ∃ y, copyLayersFrom first last source withSlots x = (.ok (), y) := by
  have hfit := sharedLayers_eq_ok hshared
  obtain ⟨u, v, -, hv, hweights⟩ := hfit.weights
  obtain ⟨y, hy, hyP⟩ := hP.setWeights hx hv (Snapshot.outline_copyLayers hweights)
  have hread := reading_of_installed_weights hfit hy
  have hstate : Trainer.state y.1 = Trainer.state x.1 := congrArg Reading.state hread
  have houtline : copies.state.outline = (Trainer.state y.1).outline := by
    rw [hstate]
    exact Snapshot.outline_copyLayers hfit.state
  obtain ⟨z, hz, hzP⟩ := hP.setState hyP houtline
  have hslots : Trainer.slots z.1 = Trainer.slots x.1 :=
    congrArg Reading.slots (reading_of_installed_state hfit hread hz)
  refine Exists.imp (fun w hw => Action.read_bind_eq.2 (Action.bind_eq_ok.2 ⟨copies, x,
    Action.lift_eq.2 ⟨hshared, rfl⟩, Action.bind_eq_ok.2 ⟨(), y, hy,
      Action.bind_eq_ok.2 ⟨(), z, hz, hw⟩⟩⟩)) ?_
  -- The slots are there to be replaced, since those of the target were read.
  cases hcopies : copies.slots with
  | none => exact ⟨z, rfl⟩
  | some s =>
      obtain ⟨_, old, -, hold, -⟩ := hfit.slots s hcopies
      exact hP.setSlots hzP (hslots.trans hold)

/-- The only failures are those of computing the copies. -/
theorem copyLayersFrom_eq_error (hP : Trainer.TakesFitting P) (hx : P x.1)
    {e : Failure (Error α)} {y : τ × World α σ}
    (h : copyLayersFrom first last source withSlots x = (.error e, y)) :
    sharedLayers first last source x.1 withSlots = .error e ∧ y = x := by
  cases hshared : sharedLayers first last source x.1 withSlots with
  | ok copies =>
      obtain ⟨z, hz⟩ := exists_copyLayersFrom hP hx hshared
      cases hz.symm.trans h
  | error cause =>
      have hfails : copyLayersFrom first last source withSlots x = (.error cause, x) := by
        refine Action.read_bind_eq.2 (Action.bind_eq_error.2 (.inl ?_))
        exact Action.lift_eq.2 ⟨hshared, rfl⟩
      cases hfails.symm.trans h
      exact ⟨rfl, rfl⟩

theorem copied_of_copyLayersFrom {y : τ × World α σ}
    (h : copyLayersFrom first last source withSlots x = (.ok (), y)) :
    (Trainer.reading source).Copied first last withSlots (Trainer.reading x.1)
      (Trainer.reading y.1) := by
  obtain ⟨copies, hshared, hread⟩ := copyLayersFrom_installed h
  obtain ⟨hfit, rfl⟩ := sharedLayers_eq_ok_iff.1 hshared
  rw [hread]
  exact hfit.copied_installed

theorem exists_copyLayersFrom_iff (hP : Trainer.TakesFitting P) (hx : P x.1) :
    (∃ y, copyLayersFrom first last source withSlots x = (.ok (), y)) ↔
      (Trainer.reading source).Matches first last withSlots (Trainer.reading x.1) := by
  constructor
  · rintro ⟨y, h⟩
    obtain ⟨copies, hshared, -⟩ := copyLayersFrom_installed h
    obtain ⟨hfit, rfl⟩ := sharedLayers_eq_ok_iff.1 hshared
    exact hfit.fits
  · intro h
    obtain ⟨copies, hcopies⟩ := exists_copies h
    exact exists_copyLayersFrom hP hx (sharedLayers_eq_ok_iff.2 hcopies)

end Install

theorem RecordingTrainer.takesFitting {κ β : Type} :
    Trainer.TakesFitting fun _ : RecordingTrainer α σ κ β => True where
  setWeights _ _ _ := ⟨_, rfl, trivial⟩
  setState _ _ := ⟨_, rfl, trivial⟩
  setSlots _ _ := ⟨_, rfl⟩

namespace GradientTrainer

variable {κ β ι ο μ : Type}

/-- The layers of the network have all its parameters, and no others. -/
def Covered (t : GradientTrainer σ κ β ι ο μ) : Prop :=
  Count.sum t.network.layerCounts = .ok t.network.params.length

theorem takesFitting :
    Trainer.TakesFitting (Covered : GradientTrainer σ κ β ι ο μ → Prop) where
  setWeights {x s v} _ hv houtline := by
    obtain ⟨network, hload⟩ := Network.exists_load (Attempt.mapError_eq_ok.1 hv) houtline
    refine ⟨({ x.1 with network := network }, x.2), ?_, (Network.load_eq_ok hload).1⟩
    refine Action.read_bind_eq.2 (Action.bind_eq_ok.2 ⟨network, x, ?_, rfl⟩)
    exact Action.lift_eq.2 ⟨Attempt.mapError_eq_ok.2 hload, rfl⟩
  setState {x s} hx houtline := by
    have hlayout : s.layout = x.1.network.state.layout := by
      rw [Snapshot.layout_eq_map_outline, houtline]
      exact (Snapshot.layout_eq_map_outline _).symm
    refine ⟨x, ?_, hx⟩
    refine Action.read_bind_eq.2 (Action.bind_eq_ok.2 ⟨x.1.network, x, ?_, rfl⟩)
    exact Action.lift_eq.2 ⟨Attempt.mapError_eq_ok.2 (Network.withState_of_layout hlayout), rfl⟩
  setSlots _ hslots := by cases hslots

end GradientTrainer

/-- A trainer that only records, with any snapshots, or one that trains a network whose layers
cover its parameters. -/
inductive Trainer.Covered {σ : Type} : {α ρ : Type} → [Trainer α σ ρ] → ρ → Prop
  | recording {α κ β : Type} (t : RecordingTrainer α σ κ β) : Trainer.Covered t
  | gradient {κ β ι ο μ : Type} (t : GradientTrainer σ κ β ι ο μ) (h : t.Covered) :
      Trainer.Covered t

section Covered

variable [Trainer α σ ρ] [Trainer α σ τ]

/-- A copy succeeds exactly if everything fits, and then every layer of the range is the source's
and all else is as before; or it fails before the first snapshot is installed, and the target is
as it was. Nothing is asked of the source. -/
theorem copyLayersFrom_all_or_nothing {target : τ} (htarget : Trainer.Covered target) (source : ρ)
    (first last : Nat) (withSlots : Bool) (w : World α σ) :
    ((∃ y, copyLayersFrom first last source withSlots (target, w) = (.ok (), y)) ↔
      (Trainer.reading source).Matches first last withSlots (Trainer.reading target)) ∧
    (∀ y, copyLayersFrom first last source withSlots (target, w) = (.ok (), y) →
      (Trainer.reading source).Copied first last withSlots (Trainer.reading target)
        (Trainer.reading y.1)) ∧
    ∀ e y, copyLayersFrom first last source withSlots (target, w) = (.error e, y) →
      sharedLayers first last source target withSlots = .error e ∧ y = (target, w) := by
  cases htarget with
  | recording target =>
      refine ⟨exists_copyLayersFrom_iff RecordingTrainer.takesFitting trivial, ?_, ?_⟩
      · exact fun y => copied_of_copyLayersFrom
      · exact fun e y => copyLayersFrom_eq_error RecordingTrainer.takesFitting trivial
  | gradient target hcovered =>
      refine ⟨exists_copyLayersFrom_iff GradientTrainer.takesFitting hcovered, ?_, ?_⟩
      · exact fun y => copied_of_copyLayersFrom
      · exact fun e y => copyLayersFrom_eq_error GradientTrainer.takesFitting hcovered

end Covered

section Sample

/-- Batches that never come. -/
def noBatches : BatchSource Float32 Unit Unit (ValueBatch Float32) :=
  ⟨fun w => (.ok (), w), fun _ stream => (none, stream)⟩

/-- A trainer of two layers of one unit each, which has no slots. -/
def oneUnitTarget : GradientTrainer Unit Unit (ValueBatch Float32) (StepTensor Float32)
    (StepTensor Float32) (Moments Float32) where
  name := "value"
  network := Network.hiddenValue 0 1 1
  optimizer := .adam
  memory := []
  schedule := (LearningRate.constant 1).rate
  score network batch := (Score.value network batch).mapError .abort
  source := noBatches
  trainStream := none
  evalStream := none
  step := 2
  checkpointer := none
  loggers := []
  history := []

def oneUnitSource : RecordingTrainer Float32 Unit Unit (ValueBatch Float32) :=
  .make "policy" 5 ⟨[[.fill [1, 1] 7, .fill [1] 8], [.fill [1, 2] 9, .fill [2] 9]]⟩ none noBatches

/-- The first layer fits, the second does not, and there are no slots to be copied. -/
theorem copyLayersFrom_all_or_nothing_one_unit :
    let w : World Float32 Unit := ⟨(), .empty, [], 0⟩
    (∃ y, copyLayersFrom 0 1 oneUnitSource false (oneUnitTarget, w) = (.ok (), y) ∧
      (Trainer.reading oneUnitSource).Copied 0 1 false (Trainer.reading oneUnitTarget)
        (Trainer.reading y.1)) ∧
    (∃ e, copyLayersFrom 0 2 oneUnitSource false (oneUnitTarget, w) =
      (.error e, (oneUnitTarget, w))) ∧
    ∃ e, copyLayersFrom 0 1 oneUnitSource true (oneUnitTarget, w) =
      (.error e, (oneUnitTarget, w)) := by
  intro w
  have htarget : Trainer.Covered oneUnitTarget := .gradient oneUnitTarget rfl
  have hfails {last : Nat} {withSlots : Bool}
      (h : ¬ (Trainer.reading oneUnitSource).Matches 0 last withSlots
        (Trainer.reading oneUnitTarget)) :
      ∃ e, copyLayersFrom 0 last oneUnitSource withSlots (oneUnitTarget, w) =
        (.error e, (oneUnitTarget, w)) := by
    obtain ⟨hiff, -, herror⟩ :=
      copyLayersFrom_all_or_nothing htarget oneUnitSource 0 last withSlots w
    cases hrun : copyLayersFrom 0 last oneUnitSource withSlots (oneUnitTarget, w) with
    | mk r y =>
        cases r with
        | ok u => exact absurd (hiff.1 ⟨y, hrun⟩) h
        | error e => exact ⟨e, congrArg (Prod.mk _) (herror e y hrun).2⟩
  refine ⟨?_, hfails ?_, hfails ?_⟩
  · obtain ⟨hiff, hcopied, -⟩ := copyLayersFrom_all_or_nothing htarget oneUnitSource 0 1 false w
    obtain ⟨y, hy⟩ := hiff.2 {
      weights := ⟨_, _, rfl, rfl, by decide, by decide, by decide, fun
        | 0, _, _ => rfl⟩
      state := ⟨by decide, by decide, by decide, fun
        | 0, _, _ => rfl⟩
      slots := nofun }
    exact ⟨y, hy, hcopied y hy⟩
  · rintro ⟨⟨u, v, ⟨⟩, ⟨⟩, hmatches⟩, -, -⟩
    exact absurd (hmatches.shapes_eq 1 (by decide) (by decide)) (by decide)
  · rintro ⟨-, -, hslots⟩
    obtain ⟨u, v, hnone, -⟩ := hslots rfl
    cases hnone

end Sample
end ActorCritic
