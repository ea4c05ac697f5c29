import ActorCritic.Proofs.Advantage.Target
import ActorCritic.Proofs.Batch.SliceLength

/-!
What the targets of a value network look at. The target of a step is made of its reward and the
later ones of its row, of the values that follow, and of a return that is not earlier. Neither what
the value target says of the step itself or of an earlier one nor any other row has a part in it,
so two networks that agree on what follows train the step to one number.
-/

namespace ActorCritic

variable {α : Type} [ExactScalar α]

/-- A valid trajectory batch with value estimates for all of its steps, and as many of these as fit
in memory. -/
structure Trajectory.Valued (t : Trajectory α) (target : ValueTarget α) (scale : α)
    (values : StepMatrix α) : Prop where
  valid : t.Valid
  estimated : valueEstimates target t scale = .ok values
  extent : values.extent = t.rewards.extent
  size : t.rewards.entries.length < Count.limit

namespace Trajectory.Valued

section Shape

variable {t : Trajectory α} {target : ValueTarget α} {scale : α} {values : StepMatrix α}
  (h : t.Valued target scale values)
include h

theorem oneShape : Estimator.OneShape t.rewards t.returns values :=
  ⟨(Trajectory.valid_iff.1 h.valid).2.2.1, h.extent, h.size⟩

/-- The values are outputs of one channel, scaled. -/
theorem exists_outputs :
    ∃ outputs steps, target.predict t.observations = .ok outputs ∧
      outputs.extent = t.observations.extent ∧ outputs.features = 1 ∧
      outputs.toSteps? = some steps ∧ values = steps.map (· * scale) := by
  obtain ⟨outputs, steps, hpredict, hsteps, rfl⟩ := exists_outputs_of_valueEstimates h.estimated
  obtain ⟨hchannel, hextent, -⟩ := StepTensor.entryAt?_of_toSteps? hsteps
  have hobservations := (Trajectory.valid_iff.1 h.valid).1
  exact ⟨outputs, steps, hpredict, (hextent.symm.trans h.extent).trans hobservations.symm, hchannel,
    hsteps, rfl⟩

end Shape

section Build

variable {b : ValueBatchBuilder α} {dropped : Nat} {t : Trajectory α} {target : ValueTarget α}
  {values advantages : StepMatrix α} (h : t.Valued target b.plan.scale values)
  (hestimate : b.estimator.estimate t.rewards t.returns values b.plan.gamma b.plan.extraSteps =
    .ok advantages)
  (hextent : advantages.extent = (t.rewards.rows, t.rewards.cols - dropped))
include h hestimate hextent

/-- A batch is made if a row and a step of it are kept and there is something to observe. -/
theorem exists_build (hrows : 0 < t.rewards.rows) (hkept : 0 < t.rewards.cols - dropped)
    (hfeatures : 0 < t.observations.features) : ∃ batch, b.build target t = .ok batch := by
  obtain ⟨outputs, steps, hpredict, hobservations, hchannel, hsteps, rfl⟩ := h.exists_outputs
  have hcols : advantages.cols = t.rewards.cols - dropped := congrArg Prod.snd hextent
  have hestimates : b.plan.Estimates b.estimator t outputs advantages := by
    intro read hread
    obtain rfl : steps = read := Option.some.inj (hsteps.symm.trans hread)
    exact hestimate
  have hfits : Fits t outputs advantages none :=
    ⟨h.valid, hchannel, nofun, congrArg Prod.fst hextent, by omega⟩
  obtain ⟨batch, hbatch, -⟩ := ValueBatchBuilder.exists_build hpredict hobservations hestimates
    hfits hrows hfeatures (.inl (by omega)) h.size
  exact ⟨batch, hbatch⟩

/-- The target of a step that is kept comes from its value and its advantage. -/
theorem target_of_build {batch : ValueBatch α} (hbatch : b.build target t = .ok batch)
    {row step : Nat} (hrow : row < t.rewards.rows) (hstep : step < t.rewards.cols - dropped) :
    batch.targets.entryAt? row step 0 =
      some ((values.entry row step + advantages.entry row step) / b.plan.scale) := by
  have hcols : advantages.cols = t.rewards.cols - dropped := congrArg Prod.snd hextent
  have hestimates : b.plan.estimates b.estimator target t = .ok (values, advantages) :=
    SlicePlan.estimates_eq_ok.2 ⟨Trajectory.validate_of_valid h.valid, h.estimated,
      estimateAdvantages_eq_ok hestimate (congrArg Prod.fst hextent) (by omega)⟩
  obtain ⟨-, htargets⟩ := ValueBatchBuilder.targets_of_build h.extent h.size hestimates hbatch
  obtain ⟨v, a, hv, ha, htarget⟩ := htargets row step hrow (by omega)
  rw [htarget, StepMatrix.entry, StepMatrix.entry, hv, ha]
  rfl

end Build

end Trajectory.Valued

/-- Two value batches have the same target at a step, if their slices agree in its row on what comes
from the step on and their values agree on what comes after it. The value targets may be two and
say anything of the step itself, of earlier ones and of other rows. Looking ahead for no step is
left out, as that takes the value of the step for its target. -/
theorem value_targets_look_forward {b : ValueBatchBuilder α} {dropped : Nat}
    (hdrops : b.estimator.Drops b.plan.extraSteps dropped)
    (hahead : b.estimator = Estimator.kStep → 0 < b.plan.extraSteps)
    {target target' : ValueTarget α} {x y : Trajectory α} {v w : StepMatrix α}
    (hx : x.Valued target b.plan.scale v) (hy : y.Valued target' b.plan.scale w)
    (hshape : y.rewards.extent = x.rewards.extent) {row step : Nat}
    (hrow : row < x.rewards.rows) (hstep : step < x.rewards.cols - dropped)
    (h : Estimator.AgreeAhead x y v w row step) :
    (0 < x.observations.features → ∃ batch, b.build target x = .ok batch) ∧
    (0 < y.observations.features → ∃ batch, b.build target' y = .ok batch) ∧
    ∀ batch batch', b.build target x = .ok batch → b.build target' y = .ok batch' →
      ∃ z, batch.targets.entryAt? row step 0 = some z ∧
        batch'.targets.entryAt? row step 0 = some z := by
  obtain ⟨a, ha, haExtent⟩ := hdrops.exists_estimate hx.oneShape b.plan.gamma
  obtain ⟨a', ha', haExtent'⟩ := hdrops.exists_estimate hy.oneShape b.plan.gamma
  have hrows : y.rewards.rows = x.rewards.rows := congrArg Prod.fst hshape
  have hcols : y.rewards.cols = x.rewards.cols := congrArg Prod.snd hshape
  have hrow' : row < y.rewards.rows := hrows ▸ hrow
  have hstep' : step < y.rewards.cols - dropped := hcols ▸ hstep
  have hsum := hdrops.value_add_advantage_eq hahead hx.oneShape hy.oneShape hshape ha ha' hrow hstep
    h
  refine ⟨hx.exists_build ha haExtent (Nat.zero_lt_of_lt hrow) (Nat.zero_lt_of_lt hstep),
    hy.exists_build ha' haExtent' (Nat.zero_lt_of_lt hrow') (Nat.zero_lt_of_lt hstep'), ?_⟩
  intro batch batch' hbatch hbatch'
  refine ⟨_, hx.target_of_build ha haExtent hbatch hrow hstep, ?_⟩
  rw [hsum]
  exact hy.target_of_build ha' haExtent' hbatch' hrow' hstep'

/-- Two rows of three steps. The second row and the first step are filled in, and so is what is
observed at the second step. -/
def filledSlices (earlier own other : ℚ) : Trajectory ℚ where
  observations := ⟨2, 3, 1, [earlier, own, 3, other, other, other], rfl⟩
  actions := .fill 2 3 1 0
  rewards := ⟨2, 3, [earlier, 1, 7, other, other, other], rfl⟩
  returns := ⟨2, 3, [earlier, 5, 6, other, other, other], rfl⟩
  logProbs := .fill 2 3 0
  mask := .fill 2 3 1

/-- The second step has a reward of one and is followed by a value of six, so at a discount of one
half and a scale of two its target is two, whatever is filled in. -/
theorem value_targets_look_forward_second_step :
    let b : ValueBatchBuilder ℚ := ⟨⟨1 / 2, 2, 3, 1, ⟨1⟩, 0, 2⟩, Estimator.gae (1 / 4)⟩
    let x := filledSlices 0 0 0
    let y := filledSlices 8 9 7
    let v : StepMatrix ℚ := ⟨2, 3, [0, 0, 6, 0, 0, 0], rfl⟩
    let w : StepMatrix ℚ := ⟨2, 3, [16, 18, 6, 14, 14, 14], rfl⟩
    x.Valued observedReturns 2 v ∧ y.Valued observedReturns 2 w ∧
    Estimator.AgreeAhead x y v w 0 1 ∧ ∃ batch batch',
      b.build observedReturns x = .ok batch ∧ b.build observedReturns y = .ok batch' ∧
      batch.targets.entryAt? 0 1 0 = some 2 ∧ batch'.targets.entryAt? 0 1 0 = some 2 := by
  intro b x y v w
  have hx : x.Valued observedReturns 2 v :=
    ⟨Trajectory.valid_iff.2 (by decide), by decide +kernel, rfl, by decide⟩
  have hy : y.Valued observedReturns 2 w :=
    ⟨Trajectory.valid_iff.2 (by decide), by decide +kernel, rfl, by decide⟩
  have hagree : Estimator.AgreeAhead x y v w 0 1 := by
    have hrewards : ∀ i, 1 ≤ i → i < 3 → x.rewards.entry 0 i = y.rewards.entry 0 i := by
      decide +kernel
    have hreturns : ∀ i, 1 ≤ i → i < 3 → x.returns.entry 0 i = y.returns.entry 0 i := by
      decide +kernel
    have hvalues : ∀ i, 2 ≤ i → i < 3 → v.entry 0 i = w.entry 0 i := by decide +kernel
    exact ⟨hrewards, hreturns, hvalues⟩
  have hahead : Estimator.gae (1 / 4 : ℚ) = Estimator.kStep → 0 < 0 := fun h =>
    absurd (congrArg Estimator.name h) (show "gae" ≠ "td_k" by decide)
  obtain ⟨hbuild, hbuild', htargets⟩ := value_targets_look_forward (b := b) (.gae (1 / 4)) hahead hx
    hy rfl (by decide) (by decide) hagree
  obtain ⟨batch, hbatch⟩ := hbuild (by decide)
  obtain ⟨batch', hbatch'⟩ := hbuild' (by decide)
  obtain ⟨z, hz, hz'⟩ := htargets batch batch' hbatch hbatch'
  have htarget : (b.build observedReturns x).toOption.map
      (fun batch => batch.targets.entryAt? 0 1 0) = some (some 2) := by decide +kernel
  rw [hbatch] at htarget
  obtain rfl : z = 2 := Option.some.inj (hz.symm.trans (Option.some.inj htarget))
  exact ⟨hx, hy, hagree, batch, batch', hbatch, hbatch', hz, hz'⟩

end ActorCritic
