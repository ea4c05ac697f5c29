import ActorCritic.Proofs.Advantage.Differences
import ActorCritic.Proofs.Batch.Agreement

/-!
Returns that satisfy the recurrence with their rewards. Where the values are such returns, no
temporal difference is left, so no estimator sees an advantage, however far it looks ahead and
whatever it mixes. A value network whose scaled outputs are the returns is then given its own
outputs as targets.
-/

namespace ActorCritic

open Finset (range)

/-- Every return is the reward of its step and the discounted return of the next. The return of
the last step of a row may be any number. -/
structure BellmanReturns {α : Type} [Scalar α] (gamma : α) (rewards returns : StepMatrix α) :
    Prop where
  extent : returns.extent = rewards.extent
  recurrence : ∀ row step, row < rewards.rows → step + 1 < rewards.cols →
    returns.entry row step = rewards.entry row step + gamma * returns.entry row (step + 1)

/-- The estimators of this library, each with the number of steps that it drops. -/
inductive Estimator.Drops {α : Type} [Scalar α] (extraSteps : Nat) : Estimator α → Nat → Prop where
  | monteCarlo : Drops extraSteps monteCarlo extraSteps
  | kStep : Drops extraSteps kStep extraSteps
  | tdLambda (lambda : α) : Drops extraSteps (tdLambda lambda) extraSteps
  | gae (lambda : α) : Drops extraSteps (gae lambda) (max extraSteps 1)

variable {α : Type} [ExactScalar α]

namespace BellmanReturns

variable {gamma : α} {rewards returns : StepMatrix α} (h : BellmanReturns gamma rewards returns)
include h

theorem difference_eq_zero {row step : Nat} (hrow : row < rewards.rows)
    (hstep : step + 1 < rewards.cols) :
    Estimator.difference gamma rewards returns row step = 0 := by
  rw [Estimator.difference, h.recurrence row step hrow hstep, sub_self]

/-- Differences of steps before the last add up to nothing, whatever they are weighted with. -/
theorem weighted_differences_eq_zero (weight : Nat → α) {row step count : Nat}
    (hrow : row < rewards.rows) (hcount : step + count < rewards.cols) :
    ∑ i ∈ range count, weight i * Estimator.difference gamma rewards returns row (step + i) =
      0 := by
  refine Finset.sum_eq_zero fun i hi => ?_
  have hi : i < count := Finset.mem_range.1 hi
  rw [h.difference_eq_zero hrow (by omega), mul_zero]

theorem estimate_eq_zero (hsize : rewards.entries.length < Count.limit) {e : Estimator α}
    {extraSteps dropped : Nat} (hdrops : e.Drops extraSteps dropped) :
    e.estimate rewards returns returns gamma extraSteps =
      .ok (.fill rewards.rows (rewards.cols - dropped) 0) := by
  have hshape : Estimator.OneShape rewards returns returns := ⟨h.extent, h.extent, hsize⟩
  rw [StepMatrix.fill_eq_grid]
  cases hdrops with
  | monteCarlo =>
      rw [Estimator.monteCarlo_estimate hshape]
      exact congrArg Except.ok (StepMatrix.grid_congr fun _ _ _ _ => sub_self _)
  | kStep =>
      rw [Estimator.kStep_estimate hshape]
      refine congrArg Except.ok (StepMatrix.grid_congr fun row step hrow hstep => ?_)
      exact (Estimator.bootstrap_sub_value gamma rewards returns row step extraSteps).trans
        (h.weighted_differences_eq_zero _ hrow (by omega))
  | tdLambda lambda =>
      rw [Estimator.tdLambda_estimate hshape]
      refine congrArg Except.ok (StepMatrix.grid_congr fun row step hrow hstep => ?_)
      have hlast : step + (rewards.cols - 1 - step) = rewards.cols - 1 := by omega
      rw [Estimator.transitions, Estimator.lambdaReturn_sub_value, Estimator.decayedSum_eq_sum,
        h.weighted_differences_eq_zero _ hrow (by omega), hlast, sub_self, mul_zero, add_zero]
  | gae lambda =>
      rw [Estimator.gae_estimate hshape]
      refine congrArg Except.ok (StepMatrix.grid_congr fun row step hrow hstep => ?_)
      rw [Estimator.decayedSum_eq_sum, h.weighted_differences_eq_zero _ hrow (by omega)]

end BellmanReturns

/-- Values are never scaled by zero. -/
theorem Config.valueScale_ne_zero {c : Config} {gamma scale : α}
    (h : c.valueScale gamma = .ok scale) : scale ≠ 0 := by
  unfold valueScale at h
  split at h
  · split at h
    · next hgamma =>
        cases h
        exact one_div_ne_zero (sub_ne_zero.2 (ne_of_gt hgamma.2))
    · cases h
  · cases h
    exact one_ne_zero

theorem ValueBatchBuilder.ofConfig_eq_ok {c : Config} {gamma : α} {e : Estimator α}
    {replay : ReplayWindow} {b : ValueBatchBuilder α} (h : ofConfig c gamma e replay = .ok b) :
    b.estimator = e ∧ b.plan.gamma = gamma ∧ b.plan.extraSteps = c.addedPolicySliceLength ∧
      c.valueScale gamma = .ok b.plan.scale := by
  obtain ⟨plan, hplan, h⟩ := Attempt.bind_eq_ok.1 h
  obtain ⟨scale, hscale, hplan⟩ := Attempt.bind_eq_ok.1 hplan
  obtain ⟨longest, -, hplan⟩ := Attempt.bind_eq_ok.1 hplan
  obtain ⟨shortest, -, hplan⟩ := Attempt.bind_eq_ok.1 hplan
  cases Attempt.pure_eq_ok.1 hplan
  cases Attempt.pure_eq_ok.1 h
  exact ⟨rfl, rfl, rfl, Attempt.mapError_eq_ok.1 hscale⟩

section Targets

/-- Advantages that are all zero fit every valid batch. -/
theorem fits_fill_zero {t : Trajectory α} (hvalid : t.Valid) (outputs : StepMatrix α)
    (dropped : Nat) :
    Fits t (.ofSteps outputs) (.fill t.rewards.rows (t.rewards.cols - dropped) 0) none :=
  ⟨hvalid, rfl, nofun, rfl, Nat.sub_le _ _⟩

variable {b : ValueBatchBuilder α} {target : ValueTarget α} {t : Trajectory α}
  {outputs : StepMatrix α} {dropped : Nat}
  (hpredict : target.predict t.observations = .ok (.ofSteps outputs))
  (hextent : outputs.extent = t.rewards.extent)
  (hzero : b.plan.Estimates b.estimator t (.ofSteps outputs)
    (.fill t.rewards.rows (t.rewards.cols - dropped) 0))
  (hsize : t.rewards.entries.length < Count.limit)
include hpredict hextent hzero hsize

/-- Without advantages the target of a step is the output that its value was scaled from. -/
theorem ValueBatchBuilder.targets_of_zero_advantages (hscale : b.plan.scale ≠ 0)
    {batch : ValueBatch α} (h : b.build target t = .ok batch) :
    batch.targets.extent = (t.rewards.rows, t.rewards.cols - dropped) ∧
      ∀ row step, row < t.rewards.rows → step < t.rewards.cols - dropped →
        batch.targets.entryAt? row step 0 = outputs.entryAt? row step := by
  have hbuild := h
  rw [build_eq] at hbuild
  obtain ⟨⟨values, advantages⟩, hestimates, -⟩ := Attempt.bind_eq_ok.1 hbuild
  obtain ⟨-, hvalues, hadvantages⟩ := SlicePlan.estimates_eq_ok.1 hestimates
  cases hvalues.symm.trans (valueEstimates_eq_ok hpredict rfl b.plan.scale)
  cases (estimate_of_estimateAdvantages hadvantages).1.symm.trans (hzero outputs rfl)
  have hvaluesExtent : (outputs.map (· * b.plan.scale)).extent = t.rewards.extent := hextent
  obtain ⟨htargetsExtent, htargetsEntry⟩ := targets_of_build hvaluesExtent hsize hestimates h
  refine ⟨htargetsExtent, fun row step hrow hstep => ?_⟩
  obtain ⟨value, a, hvalue, ha, htarget⟩ := htargetsEntry row step hrow hstep
  obtain ⟨v, hv, rfl⟩ := Option.map_eq_some_iff.1
    ((StepMatrix.entryAt?_map outputs _ row step).symm.trans hvalue)
  have hnone : a = 0 := by
    rw [StepMatrix.fill_eq_grid, StepMatrix.entryAt?_grid _ hrow hstep] at ha
    exact (Option.some.inj ha).symm
  rw [htarget, hv, hnone, add_zero, mul_div_cancel_right₀ _ hscale]

theorem ValueBatchBuilder.exists_build_of_zero_advantages (hvalid : t.Valid)
    (hrows : 0 < t.rewards.rows) (hfeatures : 0 < t.observations.features)
    (hkept : dropped < t.rewards.cols) : ∃ batch, b.build target t = .ok batch := by
  have hobservations : outputs.extent = t.observations.extent :=
    hextent.trans (Trajectory.valid_iff.1 hvalid).1.symm
  obtain ⟨batch, hbatch, -⟩ := exists_build hpredict hobservations hzero
    (fits_fill_zero hvalid outputs dropped) hrows hfeatures (.inl (Nat.sub_pos_of_lt hkept)) hsize
  exact ⟨batch, hbatch⟩

end Targets

/-- Where values and returns are one solution of the recurrence, no estimator of this library
finds an advantage, and the targets of a value network that outputs this solution, scaled down,
are its own outputs. -/
theorem bellman_returns_are_fixed {gamma : α} {e : Estimator α} {extraSteps dropped : Nat}
    (hdrops : e.Drops extraSteps dropped) :
    (∀ rewards returns : StepMatrix α, BellmanReturns gamma rewards returns →
      rewards.entries.length < Count.limit →
      e.estimate rewards returns returns gamma extraSteps =
        .ok (.fill rewards.rows (rewards.cols - dropped) 0)) ∧
    ∀ (c : Config) (replay : ReplayWindow) (b : ValueBatchBuilder α) (target : ValueTarget α)
      (t : Trajectory α) (outputs : StepMatrix α),
      ValueBatchBuilder.ofConfig c gamma e replay = .ok b →
      c.addedPolicySliceLength = extraSteps →
      BellmanReturns gamma t.rewards t.returns →
      target.predict t.observations = .ok (.ofSteps outputs) →
      outputs.map (b.plan.scale * ·) = t.returns →
      t.rewards.entries.length < Count.limit →
      (∀ batch, b.build target t = .ok batch →
        batch.targets.extent = (t.rewards.rows, t.rewards.cols - dropped) ∧
        ∀ row step, row < t.rewards.rows → step < t.rewards.cols - dropped →
          batch.targets.entryAt? row step 0 = outputs.entryAt? row step) ∧
      (t.Valid → 0 < t.rewards.rows → 0 < t.observations.features →
        dropped < t.rewards.cols → ∃ batch, b.build target t = .ok batch) := by
  refine ⟨fun rewards returns hreturns hsize => hreturns.estimate_eq_zero hsize hdrops, ?_⟩
  intro c replay b target t outputs hconfig hextra hreturns hpredict hscaled hsize
  obtain ⟨rfl, rfl, hplanExtra, hscale⟩ := ValueBatchBuilder.ofConfig_eq_ok hconfig
  have hextent : outputs.extent = t.rewards.extent :=
    (congrArg StepMatrix.extent hscaled).trans hreturns.extent
  have hzero : b.plan.Estimates b.estimator t (.ofSteps outputs)
      (.fill t.rewards.rows (t.rewards.cols - dropped) 0) := by
    intro steps hsteps
    obtain rfl : outputs = steps :=
      Option.some.inj ((StepTensor.toSteps?_ofSteps outputs).symm.trans hsteps)
    have hvalues : outputs.map (· * b.plan.scale) = t.returns := by
      simpa only [mul_comm] using hscaled
    rw [hplanExtra, hextra, hvalues]
    exact hreturns.estimate_eq_zero hsize hdrops
  exact ⟨fun batch hbatch => ValueBatchBuilder.targets_of_zero_advantages hpredict hextent hzero
      hsize (Config.valueScale_ne_zero hscale) hbatch,
    ValueBatchBuilder.exists_build_of_zero_advantages hpredict hextent hzero hsize⟩

/-- Returns of a discount of one half, and a value of half the return for every step. -/
def halvedReturns : Trajectory ℚ where
  observations := ⟨2, 3, 1, [1, 1, 2, 4, 4, 4], rfl⟩
  actions := .fill 2 3 1 0
  rewards := ⟨2, 3, [1, 0, 9, 4, 4, 9], rfl⟩
  returns := ⟨2, 3, [2, 2, 4, 8, 8, 8], rfl⟩
  logProbs := .fill 2 3 0
  mask := .fill 2 3 1

/-- A network whose value of a step is what is observed there. -/
def observedReturns : ValueTarget ℚ :=
  .make ⟨[], [], fun _ observations => .ok ⟨observations, fun _ => .ok []⟩⟩

def halvedConfig : Config :=
  { maxSliceLength := 2, addedPolicySliceLength := 1, scaleValueTargets := true }

/-- The scale is the discounted sum of ones, which is two. -/
theorem bellman_returns_are_fixed_halved :
    BellmanReturns (1 / 2) halvedReturns.rewards halvedReturns.returns ∧
    (Estimator.gae (1 / 4)).estimate halvedReturns.rewards halvedReturns.returns
      halvedReturns.returns (1 / 2) 1 = .ok (.fill 2 2 0) ∧
    ∃ b batch, ValueBatchBuilder.ofConfig halvedConfig (1 / 2) (Estimator.gae (1 / 4 : ℚ)) ⟨1⟩ =
        .ok b ∧ b.plan.scale = 2 ∧ b.build observedReturns halvedReturns = .ok batch ∧
      batch.targets.extent = (2, 2) ∧ ∀ row step, row < 2 → step < 2 →
        batch.targets.entryAt? row step 0 =
          halvedReturns.observations.entryAt? row step 0 := by
  have hreturns : BellmanReturns (1 / 2) halvedReturns.rewards halvedReturns.returns := by
    have hrecurrence : ∀ row < 2, ∀ step < 2, halvedReturns.returns.entry row step =
        halvedReturns.rewards.entry row step +
          1 / 2 * halvedReturns.returns.entry row (step + 1) := by decide +kernel
    exact ⟨rfl, fun row step hrow hstep => hrecurrence row hrow step (Nat.lt_of_succ_lt_succ hstep)⟩
  have hscale : halvedConfig.valueScale (1 / 2 : ℚ) = .ok 2 := by
    have hhalf : (0 : ℚ) ≤ 1 / 2 ∧ (1 / 2 : ℚ) < 1 := by norm_num
    exact (if_pos hhalf).trans (congrArg Except.ok (by norm_num))
  have hconfig : ValueBatchBuilder.ofConfig halvedConfig (1 / 2) (Estimator.gae (1 / 4 : ℚ)) ⟨1⟩ =
      .ok ⟨⟨1 / 2, 64, 3, 2, ⟨1⟩, 1, 2⟩, Estimator.gae (1 / 4)⟩ := by
    rw [ValueBatchBuilder.ofConfig, SlicePlan.ofConfig, hscale]
    rfl
  have hscaled : (StepMatrix.mk 2 3 [1, 1, 2, 4, 4, 4] rfl).map ((2 : ℚ) * ·) =
      halvedReturns.returns := by decide +kernel
  obtain ⟨hestimate, hbuilds⟩ := bellman_returns_are_fixed (.gae (1 / 4 : ℚ))
  obtain ⟨htargets, hbuild⟩ := hbuilds halvedConfig ⟨1⟩ _ observedReturns halvedReturns _ hconfig
    rfl hreturns rfl hscaled (by decide)
  obtain ⟨batch, hbatch⟩ := hbuild (Trajectory.valid_iff.2 (by decide)) (by decide) (by decide)
    (by decide)
  obtain ⟨hextent, hentry⟩ := htargets batch hbatch
  refine ⟨hreturns, hestimate _ _ hreturns (by decide), _, batch, hconfig, rfl, hbatch, hextent,
    fun row step hrow hstep => ?_⟩
  exact (hentry row step hrow hstep).trans (StepTensor.entryAt?_ofSteps _ row step).symm

end ActorCritic
