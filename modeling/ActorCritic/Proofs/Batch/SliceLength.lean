import ActorCritic.Proofs.Advantage.Bellman
import ActorCritic.Proofs.EpochSchedule

/-!
Whether the slices that the builders ask for are long enough. A request asks for at least one step
more than the steps that are only looked ahead to, and an estimator drops the steps that it has no
advantage for. A slice of a requested length keeps a step, and both builders make a batch of it,
where no more steps are dropped than are looked ahead to. Generalized advantage estimation drops
the last step of a slice even where none is looked ahead to. The request then admits single steps,
and neither builder can cut a batch from them: both give up, without an error to report.
-/

namespace ActorCritic

/-- A valid trajectory batch of the size that is asked for and of an admitted length. There is a
feature to observe and one to act on, and the rewards are as many as fit in memory. -/
structure Trajectory.Answers {α : Type} (t : Trajectory α) (request : SliceRequest) : Prop where
  valid : t.Valid
  batchSize : t.batchSize = request.batchSize
  min_le : ∀ shortest ∈ request.minSliceLength, shortest ≤ t.length
  le_max : t.length ≤ request.maxSliceLength
  observations : 0 < t.observations.features
  actions : 0 < t.actions.features
  size : t.rewards.entries.length < Count.limit

/-- The network has one number for every step of the observations. -/
def ValueTarget.Rates {α : Type} (target : ValueTarget α) (observations : StepTensor α) : Prop :=
  ∃ outputs, target.predict observations = .ok outputs ∧
    outputs.extent = observations.extent ∧ outputs.features = 1

/-- The estimator keeps no step of a slice although there is one that is not only looked ahead
to. -/
def Estimator.Spends {α : Type} [Scalar α] (e : Estimator α) (extraSteps length : Nat) : Prop :=
  (∃ lambda, e = gae lambda) ∧ extraSteps = 0 ∧ length = 1

/-- A build that makes a batch of so many steps, and at least one, or is refused where all are
spent. -/
structure BuildsUnless {β : Type} (spent : Prop) (build : Attempt ShapeError β)
    (extents : β → List (Nat × Nat)) (rows steps : Nat) : Prop where
  ok : ¬spent → ∃ batch, build = .ok batch ∧ 0 < steps ∧
    ∀ extent ∈ extents batch, extent = (rows, steps)
  refused : spent → build = .error (.abort .refused)

def ValueBatch.extents {α : Type} (batch : ValueBatch α) : List (Nat × Nat) :=
  [batch.observations, batch.targets, batch.mask].map StepTensor.extent

def PolicyBatch.allExtents {α : Type} (batch : PolicyBatch α) : List (Nat × Nat) :=
  batch.advantages.extent :: batch.extents.map Prod.snd

section Estimate

variable {α : Type} [Scalar α]

/-- Every estimator of this library gives a matrix with the steps that it does not drop. -/
theorem Estimator.Drops.exists_estimate {e : Estimator α} {extraSteps dropped : Nat}
    (hdrops : e.Drops extraSteps dropped) {rewards returns values : StepMatrix α}
    (hshape : OneShape rewards returns values) (gamma : α) :
    ∃ advantages, e.estimate rewards returns values gamma extraSteps = .ok advantages ∧
      advantages.extent = (rewards.rows, rewards.cols - dropped) := by
  cases hdrops with
  | monteCarlo => exact ⟨_, monteCarlo_estimate hshape gamma extraSteps, rfl⟩
  | kStep => exact ⟨_, kStep_estimate hshape gamma extraSteps, rfl⟩
  | tdLambda lambda => exact ⟨_, tdLambda_estimate hshape lambda gamma extraSteps, rfl⟩
  | gae lambda => exact ⟨_, gae_estimate hshape lambda gamma extraSteps, rfl⟩

/-- A slice with a step that is not only looked ahead to keeps one, with that exception. -/
theorem Estimator.Drops.spends_iff {e : Estimator α} {extraSteps dropped length : Nat}
    (hdrops : e.Drops extraSteps dropped) (hlength : extraSteps < length) :
    e.Spends extraSteps length ↔ length - dropped = 0 := by
  have hkept : length - extraSteps ≠ 0 := by omega
  have hother (hname : e.name ≠ "gae") : ¬e.Spends extraSteps length := by
    rintro ⟨⟨lambda, rfl⟩, -⟩
    exact hname rfl
  cases hdrops with
  | monteCarlo =>
      exact iff_of_false (hother (show "monte_carlo" ≠ "gae" by decide)) hkept
  | kStep => exact iff_of_false (hother (show "td_k" ≠ "gae" by decide)) hkept
  | tdLambda lambda =>
      exact iff_of_false (hother (show "td_lambda" ≠ "gae" by decide)) hkept
  | gae lambda =>
      constructor
      · rintro ⟨-, rfl, rfl⟩
        rfl
      · intro hnone
        exact ⟨⟨lambda, rfl⟩, by omega, by omega⟩

end Estimate

/-- Where there are steps, a range of none of them is refused. -/
theorem StepTensor.timePrefix_zero {α : Type} {x : StepTensor α} (hsome : 0 < x.time) :
    (x.timePrefix 0 : Attempt ShapeError _) = .error (.abort .refused) := by
  have hprefix : x.timePrefix 0 = .error .refused := by
    rw [timePrefix, dif_neg (Nat.not_le.2 hsome), if_pos (.inl rfl)]
  exact Attempt.mapError_eq_error.2 ⟨.refused, hprefix, rfl⟩

/-- Without advantages there is nothing to cut the observations to. -/
theorem Fits.observations_refused {α : Type} {t : Trajectory α} {outputs : StepTensor α}
    {advantages : StepMatrix α} {batchSize : Option Nat}
    (hfits : Fits t outputs advantages batchSize) (hnone : advantages.cols = 0)
    (hsome : 0 < t.rewards.cols) :
    (t.observations.timePrefix advantages.cols : Attempt ShapeError _) =
      .error (.abort .refused) := by
  have htime : t.observations.time = t.rewards.cols :=
    congrArg Prod.snd (Trajectory.valid_iff.1 hfits.valid).1
  rw [hnone]
  exact StepTensor.timePrefix_zero (htime ▸ hsome)

section Refusal

variable {α : Type} {target : ValueTarget α} {t : Trajectory α} {outputs : StepTensor α}
  {advantages : StepMatrix α} (hpredict : target.predict t.observations = .ok outputs)
  (hextent : outputs.extent = t.observations.extent)
  (hnone : advantages.cols = 0) (hsome : 0 < t.rewards.cols)
include hpredict hextent hnone hsome

/-- A value batch without steps is given up where the observations are cut. -/
theorem ValueBatchBuilder.build_refused [Add α] [Mul α] [Div α] {b : ValueBatchBuilder α}
    (hestimates : b.plan.Estimates b.estimator t outputs advantages)
    (hfits : Fits t outputs advantages none) (hsize : t.rewards.entries.length < Count.limit) :
    b.build target t = .error (.abort .refused) := by
  obtain ⟨steps, hsteps⟩ := StepTensor.exists_toSteps? hfits.channel
  obtain ⟨targets, htargets, -⟩ := hfits.exists_targets hextent hsize hsteps b.plan.scale
  have hcut := hfits.observations_refused hnone hsome
  unfold build
  rw [Trajectory.lift_validate_of_valid hfits.valid, Attempt.ok_bind,
    valueEstimates_eq_ok hpredict hsteps, Attempt.ok_bind,
    estimateAdvantages_eq_ok (hestimates steps hsteps) hfits.rows hfits.cols, Attempt.ok_bind]
  simp only [htargets, hcut, Attempt.ok_bind, Attempt.error_bind]

/-- So is a policy batch. -/
theorem PolicyBatchBuilder.build_refused [Mul α] {b : PolicyBatchBuilder α}
    (hestimates : b.plan.Estimates b.algorithm.estimator t outputs advantages)
    (hfits : Fits t outputs advantages (some b.plan.batchSize)) :
    b.build target t = .error (.abort .refused) := by
  obtain ⟨steps, hsteps⟩ := StepTensor.exists_toSteps? hfits.channel
  have hcut := hfits.observations_refused hnone hsome
  rw [build_of_valid hpredict hextent hfits.valid hsteps,
    if_neg (not_not_intro (hfits.batchSize _ rfl)), policyInputs_eq,
    estimateAdvantages_eq_ok (hestimates steps hsteps) hfits.rows hfits.cols, Attempt.ok_bind]
  simp only [PolicyBatch.cut, hcut, Attempt.error_bind]

end Refusal

section Requested

variable {α : Type} [Scalar α]

/-- Values of one channel lead to advantages for the steps that the estimator does not drop. -/
theorem SlicePlan.exists_estimates {p : SlicePlan α} {e : Estimator α} {dropped : Nat}
    (hdrops : e.Drops p.extraSteps dropped) {t : Trajectory α} {outputs : StepTensor α}
    (hvalid : t.Valid) (hextent : outputs.extent = t.observations.extent)
    (hchannel : outputs.features = 1) (hsize : t.rewards.entries.length < Count.limit) :
    ∃ advantages, p.Estimates e t outputs advantages ∧
      advantages.extent = (t.rewards.rows, t.rewards.cols - dropped) := by
  obtain ⟨hobservations, -, hreturns, -⟩ := Trajectory.valid_iff.1 hvalid
  obtain ⟨steps, hsteps⟩ := StepTensor.exists_toSteps? hchannel
  obtain ⟨-, hstepsExtent, -⟩ := StepTensor.entryAt?_of_toSteps? hsteps
  have hvalues : (steps.map (· * p.scale)).extent = t.rewards.extent :=
    hstepsExtent.trans (hextent.trans hobservations)
  obtain ⟨advantages, hestimate, hadvantages⟩ :=
    hdrops.exists_estimate ⟨hreturns, hvalues, hsize⟩ p.gamma
  refine ⟨advantages, fun read hread => ?_, hadvantages⟩
  obtain rfl : steps = read := Option.some.inj (hsteps.symm.trans hread)
  exact hestimate

theorem Config.lengths_eq_ok {c : Config} (hlongest : 0 < c.maxSliceLength)
    (hfits : c.maxSliceLength + c.addedPolicySliceLength < Count.limit) :
    c.totalSliceLength = .ok (c.maxSliceLength + c.addedPolicySliceLength) ∧
      c.minSliceLength = .ok (1 + c.addedPolicySliceLength) :=
  ⟨Count.add_eq_ok.2 ⟨hfits, rfl⟩, Count.add_eq_ok.2 ⟨by omega, rfl⟩⟩

/-- A configuration whose lengths are counts gives the same plan for every number of rows. -/
theorem SlicePlan.ofConfig_eq_ok {c : Config} {gamma scale : α} (hlongest : 0 < c.maxSliceLength)
    (hfits : c.maxSliceLength + c.addedPolicySliceLength < Count.limit)
    (hscale : c.valueScale gamma = .ok scale) (batchSize : Nat) (replay : ReplayWindow) :
    ofConfig c batchSize replay gamma =
      .ok ⟨gamma, batchSize, c.maxSliceLength + c.addedPolicySliceLength,
        1 + c.addedPolicySliceLength, replay, c.addedPolicySliceLength, scale⟩ := by
  obtain ⟨hmax, hmin⟩ := Config.lengths_eq_ok hlongest hfits
  rw [ofConfig, hscale, hmax, hmin]
  rfl

variable {p : SlicePlan α} {e : Estimator α} {dropped : Nat} {target : ValueTarget α}
  {t : Trajectory α} (hshortest : p.minSliceLength = 1 + p.extraSteps)
  (hanswers : t.Answers p.request)

include hshortest hanswers in
omit [Scalar α] in
/-- Not all steps of a slice that is asked for are only looked ahead to. -/
theorem SlicePlan.extraSteps_lt : p.extraSteps < t.length := by
  have hmin : p.minSliceLength ≤ t.length := hanswers.min_le _ rfl
  omega

include hanswers in
omit [Scalar α] in
theorem SlicePlan.rows_pos (hbatchSize : 0 < p.batchSize) : 0 < t.rewards.rows :=
  Nat.lt_of_lt_of_eq hbatchSize hanswers.batchSize.symm

variable (hdrops : e.Drops p.extraSteps dropped) (hbatchSize : 0 < p.batchSize)
  (hrates : target.Rates t.observations)

include hanswers hdrops hrates in
/-- The outputs and the advantages that both builds make of a slice fit. -/
theorem SlicePlan.exists_fits :
    ∃ outputs advantages, target.predict t.observations = .ok outputs ∧
      outputs.extent = t.observations.extent ∧ p.Estimates e t outputs advantages ∧
      advantages.cols = t.length - dropped ∧ Fits t outputs advantages (some p.batchSize) := by
  obtain ⟨outputs, hpredict, hextent, hchannel⟩ := hrates
  obtain ⟨advantages, hestimates, hadvantages⟩ :=
    exists_estimates hdrops hanswers.valid hextent hchannel hanswers.size
  have hcols : advantages.cols = t.length - dropped := congrArg Prod.snd hadvantages
  refine ⟨outputs, advantages, hpredict, hextent, hestimates, hcols, ?_⟩
  constructor
  case valid => exact hanswers.valid
  case channel => exact hchannel
  case batchSize =>
    rintro n ⟨⟩
    exact hanswers.batchSize
  case rows => exact congrArg Prod.fst hadvantages
  case cols =>
    rw [hcols]
    exact Nat.sub_le _ _

include hshortest hanswers hdrops hbatchSize hrates

theorem ValueBatchBuilder.build_unless_spent :
    BuildsUnless (e.Spends p.extraSteps t.length) (build ⟨p, e⟩ target t) ValueBatch.extents
      t.batchSize (t.length - dropped) := by
  obtain ⟨outputs, advantages, hpredict, hextent, hestimates, hcols, hfits⟩ :=
    SlicePlan.exists_fits hanswers hdrops hrates
  have hlength := SlicePlan.extraSteps_lt hshortest hanswers
  have hspends := hdrops.spends_iff hlength
  have hfits : Fits t outputs advantages none := { hfits with batchSize := nofun }
  constructor
  case ok =>
    intro hkept
    have hpos : 0 < t.length - dropped := Nat.pos_of_ne_zero (mt hspends.2 hkept)
    obtain ⟨batch, hbatch, hcut⟩ := exists_build (b := ⟨p, e⟩) hpredict hextent hestimates hfits
      (SlicePlan.rows_pos hanswers hbatchSize) hanswers.observations (.inl (hcols ▸ hpos))
      hanswers.size
    exact ⟨batch, hbatch, hpos, hcols ▸ List.forall_mem_map.2 hcut.extents⟩
  case refused =>
    intro hspent
    exact build_refused hpredict hextent (hcols.trans (hspends.1 hspent))
      (Nat.zero_lt_of_lt hlength) hestimates hfits hanswers.size

theorem PolicyBatchBuilder.build_unless_spent {algorithm : Algorithm α}
    (he : algorithm.estimator = e) :
    BuildsUnless (e.Spends p.extraSteps t.length) (build ⟨p, algorithm⟩ target t)
      PolicyBatch.allExtents t.batchSize (t.length - dropped) := by
  subst he
  obtain ⟨outputs, advantages, hpredict, hextent, hestimates, hcols, hfits⟩ :=
    SlicePlan.exists_fits hanswers hdrops hrates
  have hlength := SlicePlan.extraSteps_lt hshortest hanswers
  have hspends := hdrops.spends_iff hlength
  constructor
  case ok =>
    intro hkept
    have hpos : 0 < t.length - dropped := Nat.pos_of_ne_zero (mt hspends.2 hkept)
    obtain ⟨batch, hbatch, hcut⟩ := exists_build (b := ⟨p, algorithm⟩) hpredict hextent hestimates
      hfits (SlicePlan.rows_pos hanswers hbatchSize) hanswers.observations hanswers.actions
      (.inl (hcols ▸ hpos))
    exact ⟨batch, hbatch, hpos, hcols ▸ hcut.extents⟩
  case refused =>
    intro hspent
    exact build_refused hpredict hextent (hcols.trans (hspends.1 hspent))
      (Nat.zero_lt_of_lt hlength) hestimates hfits

omit hshortest hanswers hdrops hbatchSize hrates

/-- Both builders that a valid configuration leads to make batches of all slices that they ask for,
with a step for every one that the estimator does not drop. Only slices that the estimator spends
are refused: single steps, asked for where none is looked ahead to. The discount is one that values
can be scaled with, the numbers may be of any kind, and the value network may be any that has one
number for every step. -/
theorem requested_slices_build_unless_spent {c : Config} {algorithm : Algorithm α}
    (replay : ReplayWindow) {gamma scale : α} {dropped : Nat}
    (hvalid : c.validate = (.ok () : Except (ConfigError α) Unit))
    (hfits : c.maxSliceLength + c.addedPolicySliceLength < Count.limit)
    (hscale : c.valueScale gamma = .ok scale)
    (hdrops : algorithm.estimator.Drops c.addedPolicySliceLength dropped) :
    ∃ value policy,
      ValueBatchBuilder.ofConfig c gamma algorithm.estimator replay = .ok value ∧
      PolicyBatchBuilder.ofConfig c gamma algorithm replay = .ok policy ∧
      ∀ (target : ValueTarget α) (t : Trajectory α), target.Rates t.observations →
        (t.Answers value.plan.request →
          BuildsUnless (algorithm.estimator.Spends c.addedPolicySliceLength t.length)
            (value.build target t) ValueBatch.extents t.batchSize (t.length - dropped)) ∧
        (t.Answers policy.plan.request →
          BuildsUnless (algorithm.estimator.Spends c.addedPolicySliceLength t.length)
            (policy.build target t) PolicyBatch.allExtents t.batchSize (t.length - dropped)) := by
  obtain ⟨hpos, -, -⟩ := Config.validate_eq_ok.1 hvalid
  have hvalue : 0 < c.valueBatchSize := Nat.pos_of_ne_zero (hpos .valueBatchSize (by decide))
  have hpolicy : 0 < c.policyBatchSize := Nat.pos_of_ne_zero (hpos .policyBatchSize (by decide))
  have hplan (batchSize : Nat) : SlicePlan.ofConfig c batchSize replay gamma = _ :=
    SlicePlan.ofConfig_eq_ok (Nat.pos_of_ne_zero (hpos .maxSliceLength (by decide))) hfits hscale
      batchSize replay
  refine ⟨_, _, Attempt.bind_eq_ok.2 ⟨_, hplan c.valueBatchSize, rfl⟩,
    Attempt.bind_eq_ok.2 ⟨_, hplan c.policyBatchSize, rfl⟩, fun target t hrates => ⟨?_, ?_⟩⟩
  · intro hanswers
    exact ValueBatchBuilder.build_unless_spent rfl hanswers hdrops hvalue hrates
  · intro hanswers
    exact PolicyBatchBuilder.build_unless_spent rfl hanswers hdrops hpolicy hrates rfl

end Requested

/-- One row of steps that are all alike. -/
def rowOfSteps (length : Nat) : Trajectory Float32 where
  observations := .fill 1 length 1 1
  actions := .fill 1 length 1 0
  rewards := .fill 1 length 1
  returns := .fill 1 length 1
  logProbs := .fill 1 length 0
  mask := .fill 1 length 1

/-- One row per batch, of one step and the steps that are only looked ahead to. -/
def rowConfig (extraSteps : Nat) : Config :=
  { valueBatchSize := 1, policyBatchSize := 1, addedPolicySliceLength := extraSteps }

def rowPlan (extraSteps : Nat) : SlicePlan Float32 :=
  ⟨0.5, 1, 1 + extraSteps, 1 + extraSteps, ⟨1⟩, extraSteps, 1⟩

def gaeAlgorithm : Algorithm Float32 :=
  ⟨.a2c, { AdvantageSettings.standard with estimator := .gae Estimator.defaultLambda }⟩

theorem rowOfSteps_answers (extraSteps : Nat) (hfits : 1 + extraSteps < Count.limit) :
    (rowOfSteps (1 + extraSteps)).Answers (rowPlan extraSteps).request := by
  have hsize : (rowOfSteps (1 + extraSteps)).rewards.entries.length = 1 * (1 + extraSteps) :=
    List.length_replicate
  constructor
  case valid => exact Trajectory.valid_iff.2 ⟨rfl, rfl, rfl, rfl, rfl⟩
  case batchSize => rfl
  case min_le =>
    rintro shortest ⟨⟩
    exact Nat.le_refl _
  case le_max => exact Nat.le_refl _
  case observations => exact Nat.one_pos
  case actions => exact Nat.one_pos
  case size => omega

/-- Where one step is looked ahead to, a slice of two steps is long enough. -/
theorem requested_slices_build_unless_spent_two_steps :
    ∃ value policy,
      ValueBatchBuilder.ofConfig (rowConfig 1) 0.5 gaeAlgorithm.estimator ⟨1⟩ = .ok value ∧
      PolicyBatchBuilder.ofConfig (rowConfig 1) 0.5 gaeAlgorithm ⟨1⟩ = .ok policy ∧
      (∃ batch, value.build (risingTarget 1) (rowOfSteps 2) = .ok batch ∧
        ∀ extent ∈ batch.extents, extent = (1, 1)) ∧
      ∃ batch, policy.build (risingTarget 1) (rowOfSteps 2) = .ok batch ∧
        ∀ extent ∈ batch.allExtents, extent = (1, 1) := by
  have hscale : (rowConfig 1).valueScale (0.5 : Float32) = .ok 1 := rfl
  have hdrops : gaeAlgorithm.estimator.Drops 1 1 := .gae Estimator.defaultLambda
  have hanswers : (rowOfSteps 2).Answers (rowPlan 1).request := rowOfSteps_answers 1 (by decide)
  have hrates : (risingTarget 1).Rates (rowOfSteps 2).observations := by
    refine ⟨_, rfl, ?_, ?_⟩
    · rfl
    · rfl
  have hkept : ¬gaeAlgorithm.estimator.Spends 1 2 := fun hspent => Nat.one_ne_zero hspent.2.1
  obtain ⟨value, policy, hvalue, hpolicy, hbuilds⟩ :=
    requested_slices_build_unless_spent ⟨1⟩ rfl (by decide) hscale hdrops
  have hvalueBuilder : ValueBatchBuilder.ofConfig (rowConfig 1) 0.5 gaeAlgorithm.estimator ⟨1⟩ =
      .ok ⟨rowPlan 1, gaeAlgorithm.estimator⟩ := rfl
  have hpolicyBuilder : PolicyBatchBuilder.ofConfig (rowConfig 1) 0.5 gaeAlgorithm ⟨1⟩ =
      .ok ⟨rowPlan 1, gaeAlgorithm⟩ := rfl
  cases hvalueBuilder.symm.trans hvalue
  cases hpolicyBuilder.symm.trans hpolicy
  obtain ⟨hvalueBuild, hpolicyBuild⟩ := hbuilds (risingTarget 1) (rowOfSteps 2) hrates
  obtain ⟨batch, hbatch, -, hextents⟩ := (hvalueBuild hanswers).ok hkept
  obtain ⟨policyBatch, hpolicyBatch, -, hpolicyExtents⟩ := (hpolicyBuild hanswers).ok hkept
  exact ⟨_, _, hvalue, hpolicy, ⟨batch, hbatch, hextents⟩, policyBatch, hpolicyBatch,
    hpolicyExtents⟩

/-- Where none is looked ahead to, a single step answers both requests of a valid configuration, and
neither builder makes a batch of it. -/
theorem single_steps_are_asked_for_and_refused :
    (rowConfig 0).validate = (.ok () : Except (ConfigError Float32) Unit) ∧
    ReplayWindow.make (rowConfig 0).replayEpochs gaeAlgorithm.isOnPolicy gaeAlgorithm.name =
      (.ok ⟨1⟩ : Except (ConfigError Float32) ReplayWindow) ∧
    (risingTarget 1).Rates (rowOfSteps 1).observations ∧
    ∃ value policy,
      ValueBatchBuilder.ofConfig (rowConfig 0) 0.5 gaeAlgorithm.estimator ⟨1⟩ = .ok value ∧
      PolicyBatchBuilder.ofConfig (rowConfig 0) 0.5 gaeAlgorithm ⟨1⟩ = .ok policy ∧
      (rowOfSteps 1).Answers value.plan.request ∧ (rowOfSteps 1).Answers policy.plan.request ∧
      value.build (risingTarget 1) (rowOfSteps 1) = .error (.abort .refused) ∧
      policy.build (risingTarget 1) (rowOfSteps 1) = .error (.abort .refused) := by
  have hanswers : (rowOfSteps 1).Answers (rowPlan 0).request := rowOfSteps_answers 0 (by decide)
  have hrates : (risingTarget 1).Rates (rowOfSteps 1).observations := by
    refine ⟨_, rfl, ?_, ?_⟩
    · rfl
    · rfl
  exact ⟨rfl, rfl, hrates, ⟨rowPlan 0, gaeAlgorithm.estimator⟩, ⟨rowPlan 0, gaeAlgorithm⟩, rfl,
    rfl, hanswers, hanswers, rfl, rfl⟩

end ActorCritic
