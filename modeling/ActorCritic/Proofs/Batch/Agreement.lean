import ActorCritic.Coordinator
import ActorCritic.Proofs.Action
import ActorCritic.Proofs.Batch.Acceptance
import ActorCritic.Proofs.Network.Steps

/-!
The value batch and the policy batch of one trajectory batch. The builders of a coordinator start
with the same values and the same advantages. A batch with as many rows as the policy asks for is
therefore cut to the same steps by both, or refused by both for the same reason, and the targets of
the value network are made of the advantages that the policy is trained on.
-/

namespace ActorCritic

variable {α : Type}

section Estimates

variable {estimator : Estimator α} {target : ValueTarget α} {t : Trajectory α}
  {values advantages : StepMatrix α}

theorem Trajectory.valid_of_validate (h : t.validate = .ok ()) : t.Valid := by
  unfold validate at h
  split at h
  · next hnone =>
      intro field hfield
      simpa using List.find?_eq_none.1 hnone field hfield
  · cases h

theorem estimate_of_estimateAdvantages {context : AdvantageContext α}
    (h : estimateAdvantages estimator t values context = .ok advantages) :
    estimator.estimate t.rewards t.returns values context.gamma context.extraSteps =
        .ok advantages ∧
      advantages.rows = t.rewards.rows ∧ advantages.cols ≤ t.rewards.cols := by
  obtain ⟨estimated, hestimate, h⟩ := Attempt.bind_eq_ok.1 h
  obtain ⟨hfits, h⟩ := Attempt.guard_eq_ok.1 h
  cases h
  exact ⟨Attempt.mapError_eq_ok.1 hestimate, by omega, by omega⟩

variable [Mul α] {p : SlicePlan α}

theorem exists_outputs_of_valueEstimates {scale : α}
    (h : valueEstimates target t scale = .ok values) :
    ∃ outputs steps, target.predict t.observations = .ok outputs ∧
      outputs.toSteps? = some steps ∧ values = steps.map (· * scale) := by
  obtain ⟨outputs, hpredict, h⟩ := Attempt.bind_eq_ok.1 h
  split at h
  · cases h
  · next steps hsteps =>
      exact ⟨outputs, steps, Attempt.mapError_eq_ok.1 hpredict, hsteps,
        (Attempt.pure_eq_ok.1 h).symm⟩

/-- The values of a trajectory batch and its advantages, which both builders start with. -/
def SlicePlan.estimates (p : SlicePlan α) (estimator : Estimator α) (target : ValueTarget α)
    (t : Trajectory α) : Attempt ShapeError (StepMatrix α × StepMatrix α) := do
  t.validate
  let values ← valueEstimates target t p.scale
  let advantages ← estimateAdvantages estimator t values p.context
  return (values, advantages)

theorem SlicePlan.estimates_eq_ok :
    p.estimates estimator target t = .ok (values, advantages) ↔
      t.validate = .ok () ∧ valueEstimates target t p.scale = .ok values ∧
        estimateAdvantages estimator t values p.context = .ok advantages := by
  unfold estimates
  simp only [Attempt.bind_eq_ok, Attempt.pure_eq_ok, Prod.mk.injEq]
  constructor
  · rintro ⟨⟨⟩, hvalidate, v, hvalues, a, hadvantages, rfl, rfl⟩
    exact ⟨Attempt.mapError_eq_ok.1 hvalidate, hvalues, hadvantages⟩
  · rintro ⟨hvalidate, hvalues, hadvantages⟩
    exact ⟨(), Attempt.mapError_eq_ok.2 hvalidate, values, hvalues, advantages, hadvantages,
      rfl, rfl⟩

/-- Values have the extents of the rewards where the network keeps rows and steps. -/
theorem extent_of_valueEstimates (hnetwork : target.network.KeepsSteps) (hvalid : t.Valid)
    {scale : α} (h : valueEstimates target t scale = .ok values) :
    values.extent = t.rewards.extent := by
  obtain ⟨outputs, steps, hpredict, hsteps, rfl⟩ := exists_outputs_of_valueEstimates h
  obtain ⟨-, hextent, -⟩ := StepTensor.entryAt?_of_toSteps? hsteps
  exact (hextent.trans (hnetwork _ _ hpredict)).trans (Trajectory.valid_iff.1 hvalid).1

/-- What is estimated are outputs, scaled, that fit the trajectory batch, and so do the
advantages. -/
theorem SlicePlan.fits_of_estimates
    (h : p.estimates estimator target t = .ok (values, advantages)) :
    ∃ outputs steps, target.predict t.observations = .ok outputs ∧
      outputs.toSteps? = some steps ∧ values = steps.map (· * p.scale) ∧
      Fits t outputs advantages none := by
  obtain ⟨hvalidate, hvalues, hadvantages⟩ := estimates_eq_ok.1 h
  obtain ⟨outputs, steps, hpredict, hsteps, rfl⟩ := exists_outputs_of_valueEstimates hvalues
  obtain ⟨hchannel, -⟩ := StepTensor.entryAt?_of_toSteps? hsteps
  obtain ⟨-, hrows, hcols⟩ := estimate_of_estimateAdvantages hadvantages
  exact ⟨outputs, steps, hpredict, hsteps, rfl, Trajectory.valid_of_validate hvalidate, hchannel,
    nofun, hrows, hcols⟩

end Estimates

/-- A value batch and a policy batch of the same steps. The targets of the one are the given values
and the advantages of the other, over the scale. -/
structure ValueBatch.Matches [Add α] [Div α] (batch : ValueBatch α) (policy : PolicyBatch α)
    (rows : Nat) (values : StepMatrix α) (scale : α) : Prop where
  extents : ∀ extent ∈ [batch.observations.extent, batch.targets.extent, batch.mask.extent] ++
    policy.advantages.extent :: policy.extents.map Prod.snd,
      extent = (rows, policy.advantages.cols)
  observations : batch.observations = policy.observations
  mask : batch.mask = StepTensor.ofSteps policy.mask
  targets : ∀ row step, row < rows → step < policy.advantages.cols →
    ∃ v a, values.entryAt? row step = some v ∧ policy.advantages.entryAt? row step = some a ∧
      batch.targets.entryAt? row step 0 = some ((v + a) / scale)

section Builders

variable {target : ValueTarget α} {t : Trajectory α} {values advantages : StepMatrix α}

/-- The policy batch of known advantages. -/
def PolicyBatch.cut (t : Trajectory α) (advantages : StepMatrix α) :
    Attempt ShapeError (PolicyBatch α) := do
  let batch : PolicyBatch α := {
    observations := ← t.observations.timePrefix advantages.cols
    actions := ← t.actions.timePrefix advantages.cols
    advantages := advantages
    oldLogProbs := ← t.logProbs.timePrefix advantages.cols
    mask := ← t.mask.timePrefix advantages.cols }
  match batch.extents.find? fun field => field.2 ≠ advantages.extent with
  | some (field, actual) => Attempt.fail (.policyInput field advantages.extent actual)
  | none => return batch

theorem policyInputs_eq (estimator : Estimator α) (t : Trajectory α) (values : StepMatrix α)
    (context : AdvantageContext α) :
    policyInputs estimator t values context =
      estimateAdvantages estimator t values context >>= PolicyBatch.cut t := rfl

theorem PolicyBatch.exists_cut {outputs : StepTensor α} {batchSize : Option Nat}
    (hfits : Fits t outputs advantages batchSize) (hrows : 0 < t.rewards.rows)
    (hobservations : 0 < t.observations.features) (hactions : 0 < t.actions.features)
    (hkept : 0 < advantages.cols) :
    ∃ batch, cut t advantages = .ok batch ∧ batch.advantages = advantages ∧
      (t.observations.timePrefix advantages.cols : Attempt ShapeError _) =
        .ok batch.observations ∧
      (t.mask.timePrefix advantages.cols : Attempt ShapeError _) = .ok batch.mask ∧
      ∀ extent ∈ batch.advantages.extent :: batch.extents.map Prod.snd,
        extent = (t.rewards.rows, advantages.cols) := by
  obtain ⟨hobsExtent, hactExtent, -, hlogExtent, hmaskExtent⟩ :=
    Trajectory.valid_iff.1 hfits.valid
  obtain ⟨observations, hobsCut, -, hobsKept⟩ :=
    hfits.exists_tensor_prefix hrows (.inl hkept) hobsExtent hobservations
  obtain ⟨actions, hactCut, -, hactKept⟩ :=
    hfits.exists_tensor_prefix hrows (.inl hkept) hactExtent hactions
  obtain ⟨oldLogProbs, hlogCut, -, hlogKept⟩ :=
    hfits.exists_matrix_prefix hrows (.inl hkept) hlogExtent
  obtain ⟨mask, hmaskCut, -, hmaskKept⟩ :=
    hfits.exists_matrix_prefix hrows (.inl hkept) hmaskExtent
  let batch : PolicyBatch α := ⟨observations, actions, advantages, oldLogProbs, mask⟩
  have hextent : advantages.extent = (t.rewards.rows, advantages.cols) := Prod.ext hfits.rows rfl
  have hagree : batch.extents.find? (fun field => field.2 ≠ advantages.extent) = none := by
    simp [batch, extents, hobsKept, hactKept, hlogKept, hmaskKept, hextent]
  refine ⟨batch, ?_, rfl, hobsCut, hmaskCut, ?_⟩
  · simp only [cut, hobsCut, hactCut, hlogCut, hmaskCut, Attempt.ok_bind]
    rw [hagree]
    rfl
  · simp [batch, extents, hobsKept, hactKept, hlogKept, hmaskKept, hextent]

variable [Mul α]

/-- A value batch is cut after the values and the advantages are known. -/
theorem ValueBatchBuilder.build_eq [Add α] [Div α] (b : ValueBatchBuilder α)
    (target : ValueTarget α) (t : Trajectory α) :
    b.build target t = (do
      let (values, advantages) ← b.plan.estimates b.estimator target t
      let targets ← StepMatrix.ofEntries advantages.rows advantages.cols
        (List.zipWith (fun v a => (v + a) / b.plan.scale)
          (values.truncate advantages.cols).entries advantages.entries)
      return {
        observations := ← t.observations.timePrefix advantages.cols
        targets := StepTensor.ofSteps targets
        mask := StepTensor.ofSteps (← t.mask.timePrefix advantages.cols) }) := by
  unfold build SlicePlan.estimates
  simp only [bind_assoc, pure_bind]

/-- The target of a step is its value and its advantage, over the scale. -/
theorem ValueBatchBuilder.targets_of_build [Add α] [Div α] {b : ValueBatchBuilder α}
    {batch : ValueBatch α} (hextent : values.extent = t.rewards.extent)
    (hsize : t.rewards.entries.length < Count.limit)
    (hestimates : b.plan.estimates b.estimator target t = .ok (values, advantages))
    (h : b.build target t = .ok batch) :
    batch.targets.extent = advantages.extent ∧
      ∀ row step, row < t.rewards.rows → step < advantages.cols →
        ∃ v a, values.entryAt? row step = some v ∧ advantages.entryAt? row step = some a ∧
          batch.targets.entryAt? row step 0 = some ((v + a) / b.plan.scale) := by
  obtain ⟨outputs, steps, -, hsteps, rfl, hfits⟩ := SlicePlan.fits_of_estimates hestimates
  obtain ⟨-, hstepsExtent, hentry⟩ := StepTensor.entryAt?_of_toSteps? hsteps
  have hobservations : outputs.extent = t.observations.extent :=
    (hstepsExtent.symm.trans hextent).trans (Trajectory.valid_iff.1 hfits.valid).1.symm
  obtain ⟨targets, htargets, htargetsExtent, htargetsEntry⟩ :=
    hfits.exists_targets hobservations hsize hsteps b.plan.scale
  rw [build_eq, hestimates, Attempt.ok_bind] at h
  simp only [htargets, Attempt.ok_bind] at h
  obtain ⟨observations, -, h⟩ := Attempt.bind_eq_ok.1 h
  obtain ⟨mask, -, h⟩ := Attempt.bind_eq_ok.1 h
  cases Attempt.pure_eq_ok.1 h
  refine ⟨htargetsExtent.trans (Prod.ext hfits.rows.symm rfl), fun row step hrow hstep => ?_⟩
  obtain ⟨v, a, hv, ha, htarget⟩ := htargetsEntry row step hrow hstep
  refine ⟨v * b.plan.scale, a, ?_, ha, (StepTensor.entryAt?_ofSteps _ _ _).trans htarget⟩
  rw [StepMatrix.entryAt?_map, hentry, hv]
  rfl

/-- So is a policy batch, if there are as many rows as it asks for. -/
theorem PolicyBatchBuilder.build_eq {b : PolicyBatchBuilder α}
    (hnetwork : target.network.KeepsSteps) (hrows : t.batchSize = b.plan.batchSize) :
    b.build target t = (do
      let (_, advantages) ← b.plan.estimates b.algorithm.estimator target t
      PolicyBatch.cut t advantages) := by
  unfold build SlicePlan.estimates
  simp only [bind_assoc, pure_bind, policyInputs_eq]
  refine Attempt.bind_congr fun ⟨⟩ hvalidate => ?_
  refine Attempt.bind_congr fun values hvalues => ?_
  have hvalid := Trajectory.valid_of_validate (Attempt.mapError_eq_ok.1 hvalidate)
  have hextent := extent_of_valueEstimates hnetwork hvalid hvalues
  have hsize : values.rows = b.plan.batchSize := (congrArg Prod.fst hextent).trans hrows
  rw [if_neg (not_not_intro hsize)]

/-- Values and advantages that are known are cut to matching batches. -/
theorem ValueBatchBuilder.build_matches [Add α] [Div α] {b : ValueBatchBuilder α}
    (hnetwork : target.network.KeepsSteps) (hrows : 0 < t.batchSize)
    (hobservations : 0 < t.observations.features) (hactions : 0 < t.actions.features)
    (hsize : t.rewards.entries.length < Count.limit)
    (hestimates : b.plan.estimates b.estimator target t = .ok (values, advantages))
    (hkept : 0 < advantages.cols) :
    ∃ batch policy, b.build target t = .ok batch ∧ PolicyBatch.cut t advantages = .ok policy ∧
      batch.Matches policy t.batchSize values b.plan.scale := by
  obtain ⟨-, hvalues, -⟩ := SlicePlan.estimates_eq_ok.1 hestimates
  obtain ⟨outputs, steps, hpredict, hsteps, rfl, hfits⟩ := SlicePlan.fits_of_estimates hestimates
  have hvaluesExtent := extent_of_valueEstimates hnetwork hfits.valid hvalues
  obtain ⟨targets, htargets, -⟩ :=
    hfits.exists_targets (hnetwork _ _ hpredict) hsize hsteps b.plan.scale
  obtain ⟨policy, hpolicy, rfl, hobsCut, hmaskCut, hextents⟩ :=
    PolicyBatch.exists_cut hfits hrows hobservations hactions hkept
  have hbuild : b.build target t =
      .ok ⟨policy.observations, .ofSteps targets, .ofSteps policy.mask⟩ := by
    rw [build_eq, hestimates, Attempt.ok_bind]
    simp only [htargets, hobsCut, hmaskCut, Attempt.ok_bind]
    rfl
  obtain ⟨htargetsExtent, htargetsEntry⟩ := targets_of_build hvaluesExtent hsize hestimates hbuild
  refine ⟨_, policy, hbuild, hpolicy, ?_⟩
  constructor
  case extents =>
    intro extent hextent
    obtain hextent | hextent := List.mem_append.1 hextent
    · have hobservations := hextents policy.observations.extent (by simp [PolicyBatch.extents])
      have hmask := hextents policy.mask.extent (by simp [PolicyBatch.extents])
      simp only [List.mem_cons, List.not_mem_nil, or_false] at hextent
      obtain rfl | rfl | rfl := hextent
      · exact hobservations
      · exact htargetsExtent.trans (Prod.ext hfits.rows rfl)
      · exact hmask
    · exact hextents extent hextent
  case observations => rfl
  case mask => rfl
  case targets => exact htargetsEntry

end Builders

section Coordinator

variable [Scalar α]

/-- The plans of one configuration differ only in the number of rows that they ask for. -/
theorem SlicePlan.ofConfig_batchSize {c : Config} {m n : Nat} {replay : ReplayWindow} {gamma : α}
    {p q : SlicePlan α} (hp : ofConfig c m replay gamma = .ok p)
    (hq : ofConfig c n replay gamma = .ok q) : q = { p with batchSize := n } := by
  obtain ⟨scale, hscale, hp⟩ := Attempt.bind_eq_ok.1 hp
  obtain ⟨longest, hlongest, hp⟩ := Attempt.bind_eq_ok.1 hp
  obtain ⟨shortest, hshortest, hp⟩ := Attempt.bind_eq_ok.1 hp
  cases hp
  simp only [ofConfig, hscale, hlongest, hshortest, Attempt.ok_bind] at hq
  cases hq
  rfl

variable {ρ τ : Type} {plan : RunPlan α}
  {valueFactory : Coordinator.TrainerFactory α (ValueBatch α) ρ}
  {policyFactory : Coordinator.TrainerFactory α (PolicyBatch α) τ}
  {w w' : Coordinator.RunWorld α} {c : Coordinator α ρ τ}

/-- Setting up the trainers leaves the builders as they are. -/
theorem Coordinator.builders_of_hire {valueBatches : ValueBatchBuilder α}
    {policyBatches : PolicyBatchBuilder α} {valueDir policyDir : Option Path} {u : RunWorld α}
    (h : (do
      let value ← hire .value valueFactory (valueBatches.source plan.task) valueDir
      let policy ← hire .policy policyFactory (policyBatches.source plan.task) policyDir
      return ⟨plan, valueBatches, policyBatches, value, policy, valueDir⟩ :
        Action α (RunWorld α) (Coordinator α ρ τ)) u = (.ok c, w')) :
    c.valueBatches = valueBatches ∧ c.policyBatches = policyBatches := by
  obtain ⟨value, _, -, h⟩ := Action.bind_eq_ok.1 h
  obtain ⟨policy, _, -, h⟩ := Action.bind_eq_ok.1 h
  obtain ⟨rfl, -⟩ := Action.pure_eq_ok.1 h
  exact ⟨rfl, rfl⟩

/-- Both builders of a coordinator come from its configuration, and the value builder has the
estimator of the algorithm. -/
theorem Coordinator.builders_of_make
    (h : make plan valueFactory policyFactory w = (.ok c, w')) :
    ValueBatchBuilder.ofConfig plan.config plan.task.gamma plan.algorithm.estimator plan.replay =
        .ok c.valueBatches ∧
      PolicyBatchBuilder.ofConfig plan.config plan.task.gamma plan.algorithm plan.replay =
        .ok c.policyBatches := by
  unfold make at h
  obtain ⟨valueBatches, _, hvalue, h⟩ := Action.bind_eq_ok.1 h
  obtain ⟨policyBatches, _, hpolicy, h⟩ := Action.bind_eq_ok.1 h
  obtain ⟨rfl, rfl⟩ : c.valueBatches = valueBatches ∧ c.policyBatches = policyBatches := by
    cases hdir : plan.config.outputDir with
    | none =>
        simp only [hdir, Option.map_none] at h
        exact builders_of_hire h
    | some dir =>
        simp only [hdir, Option.map_some] at h
        obtain ⟨world, _, -, h⟩ := Action.bind_eq_ok.1 h
        obtain ⟨_, _, -, h⟩ := Action.bind_eq_ok.1 h
        -- The trainers are set up only if the directory is there.
        split at h
        · obtain ⟨_, _, hfail, -⟩ := Action.bind_eq_ok.1 h
          cases hfail
        · exact builders_of_hire h
  exact ⟨Attempt.mapError_eq_ok.1 (Action.lift_eq.1 hvalue).1,
    Attempt.mapError_eq_ok.1 (Action.lift_eq.1 hpolicy).1⟩

/-- The builders of a coordinator give matching batches of a trajectory batch or the same error. The
trajectory batch has the rows that the policy asks for, a feature, and a step that is kept if it
comes to that, and the network keeps rows and steps. -/
theorem value_and_policy_batches_match
    (hmake : Coordinator.make plan valueFactory policyFactory w = (.ok c, w'))
    {target : ValueTarget α} (hnetwork : target.network.KeepsSteps) {t : Trajectory α}
    (hbatch : t.batchSize = plan.config.policyBatchSize) (hrows : 0 < t.batchSize)
    (hobservations : 0 < t.observations.features) (hactions : 0 < t.actions.features)
    (hkept : ∀ values advantages,
      c.valueBatches.plan.estimates plan.algorithm.estimator target t =
        .ok (values, advantages) → 0 < advantages.cols)
    (hsize : t.rewards.entries.length < Count.limit) :
    (∃ batch policy values, c.valueBatches.build target t = .ok batch ∧
      c.policyBatches.build target t = .ok policy ∧
      valueEstimates target t c.valueBatches.plan.scale = .ok values ∧
      batch.Matches policy t.batchSize values c.valueBatches.plan.scale) ∨
    ∃ e, c.valueBatches.build target t = .error e ∧ c.policyBatches.build target t = .error e := by
  obtain ⟨hvalue, hpolicy⟩ := Coordinator.builders_of_make hmake
  obtain ⟨valuePlan, hvaluePlan, hvalue⟩ := Attempt.bind_eq_ok.1 hvalue
  obtain ⟨policyPlan, hpolicyPlan, hpolicy⟩ := Attempt.bind_eq_ok.1 hpolicy
  obtain rfl := SlicePlan.ofConfig_batchSize hvaluePlan hpolicyPlan
  rw [← Attempt.pure_eq_ok.1 hvalue] at hkept ⊢
  rw [← Attempt.pure_eq_ok.1 hpolicy]
  -- The two plans ask for different numbers of rows, which the estimates do not look at.
  have hpolicyBuild : PolicyBatchBuilder.build ⟨{ valuePlan with
      batchSize := plan.config.policyBatchSize }, plan.algorithm⟩ target t =
        valuePlan.estimates plan.algorithm.estimator target t >>= fun estimated =>
          PolicyBatch.cut t estimated.2 := PolicyBatchBuilder.build_eq hnetwork hbatch
  cases hestimates : valuePlan.estimates plan.algorithm.estimator target t with
  | error e =>
      refine .inr ⟨e, ?_, ?_⟩
      · rw [ValueBatchBuilder.build_eq, hestimates, Attempt.error_bind]
      · rw [hpolicyBuild, hestimates, Attempt.error_bind]
  | ok estimated =>
      obtain ⟨batch, policy, hbuild, hcut, hmatches⟩ :=
        ValueBatchBuilder.build_matches (b := ⟨valuePlan, plan.algorithm.estimator⟩) hnetwork
          hrows hobservations hactions hsize hestimates (hkept _ _ hestimates)
      obtain ⟨-, hvalues, -⟩ := SlicePlan.estimates_eq_ok.1 hestimates
      refine .inl ⟨batch, policy, estimated.1, hbuild, ?_, hvalues, hmatches⟩
      rw [hpolicyBuild, hestimates, Attempt.ok_bind, hcut]

/-- Targets are scaled by the discounted sum of ones, which is two here. -/
def halvingPlan : RunPlan Float32 where
  config := {
    policyBatchSize := 2
    maxSliceLength := 2
    addedPolicySliceLength := 1
    scaleValueTargets := true }
  algorithm := ⟨.a2c, .standard⟩
  task := .ofBatches 0.5 [1] []
  replay := ⟨1⟩

def halvingSlices (batchSize : Nat) : SlicePlan Float32 :=
  ⟨0.5, batchSize, 3, 2, ⟨1⟩, 1, 1 / (1 - 0.5)⟩

def halvingCoordinator : Coordinator Float32 Unit Unit where
  plan := halvingPlan
  valueBatches := ⟨halvingSlices 64, halvingPlan.algorithm.estimator⟩
  policyBatches := ⟨halvingSlices 2, halvingPlan.algorithm⟩
  valueTrainer := ()
  policyTrainer := ()
  valueOutputDir := none

/-- Every channel is twice the observation and one. -/
def risingTarget (channels : Nat) : ValueTarget Float32 :=
  .make { Network.linearValue 0 1 channels with
    params := [⟨0, .fill [1, channels] 2⟩, ⟨1, .fill [channels] 1⟩] }

/-- The same on one channel, by way of a hidden layer. -/
def rectifiedTarget : ValueTarget Float32 :=
  .make { Network.hiddenValue 0 1 1 with
    params := [⟨0, .fill [1, 1] 2⟩, ⟨1, .fill [1] 1⟩, ⟨2, .fill [1, 1] 1⟩, ⟨3, .fill [1] 0⟩] }

def risingSteps : Trajectory Float32 where
  observations := ⟨2, 3, 1, [1, 2, 3, 4, 5, 6], rfl⟩
  actions := .fill 2 3 1 0
  rewards := ⟨2, 3, [1, 0, 2, 0, 1, 1], rfl⟩
  returns := ⟨2, 3, [1.5, 1, 2, 0.75, 1.5, 1], rfl⟩
  logProbs := .fill 2 3 0
  mask := ⟨2, 3, [1, 1, 1, 1, 0, 0], rfl⟩

/-- With one channel both builders keep two of the three steps, with two channels both fail. -/
theorem value_and_policy_batches_match_halved :
    (∃ batch policy values,
      halvingCoordinator.valueBatches.build rectifiedTarget risingSteps = .ok batch ∧
      halvingCoordinator.policyBatches.build rectifiedTarget risingSteps = .ok policy ∧
      valueEstimates rectifiedTarget risingSteps (1 / (1 - 0.5)) = .ok values ∧
      batch.Matches policy 2 values (1 / (1 - 0.5)) ∧ policy.advantages.cols = 2) ∧
    ∃ e, halvingCoordinator.valueBatches.build (risingTarget 2) risingSteps = .error e ∧
      halvingCoordinator.policyBatches.build (risingTarget 2) risingSteps = .error e := by
  have hmake (target : ValueTarget Float32) :
      Coordinator.make halvingPlan (fun _ => pure ()) (fun _ => pure ())
        (Coordinator.startingWorld target.network .empty 0) = (.ok halvingCoordinator, _) := rfl
  constructor
  · have hnetwork : rectifiedTarget.network.KeepsSteps := Network.keepsSteps_of_twoLayers rfl
    have hcols : ((halvingCoordinator.policyBatches.build rectifiedTarget
        risingSteps).toOption.map fun policy => policy.advantages.cols) = some 2 := by
      decide +kernel
    have hestimates : ((halvingCoordinator.valueBatches.plan.estimates
        halvingPlan.algorithm.estimator rectifiedTarget risingSteps).toOption.map
          fun estimated => estimated.2.cols) = some 2 := by decide +kernel
    have hkept (values advantages : StepMatrix Float32)
        (h : halvingCoordinator.valueBatches.plan.estimates halvingPlan.algorithm.estimator
          rectifiedTarget risingSteps = .ok (values, advantages)) : 0 < advantages.cols := by
      rw [h] at hestimates
      exact Nat.lt_of_lt_of_eq Nat.two_pos (Option.some.inj hestimates).symm
    obtain ⟨batch, policy, values, hbuild, hpolicy, hvalues, hmatches⟩ | ⟨e, -, herror⟩ :=
      value_and_policy_batches_match (hmake rectifiedTarget) hnetwork (t := risingSteps) rfl
        (by decide) (by decide) (by decide) hkept (by decide)
    · rw [hpolicy] at hcols
      exact ⟨batch, policy, values, hbuild, hpolicy, hvalues, hmatches, Option.some.inj hcols⟩
    · rw [herror] at hcols
      cases hcols
  · have hnetwork : (risingTarget 2).network.KeepsSteps := Network.keepsSteps_of_oneLayer rfl
    have hnone : (halvingCoordinator.valueBatches.build (risingTarget 2)
        risingSteps).toOption.isNone = true := by decide +kernel
    have hestimates : (halvingCoordinator.valueBatches.plan.estimates
        halvingPlan.algorithm.estimator (risingTarget 2) risingSteps).toOption.isNone = true := by
      decide +kernel
    obtain ⟨batch, policy, values, hbuild, -⟩ | hfail :=
      value_and_policy_batches_match (hmake (risingTarget 2)) hnetwork (t := risingSteps) rfl
        (by decide) (by decide) (by decide)
        (fun values advantages h => by rw [h] at hestimates; cases hestimates) (by decide)
    · rw [hbuild] at hnone
      cases hnone
    · exact hfail

end Coordinator

end ActorCritic
