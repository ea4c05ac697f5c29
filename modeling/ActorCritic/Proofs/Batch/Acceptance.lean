import ActorCritic.Batch.Builder
import ActorCritic.Proofs.Entries

/-!
Which trajectory batches the builders accept, and what they make of them. The checks come in one
order, and the first that fails is the one that is reported; what passes them all cannot fail any
more, so the checks behind them are never reached with a fault. An accepted batch keeps its first
steps, every number at its row, its step and its feature.
-/

namespace ActorCritic

variable {α : Type}

/-- Every field has the rows and the steps of the rewards. -/
def Trajectory.Valid (t : Trajectory α) : Prop :=
  ∀ field ∈ t.extents, field.2 = t.rewards.extent

/-- What a batch has to satisfy to be accepted, with the outputs of the network and the advantages
that it leads to, and with the number of rows that was asked for, if any was. -/
structure Fits (t : Trajectory α) (values : StepTensor α) (advantages : StepMatrix α)
    (batchSize : Option Nat) : Prop where
  valid : t.Valid
  channel : values.features = 1
  batchSize : ∀ n ∈ batchSize, t.rewards.rows = n
  rows : advantages.rows = t.rewards.rows
  cols : advantages.cols ≤ t.rewards.cols

/-- The first check that fails, as the error that reports it. -/
inductive FirstFault (t : Trajectory α) (values : StepTensor α) (advantages : StepMatrix α)
    (batchSize : Option Nat) : ShapeError → Prop where
  | trajectory {before after : List (BatchField × (Nat × Nat))} {field : BatchField}
      {actual : Nat × Nat} :
      t.extents = before ++ (field, actual) :: after →
        (∀ earlier ∈ before, earlier.2 = t.rewards.extent) → actual ≠ t.rewards.extent →
        FirstFault t values advantages batchSize (.trajectory field t.rewards.extent actual)
  | valueChannel :
      t.Valid → values.features ≠ 1 →
        FirstFault t values advantages batchSize
          (.valueChannel t.rewards.rows t.rewards.cols values.features)
  | policyBatchSize {n : Nat} :
      t.Valid → values.features = 1 → n ∈ batchSize → t.rewards.rows ≠ n →
        FirstFault t values advantages batchSize (.policyBatchSize n t.rewards.rows)
  | advantages :
      t.Valid → values.features = 1 → (∀ n ∈ batchSize, t.rewards.rows = n) →
        (advantages.rows ≠ t.rewards.rows ∨ t.rewards.cols < advantages.cols) →
        FirstFault t values advantages batchSize
          (.advantages t.rewards.extent advantages.extent)

/-- A build that succeeds exactly on what fits, reports the first fault of what does not, and has
nothing else to report. -/
structure Checks {β : Type} (build : Attempt ShapeError β) (t : Trajectory α)
    (values : StepTensor α) (advantages : StepMatrix α) (batchSize : Option Nat) : Prop where
  ok_iff : (∃ batch, build = .ok batch) ↔ Fits t values advantages batchSize
  error_iff : ∀ e, build = .error e ↔
    ∃ fault, FirstFault t values advantages batchSize fault ∧ e = .error fault
  policyInput_unreached : ∀ field expected actual,
    build ≠ .error (.error (.policyInput field expected actual))
  matrixData_unreached : ∀ rows cols length,
    build ≠ .error (.error (.matrixData rows cols length))

theorem Trajectory.validate_of_valid {t : Trajectory α} (h : t.Valid) : t.validate = .ok () := by
  have hnone : t.extents.find? (fun field => field.2 ≠ t.rewards.extent) = none := by
    refine List.find?_eq_none.2 ?_
    intro field hfield
    simpa using h field hfield
  simp only [validate, hnone]

theorem Trajectory.validate_of_fault {t : Trajectory α}
    {before after : List (BatchField × (Nat × Nat))} {field : BatchField} {actual : Nat × Nat}
    (hfields : t.extents = before ++ (field, actual) :: after)
    (hbefore : ∀ earlier ∈ before, earlier.2 = t.rewards.extent)
    (hactual : actual ≠ t.rewards.extent) :
    t.validate = .error (.trajectory field t.rewards.extent actual) := by
  have hfound : t.extents.find? (fun field => field.2 ≠ t.rewards.extent) =
      some (field, actual) := by
    refine List.find?_eq_some_iff_append.2 ⟨by simpa using hactual, before, after, hfields, ?_⟩
    intro earlier hearlier
    simpa using hbefore earlier hearlier
  simp only [validate, hfound]

/-- The extents of a valid batch, field by field. -/
theorem Trajectory.valid_iff {t : Trajectory α} :
    t.Valid ↔ t.observations.extent = t.rewards.extent ∧ t.actions.extent = t.rewards.extent ∧
      t.returns.extent = t.rewards.extent ∧ t.logProbs.extent = t.rewards.extent ∧
      t.mask.extent = t.rewards.extent := by
  simp [Valid, extents]

theorem Trajectory.lift_validate_of_valid {t : Trajectory α} (h : t.Valid) :
    (t.validate : Attempt ShapeError Unit) = .ok () :=
  Attempt.mapError_eq_ok.2 (validate_of_valid h)

theorem Trajectory.lift_validate_of_fault {t : Trajectory α}
    {before after : List (BatchField × (Nat × Nat))} {field : BatchField} {actual : Nat × Nat}
    (hfields : t.extents = before ++ (field, actual) :: after)
    (hbefore : ∀ earlier ∈ before, earlier.2 = t.rewards.extent)
    (hactual : actual ≠ t.rewards.extent) :
    (t.validate : Attempt ShapeError Unit) =
      .error (.error (.trajectory field t.rewards.extent actual)) :=
  Attempt.mapError_eq_error.2 ⟨_, validate_of_fault hfields hbefore hactual, rfl⟩

theorem fits_or_firstFault (t : Trajectory α) (values : StepTensor α)
    (advantages : StepMatrix α) (batchSize : Option Nat) :
    Fits t values advantages batchSize ∨ ∃ e, FirstFault t values advantages batchSize e := by
  cases hfound : t.extents.find? (fun field => field.2 ≠ t.rewards.extent) with
  | some found =>
      obtain ⟨hactual, before, after, hfields, hbefore⟩ := List.find?_eq_some_iff_append.1 hfound
      have hsplit : t.extents = before ++ (found.1, found.2) :: after := hfields
      refine .inr ⟨_, .trajectory hsplit ?_ ?_⟩
      · intro earlier hearlier
        simpa using hbefore earlier hearlier
      · simpa using hactual
  | none =>
      have hvalid : t.Valid := by
        intro field hfield
        simpa using List.find?_eq_none.1 hfound field hfield
      by_cases hchannel : values.features = 1
      · by_cases hsize : ∀ n ∈ batchSize, t.rewards.rows = n
        · by_cases hfits : advantages.rows = t.rewards.rows ∧ advantages.cols ≤ t.rewards.cols
          · exact .inl ⟨hvalid, hchannel, hsize, hfits.1, hfits.2⟩
          · exact .inr ⟨_, .advantages hvalid hchannel hsize (by omega)⟩
        · obtain ⟨n, hn, hrows⟩ : ∃ n, n ∈ batchSize ∧ t.rewards.rows ≠ n := by
            simpa using hsize
          exact .inr ⟨_, .policyBatchSize hvalid hchannel hn hrows⟩
      · exact .inr ⟨_, .valueChannel hvalid hchannel⟩

/-- A build that gives what it should for all that fits, and reports all faults, has no other
outcome. -/
theorem checks_of {β : Type} {build : Attempt ShapeError β} {t : Trajectory α}
    {values : StepTensor α} {advantages : StepMatrix α} {batchSize : Option Nat} {Q : β → Prop}
    (hok : Fits t values advantages batchSize → ∃ batch, build = .ok batch ∧ Q batch)
    (herror : ∀ e, FirstFault t values advantages batchSize e → build = .error (.error e)) :
    Checks build t values advantages batchSize ∧ ∀ batch, build = .ok batch → Q batch := by
  have hfits {batch : β} (hbatch : build = .ok batch) : Fits t values advantages batchSize := by
    obtain hfits | ⟨fault, hfault⟩ := fits_or_firstFault t values advantages batchSize
    · exact hfits
    · rw [herror fault hfault] at hbatch
      cases hbatch
  have herror_iff : ∀ e, build = .error e ↔
      ∃ fault, FirstFault t values advantages batchSize fault ∧ e = .error fault := by
    intro e
    constructor
    · intro hbuild
      obtain hfits | ⟨fault, hfault⟩ := fits_or_firstFault t values advantages batchSize
      · obtain ⟨batch, hbatch, -⟩ := hok hfits
        cases hbatch.symm.trans hbuild
      · exact ⟨fault, hfault, (Except.error.inj ((herror fault hfault).symm.trans hbuild)).symm⟩
    · rintro ⟨fault, hfault, rfl⟩
      exact herror fault hfault
  refine ⟨⟨⟨?_, ?_⟩, herror_iff, ?_, ?_⟩, ?_⟩
  · rintro ⟨batch, hbatch⟩
    exact hfits hbatch
  · intro hall
    obtain ⟨batch, hbatch, -⟩ := hok hall
    exact ⟨batch, hbatch⟩
  · intro field expected actual hbuild
    obtain ⟨fault, hfault, heq⟩ := (herror_iff _).1 hbuild
    cases heq
    cases hfault
  · intro rows cols length hbuild
    obtain ⟨fault, hfault, heq⟩ := (herror_iff _).1 hbuild
    cases heq
    cases hfault
  · intro batch hbatch
    obtain ⟨built, hbuilt, hcut⟩ := hok (hfits hbatch)
    cases hbuilt.symm.trans hbatch
    exact hcut

/-- The estimator's advantages, where the outputs of the network can be read as one number per
step. -/
def SlicePlan.Estimates [Mul α] (p : SlicePlan α) (estimator : Estimator α) (t : Trajectory α)
    (values : StepTensor α) (advantages : StepMatrix α) : Prop :=
  ∀ steps, values.toSteps? = some steps →
    estimator.estimate t.rewards t.returns (steps.map (· * p.scale)) p.gamma p.extraSteps =
      .ok advantages

section Steps

variable [Mul α] {target : ValueTarget α} {t : Trajectory α} {values : StepTensor α}
  {advantages : StepMatrix α} (hvalues : target.predict t.observations = .ok values)
include hvalues

theorem valueEstimates_eq_ok {steps : StepMatrix α} (hsteps : values.toSteps? = some steps)
    (scale : α) : valueEstimates target t scale = .ok (steps.map (· * scale)) := by
  refine Attempt.bind_eq_ok.2 ⟨values, Attempt.mapError_eq_ok.2 hvalues, ?_⟩
  simp only [hsteps]
  rfl

theorem valueEstimates_of_channels (hextent : values.extent = t.observations.extent)
    (hvalid : t.Valid) (hchannel : values.features ≠ 1) (scale : α) :
    valueEstimates target t scale =
      .error (.error (.valueChannel t.rewards.rows t.rewards.cols values.features)) := by
  have hobservations := hextent.trans (Trajectory.valid_iff.1 hvalid).1
  have hrows : values.batch = t.rewards.rows := congrArg Prod.fst hobservations
  have hcols : values.time = t.rewards.cols := congrArg Prod.snd hobservations
  have hnone : values.toSteps? = none := by rw [StepTensor.toSteps?, dif_neg hchannel]
  refine Attempt.bind_eq_error.2 (.inr ⟨values, Attempt.mapError_eq_ok.2 hvalues, ?_⟩)
  simp only [hnone, hrows, hcols]
  rfl

end Steps

section Estimates

variable {estimator : Estimator α} {t : Trajectory α} {values advantages : StepMatrix α}
  {context : AdvantageContext α}
  (hadvantages : estimator.estimate t.rewards t.returns values context.gamma context.extraSteps =
    .ok advantages)
include hadvantages

theorem estimateAdvantages_eq_ok (hrows : advantages.rows = t.rewards.rows)
    (hcols : advantages.cols ≤ t.rewards.cols) :
    estimateAdvantages estimator t values context = .ok advantages := by
  refine Attempt.bind_eq_ok.2 ⟨advantages, Attempt.mapError_eq_ok.2 hadvantages, ?_⟩
  refine Attempt.guard_eq_ok.2 ⟨?_, rfl⟩
  omega

theorem estimateAdvantages_eq_error
    (h : advantages.rows ≠ t.rewards.rows ∨ t.rewards.cols < advantages.cols) :
    estimateAdvantages estimator t values context =
      .error (.error (.advantages t.rewards.extent advantages.extent)) := by
  refine Attempt.bind_eq_error.2 (.inr ⟨advantages, Attempt.mapError_eq_ok.2 hadvantages, ?_⟩)
  rw [if_pos h]
  rfl

end Estimates

/-- What a value batch keeps: the first steps of the observations and of the mask, and as the
target of a step its value and its advantage, over the scale. -/
structure ValueBatch.CutFrom [Add α] [Mul α] [Div α] (batch : ValueBatch α) (t : Trajectory α)
    (values : StepTensor α) (advantages : StepMatrix α) (scale : α) : Prop where
  extents : ∀ field ∈ [batch.observations, batch.targets, batch.mask],
    field.extent = (t.rewards.rows, advantages.cols)
  features : batch.observations.features = t.observations.features ∧
    batch.targets.features = 1 ∧ batch.mask.features = 1
  observations : ∀ row step feature, step < advantages.cols →
    batch.observations.entryAt? row step feature = t.observations.entryAt? row step feature
  targets : ∀ row step, row < t.rewards.rows → step < advantages.cols →
    ∃ v a, values.entryAt? row step 0 = some v ∧ advantages.entryAt? row step = some a ∧
      batch.targets.entryAt? row step 0 = some ((v * scale + a) / scale)
  mask : ∀ row step, step < advantages.cols →
    batch.mask.entryAt? row step 0 = t.mask.entryAt? row step

/-- What a policy batch keeps: the first steps of every field, and the advantages. -/
structure PolicyBatch.CutFrom (batch : PolicyBatch α) (t : Trajectory α)
    (advantages : StepMatrix α) : Prop where
  extents : ∀ field ∈ batch.advantages.extent :: batch.extents.map Prod.snd,
    field = (t.rewards.rows, advantages.cols)
  features : batch.observations.features = t.observations.features ∧
    batch.actions.features = t.actions.features
  observations : ∀ row step feature, step < advantages.cols →
    batch.observations.entryAt? row step feature = t.observations.entryAt? row step feature
  actions : ∀ row step feature, step < advantages.cols →
    batch.actions.entryAt? row step feature = t.actions.entryAt? row step feature
  advantages_eq : batch.advantages = advantages
  oldLogProbs : ∀ row step, step < advantages.cols →
    batch.oldLogProbs.entryAt? row step = t.logProbs.entryAt? row step
  mask : ∀ row step, step < advantages.cols →
    batch.mask.entryAt? row step = t.mask.entryAt? row step

theorem rows_of_toSteps? {t : Trajectory α} {values : StepTensor α} {steps : StepMatrix α}
    (hextent : values.extent = t.observations.extent) (hvalid : t.Valid)
    (hsteps : values.toSteps? = some steps) : steps.rows = t.rewards.rows := by
  obtain ⟨-, hsame, -⟩ := StepTensor.entryAt?_of_toSteps? hsteps
  exact congrArg Prod.fst ((hsame.trans hextent).trans (Trajectory.valid_iff.1 hvalid).1)

/-- A range of as many steps as there are advantages, none of them dropped or not all. -/
theorem Fits.exists_tensor_prefix {t : Trajectory α} {values : StepTensor α}
    {advantages : StepMatrix α} {batchSize : Option Nat}
    (hfits : Fits t values advantages batchSize) (hrows : 0 < t.rewards.rows)
    (hkept : 0 < advantages.cols ∨ advantages.cols = t.rewards.cols) {x : StepTensor α}
    (hx : x.extent = t.rewards.extent) (hfeatures : 0 < x.features) :
    ∃ p, (x.timePrefix advantages.cols : Attempt ShapeError _) = .ok p ∧
      p.IsPrefix x advantages.cols ∧ p.extent = (t.rewards.rows, advantages.cols) := by
  have hbatch : x.batch = t.rewards.rows := congrArg Prod.fst hx
  have htime : x.time = t.rewards.cols := congrArg Prod.snd hx
  have hcols := hfits.cols
  obtain ⟨p, hp⟩ := x.exists_timePrefix advantages.cols (by omega) hfeatures (by omega)
  have hkeeps := StepTensor.isPrefix_of_timePrefix (by omega) hp
  exact ⟨p, Attempt.mapError_eq_ok.2 hp, hkeeps, by rw [hkeeps.extent_eq, hbatch]⟩

theorem Fits.exists_matrix_prefix {t : Trajectory α} {values : StepTensor α}
    {advantages : StepMatrix α} {batchSize : Option Nat}
    (hfits : Fits t values advantages batchSize) (hrows : 0 < t.rewards.rows)
    (hkept : 0 < advantages.cols ∨ advantages.cols = t.rewards.cols) {x : StepMatrix α}
    (hx : x.extent = t.rewards.extent) :
    ∃ p, (x.timePrefix advantages.cols : Attempt ShapeError _) = .ok p ∧
      p.IsPrefix x advantages.cols ∧ p.extent = (t.rewards.rows, advantages.cols) := by
  have hrowsEq : x.rows = t.rewards.rows := congrArg Prod.fst hx
  have hcolsEq : x.cols = t.rewards.cols := congrArg Prod.snd hx
  have hcols := hfits.cols
  obtain ⟨p, hp⟩ := x.exists_timePrefix advantages.cols (by omega) (by omega)
  have hkeeps := StepMatrix.isPrefix_of_timePrefix (by omega) hp
  exact ⟨p, Attempt.mapError_eq_ok.2 hp, hkeeps, by rw [hkeeps.extent_eq, hrowsEq]⟩

/-- The sums of the scaled values and the advantages, over the scale. -/
theorem Fits.exists_targets [Add α] [Mul α] [Div α] {t : Trajectory α} {values : StepTensor α}
    {advantages steps : StepMatrix α} {batchSize : Option Nat}
    (hfits : Fits t values advantages batchSize)
    (hextent : values.extent = t.observations.extent)
    (hsize : t.rewards.entries.length < Count.limit) (hsteps : values.toSteps? = some steps)
    (scale : α) :
    ∃ targets, StepMatrix.ofEntries advantages.rows advantages.cols
        (List.zipWith (fun v a => (v + a) / scale)
          ((steps.map (· * scale)).truncate advantages.cols).entries advantages.entries) =
        .ok targets ∧ targets.extent = (t.rewards.rows, advantages.cols) ∧
      ∀ row step, row < t.rewards.rows → step < advantages.cols →
        ∃ v a, values.entryAt? row step 0 = some v ∧ advantages.entryAt? row step = some a ∧
          targets.entryAt? row step = some ((v * scale + a) / scale) := by
  have hrows := hfits.rows
  have hcols := hfits.cols
  obtain ⟨-, hextentSteps, hentry⟩ := StepTensor.entryAt?_of_toSteps? hsteps
  have hsame := (hextentSteps.trans hextent).trans (Trajectory.valid_iff.1 hfits.valid).1
  have hstepsRows : steps.rows = t.rewards.rows := congrArg Prod.fst hsame
  have hstepsCols : steps.cols = t.rewards.cols := congrArg Prod.snd hsame
  have hkeeps := StepMatrix.isPrefix_truncate (steps.map (· * scale))
    (show advantages.cols ≤ steps.cols by omega)
  have hextentKept : ((steps.map (· * scale)).truncate advantages.cols).extent =
      advantages.extent :=
    hkeeps.extent_eq.trans (Prod.ext (hstepsRows.trans hrows.symm) rfl)
  have hcount : advantages.rows * advantages.cols < Count.limit := by
    refine Nat.lt_of_le_of_lt ?_ hsize
    rw [t.rewards.size_eq, hrows]
    exact Nat.mul_le_mul_left _ hcols
  obtain ⟨targets, htargets, hextentTargets, htargetsEntry⟩ :=
    StepMatrix.exists_ofEntries_zipWith (f := fun v a => (v + a) / scale) hextentKept hcount
  refine ⟨targets, htargets, hextentTargets.trans (Prod.ext hrows rfl), ?_⟩
  intro row step hrow hstep
  obtain ⟨v, hv⟩ := steps.exists_entryAt? (show row < steps.rows by omega)
    (show step < steps.cols by omega)
  obtain ⟨a, ha⟩ := advantages.exists_entryAt? (show row < advantages.rows by omega) hstep
  refine ⟨v, a, (hentry row step).symm.trans hv, ha, htargetsEntry row step _ a ?_ ha⟩
  rw [hkeeps.entry_eq row step hstep, StepMatrix.entryAt?_map, hv]
  rfl

section Value

variable [Add α] [Mul α] [Div α] {b : ValueBatchBuilder α} {target : ValueTarget α}
  {t : Trajectory α} {values : StepTensor α} {advantages : StepMatrix α}
  (hvalues : target.predict t.observations = .ok values)
  (hextent : values.extent = t.observations.extent)
  (hadvantages : b.plan.Estimates b.estimator t values advantages)
include hvalues hextent hadvantages

theorem ValueBatchBuilder.build_eq_error {e : ShapeError}
    (h : FirstFault t values advantages none e) : b.build target t = .error (.error e) := by
  unfold build
  cases h with
  | trajectory hfields hbefore hactual =>
      rw [Trajectory.lift_validate_of_fault hfields hbefore hactual, Attempt.error_bind]
  | valueChannel hvalid hchannel =>
      rw [Trajectory.lift_validate_of_valid hvalid, Attempt.ok_bind,
        valueEstimates_of_channels hvalues hextent hvalid hchannel, Attempt.error_bind]
  | policyBatchSize _ _ hn _ => cases hn
  | advantages hvalid hchannel _ hfits =>
      obtain ⟨steps, hsteps⟩ := StepTensor.exists_toSteps? hchannel
      rw [Trajectory.lift_validate_of_valid hvalid, Attempt.ok_bind,
        valueEstimates_eq_ok hvalues hsteps, Attempt.ok_bind,
        estimateAdvantages_eq_error (hadvantages steps hsteps) hfits, Attempt.error_bind]

theorem ValueBatchBuilder.exists_build (hfits : Fits t values advantages none)
    (hrows : 0 < t.rewards.rows) (hfeatures : 0 < t.observations.features)
    (hkept : 0 < advantages.cols ∨ advantages.cols = t.rewards.cols)
    (hsize : t.rewards.entries.length < Count.limit) :
    ∃ batch, b.build target t = .ok batch ∧
      batch.CutFrom t values advantages b.plan.scale := by
  obtain ⟨hobservations, -, -, -, hmask⟩ := Trajectory.valid_iff.1 hfits.valid
  obtain ⟨steps, hsteps⟩ := StepTensor.exists_toSteps? hfits.channel
  obtain ⟨targets, htargets, htargetsExtent, htargetsEntry⟩ :=
    hfits.exists_targets hextent hsize hsteps b.plan.scale
  obtain ⟨observations, hcut, hkeeps, hcutExtent⟩ :=
    hfits.exists_tensor_prefix hrows hkept hobservations hfeatures
  obtain ⟨mask, hmaskCut, hmaskPrefix, hmaskExtent⟩ :=
    hfits.exists_matrix_prefix hrows hkept hmask
  refine ⟨⟨observations, .ofSteps targets, .ofSteps mask⟩, ?_, ?_⟩
  · unfold build
    rw [Trajectory.lift_validate_of_valid hfits.valid, Attempt.ok_bind,
      valueEstimates_eq_ok hvalues hsteps, Attempt.ok_bind,
      estimateAdvantages_eq_ok (hadvantages steps hsteps) hfits.rows hfits.cols, Attempt.ok_bind]
    simp only [htargets, hcut, hmaskCut, Attempt.ok_bind]
    rfl
  · constructor
    case extents => simpa [StepTensor.ofSteps] using ⟨hcutExtent, htargetsExtent, hmaskExtent⟩
    case features => exact ⟨hkeeps.features_eq, rfl, rfl⟩
    case observations => exact hkeeps.entry_eq
    case targets =>
      intro row step hrow hstep
      obtain ⟨v, a, hv, ha, htarget⟩ := htargetsEntry row step hrow hstep
      exact ⟨v, a, hv, ha, (StepTensor.entryAt?_ofSteps _ _ _).trans htarget⟩
    case mask =>
      intro row step hstep
      exact (StepTensor.entryAt?_ofSteps _ _ _).trans (hmaskPrefix.entry_eq row step hstep)

end Value

section Policy

variable [Mul α] {b : PolicyBatchBuilder α} {target : ValueTarget α} {t : Trajectory α}
  {values : StepTensor α} {advantages : StepMatrix α}
  (hvalues : target.predict t.observations = .ok values)
  (hextent : values.extent = t.observations.extent)
  (hadvantages : b.plan.Estimates b.algorithm.estimator t values advantages)
include hvalues hextent hadvantages

omit hadvantages in
/-- Past the checks that both builders make, the number of rows decides whether to go on. -/
theorem PolicyBatchBuilder.build_of_valid (hvalid : t.Valid) {steps : StepMatrix α}
    (hsteps : values.toSteps? = some steps) :
    b.build target t =
      if t.rewards.rows ≠ b.plan.batchSize then
        .error (.error (.policyBatchSize b.plan.batchSize t.rewards.rows))
      else policyInputs b.algorithm.estimator t (steps.map (· * b.plan.scale)) b.plan.context := by
  have hstepsRows : steps.rows = t.rewards.rows := rows_of_toSteps? hextent hvalid hsteps
  have hrows : (steps.map (· * b.plan.scale)).rows = t.rewards.rows := hstepsRows
  unfold build
  rw [Trajectory.lift_validate_of_valid hvalid, Attempt.ok_bind,
    valueEstimates_eq_ok hvalues hsteps, Attempt.ok_bind]
  simp only [hrows]
  rfl

theorem PolicyBatchBuilder.build_eq_error {e : ShapeError}
    (h : FirstFault t values advantages (some b.plan.batchSize) e) :
    b.build target t = .error (.error e) := by
  cases h with
  | trajectory hfields hbefore hactual =>
      rw [build, Trajectory.lift_validate_of_fault hfields hbefore hactual, Attempt.error_bind]
  | valueChannel hvalid hchannel =>
      rw [build, Trajectory.lift_validate_of_valid hvalid, Attempt.ok_bind,
        valueEstimates_of_channels hvalues hextent hvalid hchannel, Attempt.error_bind]
  | policyBatchSize hvalid hchannel hn hsize =>
      obtain rfl := Option.mem_some.1 hn
      obtain ⟨steps, hsteps⟩ := StepTensor.exists_toSteps? hchannel
      rw [build_of_valid hvalues hextent hvalid hsteps, if_pos hsize]
  | advantages hvalid hchannel hsize hfits =>
      obtain ⟨steps, hsteps⟩ := StepTensor.exists_toSteps? hchannel
      rw [build_of_valid hvalues hextent hvalid hsteps, if_neg (not_not_intro (hsize _ rfl)),
        policyInputs, estimateAdvantages_eq_error (hadvantages steps hsteps) hfits,
        Attempt.error_bind]

theorem PolicyBatchBuilder.exists_build
    (hfits : Fits t values advantages (some b.plan.batchSize)) (hrows : 0 < t.rewards.rows)
    (hobservations : 0 < t.observations.features) (hactions : 0 < t.actions.features)
    (hkept : 0 < advantages.cols ∨ advantages.cols = t.rewards.cols) :
    ∃ batch, b.build target t = .ok batch ∧ batch.CutFrom t advantages := by
  obtain ⟨hobsExtent, hactExtent, -, hlogExtent, hmaskExtent⟩ :=
    Trajectory.valid_iff.1 hfits.valid
  obtain ⟨steps, hsteps⟩ := StepTensor.exists_toSteps? hfits.channel
  have hadvExtent : advantages.extent = (t.rewards.rows, advantages.cols) :=
    Prod.ext hfits.rows rfl
  obtain ⟨observations, hobsCut, hobsPrefix, hobsKept⟩ :=
    hfits.exists_tensor_prefix hrows hkept hobsExtent hobservations
  obtain ⟨actions, hactCut, hactPrefix, hactKept⟩ :=
    hfits.exists_tensor_prefix hrows hkept hactExtent hactions
  obtain ⟨oldLogProbs, hlogCut, hlogPrefix, hlogKept⟩ :=
    hfits.exists_matrix_prefix hrows hkept hlogExtent
  obtain ⟨mask, hmaskCut, hmaskPrefix, hmaskKept⟩ :=
    hfits.exists_matrix_prefix hrows hkept hmaskExtent
  let batch : PolicyBatch α := ⟨observations, actions, advantages, oldLogProbs, mask⟩
  -- All fields were cut by the same advantages, so the last check finds nothing.
  have hagree : batch.extents.find? (fun field => field.2 ≠ advantages.extent) = none := by
    simp [batch, PolicyBatch.extents, hobsKept, hactKept, hlogKept, hmaskKept, hadvExtent]
  refine ⟨batch, ?_, ?_⟩
  · rw [build_of_valid hvalues hextent hfits.valid hsteps,
      if_neg (not_not_intro (hfits.batchSize _ rfl)), policyInputs,
      estimateAdvantages_eq_ok (hadvantages steps hsteps) hfits.rows hfits.cols, Attempt.ok_bind]
    simp only [hobsCut, hactCut, hlogCut, hmaskCut, Attempt.ok_bind]
    rw [hagree]
    rfl
  · constructor
    case extents =>
      simp [batch, PolicyBatch.extents, hobsKept, hactKept, hlogKept, hmaskKept, hadvExtent]
    case features => exact ⟨hobsPrefix.features_eq, hactPrefix.features_eq⟩
    case observations => exact hobsPrefix.entry_eq
    case actions => exact hactPrefix.entry_eq
    case advantages_eq => rfl
    case oldLogProbs => exact hlogPrefix.entry_eq
    case mask => exact hmaskPrefix.entry_eq

end Policy

/-- Both builders accept exactly what fits, report the first fault of anything else, and keep the
first steps of what they accept, each number in its place. The network may map observations to any
number of channels, and the advantages may have any extents, as long as there is something to cut:
a row, a feature, and a step where steps are dropped. The rewards are as many as fit in memory. -/
theorem builds_check_and_cut [Add α] [Mul α] [Div α] {target : ValueTarget α}
    {t : Trajectory α} {values : StepTensor α} {advantages : StepMatrix α}
    (hvalues : target.predict t.observations = .ok values)
    (hextent : values.extent = t.observations.extent) (hrows : 0 < t.rewards.rows)
    (hobservations : 0 < t.observations.features) (hactions : 0 < t.actions.features)
    (hkept : 0 < advantages.cols ∨ advantages.cols = t.rewards.cols)
    (hsize : t.rewards.entries.length < Count.limit) :
    (∀ b : ValueBatchBuilder α, b.plan.Estimates b.estimator t values advantages →
      Checks (b.build target t) t values advantages none ∧
        ∀ batch, b.build target t = .ok batch →
          batch.CutFrom t values advantages b.plan.scale) ∧
    ∀ b : PolicyBatchBuilder α, b.plan.Estimates b.algorithm.estimator t values advantages →
      Checks (b.build target t) t values advantages (some b.plan.batchSize) ∧
        ∀ batch, b.build target t = .ok batch → batch.CutFrom t advantages := by
  refine ⟨fun b hadvantages => ?_, fun b hadvantages => ?_⟩
  · refine checks_of (fun hfits => ?_) fun _ =>
      ValueBatchBuilder.build_eq_error hvalues hextent hadvantages
    exact ValueBatchBuilder.exists_build hvalues hextent hadvantages hfits hrows hobservations
      hkept hsize
  · refine checks_of (fun hfits => ?_) fun _ =>
      PolicyBatchBuilder.build_eq_error hvalues hextent hadvantages
    exact PolicyBatchBuilder.exists_build hvalues hextent hadvantages hfits hrows hobservations
      hactions hkept

/-- Two rows of three steps, with numbers that tell row and step. -/
def numberedSteps : Trajectory Int where
  observations := ⟨2, 3, 1, [10, 11, 12, 20, 21, 22], rfl⟩
  actions := ⟨2, 3, 1, [30, 31, 32, 40, 41, 42], rfl⟩
  rewards := ⟨2, 3, [1, 2, 3, 4, 5, 6], rfl⟩
  returns := ⟨2, 3, [6, 5, 3, 15, 11, 6], rfl⟩
  logProbs := ⟨2, 3, [-10, -11, -12, -20, -21, -22], rfl⟩
  mask := ⟨2, 3, [1, 1, 0, 1, 1, 1], rfl⟩

/-- A network whose value of a step is what is observed there. -/
def observedValues : ValueTarget Int :=
  .make ⟨[], [], fun _ observations => .ok ⟨observations, fun _ => .ok []⟩⟩

/-- An estimator whose advantages are the rewards of all steps but the last. -/
def earlierRewards : Estimator Int where
  name := "earlier_rewards"
  estimate rewards _ _ _ _ := .ok (rewards.truncate (rewards.cols - 1))

theorem builds_check_and_cut_two_steps :
    (∃ batch, ValueBatchBuilder.build ⟨⟨1, 2, 3, 1, ⟨1⟩, 1, 1⟩, earlierRewards⟩ observedValues
        numberedSteps = .ok batch ∧
      batch.CutFrom numberedSteps numberedSteps.observations (numberedSteps.rewards.truncate 2) 1 ∧
      batch.targets.entries = [11, 13, 24, 26]) ∧
    PolicyBatchBuilder.build ⟨⟨1, 4, 3, 1, ⟨1⟩, 1, 1⟩, ⟨.a2c, ⟨earlierRewards, false, 0⟩⟩⟩
        observedValues numberedSteps = .error (.error (.policyBatchSize 4 2)) ∧
      FirstFault numberedSteps numberedSteps.observations (numberedSteps.rewards.truncate 2)
        (some 4) (.policyBatchSize 4 2) := by
  obtain ⟨hvalue, hpolicy⟩ := @builds_check_and_cut Int _ _ _ observedValues numberedSteps
    numberedSteps.observations (numberedSteps.rewards.truncate 2) rfl rfl (by decide) (by decide)
    (by decide) (.inl (by decide)) (by decide)
  have hvalid : numberedSteps.Valid := Trajectory.valid_iff.2 (by decide)
  constructor
  · obtain ⟨hchecks, hcut⟩ := hvalue ⟨⟨1, 2, 3, 1, ⟨1⟩, 1, 1⟩, earlierRewards⟩ fun _ _ => rfl
    obtain ⟨batch, hbatch⟩ := hchecks.ok_iff.2 ⟨hvalid, rfl, by decide, rfl, by decide⟩
    have hentries : (ValueBatchBuilder.build ⟨⟨1, 2, 3, 1, ⟨1⟩, 1, 1⟩, earlierRewards⟩
        observedValues numberedSteps).toOption.map (·.targets.entries) =
          some [11, 13, 24, 26] := by decide
    rw [hbatch] at hentries
    exact ⟨batch, hbatch, hcut batch hbatch, Option.some.inj hentries⟩
  · obtain ⟨hchecks, -⟩ := hpolicy
      ⟨⟨1, 4, 3, 1, ⟨1⟩, 1, 1⟩, ⟨.a2c, ⟨earlierRewards, false, 0⟩⟩⟩ fun _ _ => rfl
    have hfault : FirstFault numberedSteps numberedSteps.observations
        (numberedSteps.rewards.truncate 2) (some 4) (.policyBatchSize 4 2) :=
      .policyBatchSize hvalid rfl (Option.mem_some.2 rfl) (by decide)
    exact ⟨(hchecks.error_iff _).2 ⟨_, hfault, rfl⟩, hfault⟩

end ActorCritic
