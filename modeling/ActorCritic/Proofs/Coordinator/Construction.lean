import ActorCritic.Proofs.Batch.Agreement
import ActorCritic.Proofs.Batch.SliceLength
import ActorCritic.Proofs.EpochSchedule
import ActorCritic.Proofs.Following

/-!
How a run is set up from a valid configuration. The checks of a configuration leave the steps added
to its slices alone, so slices may be longer than a count; this aborts the construction of the
coordinator, unless the scale of the values is refused before. Nothing else aborts it. The requests
of its builders then list the epochs of the replay window, where a list can hold so many.
-/

namespace ActorCritic

theorem ReplayWindow.exists_epochs {w : ReplayWindow} (h : w.epochCount < listLimit) :
    ∃ epochs, w.epochs = .ok epochs ∧ epochs.length = w.epochCount ∧
      ∀ i, i < w.epochCount → epochs[i]? = some (-((i : Int) + 1)) := by
  refine ⟨_, if_neg (Nat.not_le.2 h), by simp, fun i hi => ?_⟩
  rw [List.getElem?_map, List.getElem?_range hi, Option.map_some]

theorem ReplayWindow.epochs_eq_error {w : ReplayWindow} (h : listLimit ≤ w.epochCount) :
    w.epochs = .error .refused :=
  if_pos h

namespace Action

variable {α σ β : Type}

/-- Whatever the state is, the action gives a result or fails with an error. -/
def NeverAborts (a : Action α σ β) : Prop :=
  Respects (fun _ => True) (fun e => ∀ cause, e ≠ .abort cause) a

theorem NeverAborts.returns {a : Action α σ β} (h : a.NeverAborts) (s : σ) : (a s).1.Returns :=
  fun cause hcause => (h s trivial).2 _ hcause cause rfl

theorem neverAborts_of_returns {a : Action α σ β} (h : ∀ s, (a s).1.Returns) : a.NeverAborts :=
  fun s _ => ⟨trivial, fun _ he cause hcause => h s cause (hcause ▸ he)⟩

end Action

section Plan

variable {α : Type} [Scalar α] {c : Config} {gamma : α}

theorem SlicePlan.ofConfig_of_scale_error {e : ConfigError α}
    (hscale : c.valueScale gamma = .error e) (batchSize : Nat) (replay : ReplayWindow) :
    ofConfig c batchSize replay gamma = .error (.error e) := by
  rw [ofConfig, hscale]
  rfl

theorem SlicePlan.ofConfig_of_overflow {scale : α} (hscale : c.valueScale gamma = .ok scale)
    (hover : Count.limit ≤ c.maxSliceLength + c.addedPolicySliceLength) (batchSize : Nat)
    (replay : ReplayWindow) :
    ofConfig c batchSize replay gamma = .error (.abort (.overflow .add)) := by
  have hmax : c.totalSliceLength = .error (.overflow .add) := Count.add_eq_error.2 ⟨hover, rfl⟩
  rw [ofConfig, hscale, hmax]
  rfl

/-- What a plan asks for. -/
theorem SlicePlan.request_of_ofConfig {batchSize : Nat} {replay : ReplayWindow} {p : SlicePlan α}
    (h : ofConfig c batchSize replay gamma = .ok p) :
    p.request = ⟨batchSize, c.maxSliceLength + c.addedPolicySliceLength,
      some (1 + c.addedPolicySliceLength), replay, false⟩ := by
  obtain ⟨scale, -, h⟩ := Attempt.bind_eq_ok.1 h
  obtain ⟨longest, hlongest, h⟩ := Attempt.bind_eq_ok.1 h
  obtain ⟨shortest, hshortest, h⟩ := Attempt.bind_eq_ok.1 h
  obtain ⟨-, rfl⟩ := Count.add_eq_ok.1 (Attempt.mapError_eq_ok.1 hlongest)
  obtain ⟨-, rfl⟩ := Count.add_eq_ok.1 (Attempt.mapError_eq_ok.1 hshortest)
  cases h
  rfl

end Plan

namespace Coordinator

variable {α ρ τ : Type} [Scalar α] {plan : RunPlan α}
  {valueFactory : TrainerFactory α (ValueBatch α) ρ}
  {policyFactory : TrainerFactory α (PolicyBatch α) τ}

/-- A failure of the plans is that of the construction, and leaves the world as it is. -/
theorem make_of_error {e : Failure (ConfigError α)}
    (h : ∀ batchSize,
      SlicePlan.ofConfig plan.config batchSize plan.replay plan.task.gamma = .error e)
    (w : RunWorld α) :
    make plan valueFactory policyFactory w = (.error (e.map .config), w) := by
  have hvalue : ValueBatchBuilder.ofConfig plan.config plan.task.gamma plan.algorithm.estimator
      plan.replay = .error e := by
    rw [ValueBatchBuilder.ofConfig, h]
    rfl
  rw [make, hvalue]
  rfl

omit [Scalar α] in
theorem neverAborts_hire {β γ : Type} (role : Role) {factory : TrainerFactory α β γ}
    (h : ∀ setup, (factory setup).NeverAborts)
    (source : BatchSource α (Supply α) (Stream (Trajectory α)) β) (dir : Option Path) :
    (hire role factory source dir).NeverAborts :=
  (Action.Respects.update fun _ _ => trivial).bind fun _ => h ⟨source, dir⟩

/-- With plans for both builders, what fails is an error: the directory that cannot be made, or one
that a factory gives. -/
theorem neverAborts_make
    (hplans : ∀ batchSize, ∃ p,
      SlicePlan.ofConfig plan.config batchSize plan.replay plan.task.gamma = .ok p)
    (hvalue : ∀ setup, (valueFactory setup).NeverAborts)
    (hpolicy : ∀ setup, (policyFactory setup).NeverAborts) :
    (make plan valueFactory policyFactory).NeverAborts := by
  obtain ⟨value, hvaluePlan⟩ := hplans plan.config.valueBatchSize
  obtain ⟨policy, hpolicyPlan⟩ := hplans plan.config.policyBatchSize
  have hires (valueBatches : ValueBatchBuilder α) (policyBatches : PolicyBatchBuilder α)
      (valueDir policyDir : Option Path) :
      (do
        let value ← hire .value valueFactory (valueBatches.source plan.task) valueDir
        let policy ← hire .policy policyFactory (policyBatches.source plan.task) policyDir
        return ⟨plan, valueBatches, policyBatches, value, policy, valueDir⟩ :
          Action α (RunWorld α) (Coordinator α ρ τ)).NeverAborts :=
    Action.Respects.bind (neverAborts_hire .value hvalue _ valueDir) fun _ =>
      Action.Respects.bind (neverAborts_hire .policy hpolicy _ policyDir) fun _ =>
        Action.Respects.pure _
  rw [make, ValueBatchBuilder.ofConfig, PolicyBatchBuilder.ofConfig, hvaluePlan, hpolicyPlan]
  refine Action.Respects.bind (a := pure (ValueBatchBuilder.mk value plan.algorithm.estimator))
    (Action.Respects.pure _) fun valueBatches => ?_
  refine Action.Respects.bind (a := pure (PolicyBatchBuilder.mk policy plan.algorithm))
    (Action.Respects.pure _) fun policyBatches => ?_
  cases plan.config.outputDir with
  | none => exact hires valueBatches policyBatches _ _
  | some dir =>
      refine Action.Respects.read_bind fun world _ => ?_
      refine Action.Respects.bind (Action.Respects.update fun _ _ => trivial) fun _ => ?_
      dsimp only
      split
      · refine Action.Respects.bind (Action.Respects.lift (r := Run.fail .io) ?_) fun _ => ?_
        · rintro e ⟨⟩ cause ⟨⟩
        · exact hires valueBatches policyBatches _ _
      · exact hires valueBatches policyBatches _ _

/-- Slices that are counts do not abort the construction, and neither does a scale that is refused
before their lengths are added up. -/
theorem returns_make (hlongest : 0 < plan.config.maxSliceLength)
    (hreason : plan.config.maxSliceLength + plan.config.addedPolicySliceLength < Count.limit ∨
      ∃ e, plan.config.valueScale plan.task.gamma = .error e)
    (hvalue : ∀ setup, (valueFactory setup).NeverAborts)
    (hpolicy : ∀ setup, (policyFactory setup).NeverAborts) (w : RunWorld α) :
    (make plan valueFactory policyFactory w).1.Returns := by
  cases hscale : plan.config.valueScale plan.task.gamma with
  | error e =>
      have hrefused : make plan valueFactory policyFactory w = (.error (.error (.config e)), w) :=
        make_of_error (e := .error e)
          (fun batchSize => SlicePlan.ofConfig_of_scale_error hscale batchSize _) w
      rw [hrefused]
      rintro cause ⟨⟩
  | ok scale =>
      have hfits : plan.config.maxSliceLength + plan.config.addedPolicySliceLength <
          Count.limit := by
        obtain hfits | ⟨e, he⟩ := hreason
        · exact hfits
        · cases hscale.symm.trans he
      have hplans (batchSize : Nat) :=
        SlicePlan.ofConfig_eq_ok hlongest hfits hscale batchSize plan.replay
      exact (neverAborts_make (fun batchSize => ⟨_, hplans batchSize⟩) hvalue hpolicy).returns w

/-- The requests of a coordinator's builders. -/
def requests (c : Coordinator α ρ τ) : List SliceRequest :=
  [c.valueBatches.plan.request, c.policyBatches.plan.request]

theorem requests_of_make {w w' : RunWorld α} {c : Coordinator α ρ τ}
    (h : make plan valueFactory policyFactory w = (.ok c, w')) :
    ∀ request ∈ c.requests,
      request.maxSliceLength = plan.config.maxSliceLength + plan.config.addedPolicySliceLength ∧
      request.minSliceLength = some (1 + plan.config.addedPolicySliceLength) ∧
      request.replay = plan.replay := by
  obtain ⟨hvalue, hpolicy⟩ := builders_of_make h
  obtain ⟨value, hvalue, hvalueBatches⟩ := Attempt.bind_eq_ok.1 hvalue
  obtain ⟨policy, hpolicy, hpolicyBatches⟩ := Attempt.bind_eq_ok.1 hpolicy
  have hvalueRequest := SlicePlan.request_of_ofConfig hvalue
  have hpolicyRequest := SlicePlan.request_of_ofConfig hpolicy
  refine List.forall_mem_cons.2 ⟨?_, List.forall_mem_cons.2 ⟨?_, nofun⟩⟩
  · rw [← Except.ok.inj hvalueBatches, hvalueRequest]
    exact ⟨rfl, rfl, rfl⟩
  · rw [← Except.ok.inj hpolicyBatches, hpolicyRequest]
    exact ⟨rfl, rfl, rfl⟩

end Coordinator

/-- A run is admitted, or refused for a window that its algorithm does not allow. -/
theorem RunPlan.make_of_valid {α : Type} [Scalar α] {c : Config}
    (hvalid : c.validate = (.ok () : Except (ConfigError α) Unit)) (algorithm : Algorithm α)
    (task : Task α) :
    make c algorithm task = .ok ⟨c, algorithm, task, ⟨c.replayEpochs⟩⟩ ∨
      algorithm.isOnPolicy = true ∧ c.replayEpochs ≠ 1 ∧
        make c algorithm task = .error (.onPolicyReplay algorithm.name c.replayEpochs) := by
  have hepochs : c.replayEpochs ≠ 0 :=
    (Config.validate_eq_ok.1 hvalid).1 .replayEpochs (by decide)
  rw [make, hvalid, Attempt.ok_bind, ReplayWindow.make, if_neg hepochs]
  by_cases h : algorithm.isOnPolicy = true ∧ c.replayEpochs ≠ 1
  · rw [if_pos h]
    exact .inr ⟨h.1, h.2, rfl⟩
  · rw [if_neg h]
    exact .inl rfl

/-- How a run is set up from a valid configuration. Its slice lengths are counts, the shortest at
least one and at most the longest, unless the longest leaves the range of counts; then construction
aborts, unless the scale of the values is refused before. Otherwise construction gives a coordinator
or an error as long as the factories do, where the epochs of the window fit into a list. The
requests of both builders then list the epochs from the latest on; a longer window they refuse. -/
theorem Coordinator.construction_aborts_iff_slices_overflow {α : Type} [Scalar α] {c : Config}
    (hvalid : c.validate = (.ok () : Except (ConfigError α) Unit)) :
    (c.maxSliceLength + c.addedPolicySliceLength < Count.limit →
      ∃ longest shortest, c.totalSliceLength = .ok longest ∧ c.minSliceLength = .ok shortest ∧
        longest = c.maxSliceLength + c.addedPolicySliceLength ∧ 1 ≤ shortest ∧
        shortest ≤ longest) ∧
    (Count.limit ≤ c.maxSliceLength + c.addedPolicySliceLength →
      c.totalSliceLength = .error (.overflow .add)) ∧
    ∀ (algorithm : Algorithm α) (task : Task α),
      (RunPlan.make c algorithm task = .ok ⟨c, algorithm, task, ⟨c.replayEpochs⟩⟩ ∨
        algorithm.isOnPolicy = true ∧ c.replayEpochs ≠ 1 ∧ RunPlan.make c algorithm task =
          .error (.onPolicyReplay algorithm.name c.replayEpochs)) ∧
      ∀ plan, RunPlan.make c algorithm task = .ok plan →
        ∀ (ρ τ : Type) (valueFactory : TrainerFactory α (ValueBatch α) ρ)
          (policyFactory : TrainerFactory α (PolicyBatch α) τ),
          (∀ setup w, (valueFactory setup w).1.Returns) →
          (∀ setup w, (policyFactory setup w).1.Returns) →
          ∀ w,
            (Count.limit ≤ c.maxSliceLength + c.addedPolicySliceLength →
              (∃ scale, c.valueScale task.gamma = .ok scale) →
              make plan valueFactory policyFactory w =
                (.error (.abort (.overflow .add)), w)) ∧
            (c.maxSliceLength + c.addedPolicySliceLength < Count.limit ∨
                (∃ e, c.valueScale task.gamma = .error e) →
              c.replayEpochs < ReplayWindow.listLimit →
              (make plan valueFactory policyFactory w).1.Returns) ∧
            ∀ coordinator v, make plan valueFactory policyFactory w = (.ok coordinator, v) →
              ∀ request ∈ coordinator.requests,
                request.maxSliceLength = c.maxSliceLength + c.addedPolicySliceLength ∧
                request.minSliceLength = some (1 + c.addedPolicySliceLength) ∧
                (c.replayEpochs < ReplayWindow.listLimit →
                  ∃ epochs, request.epochs = .ok epochs ∧ epochs.length = c.replayEpochs ∧
                    ∀ i, i < c.replayEpochs → epochs[i]? = some (-((i : Int) + 1))) ∧
                (ReplayWindow.listLimit ≤ c.replayEpochs → request.epochs = .error .refused) := by
  have hlongest : 0 < c.maxSliceLength :=
    Nat.pos_of_ne_zero ((Config.validate_eq_ok.1 hvalid).1 .maxSliceLength (by decide))
  refine ⟨fun hfits => ?_, fun hover => Count.add_eq_error.2 ⟨hover, rfl⟩, fun algorithm task =>
    ⟨RunPlan.make_of_valid hvalid algorithm task, fun plan hplan => ?_⟩⟩
  · obtain ⟨hmax, hmin⟩ := Config.lengths_eq_ok hlongest hfits
    exact ⟨_, _, hmax, hmin, rfl, Nat.le_add_right 1 _, Nat.add_le_add_right hlongest _⟩
  obtain rfl : plan = ⟨c, algorithm, task, ⟨c.replayEpochs⟩⟩ := by
    obtain hmade | ⟨-, -, hrefused⟩ := RunPlan.make_of_valid hvalid algorithm task
    · exact Except.ok.inj (hplan.symm.trans hmade)
    · cases hplan.symm.trans hrefused
  intro ρ τ valueFactory policyFactory hvalue hpolicy w
  refine ⟨?_, ?_, ?_⟩
  · rintro hover ⟨scale, hscale⟩
    refine make_of_error (e := .abort (.overflow .add)) (fun batchSize => ?_) w
    exact SlicePlan.ofConfig_of_overflow hscale hover batchSize _
  · intro hreason _
    exact returns_make hlongest hreason (fun setup => Action.neverAborts_of_returns (hvalue setup))
      (fun setup => Action.neverAborts_of_returns (hpolicy setup)) w
  · intro coordinator v hmake request hrequest
    obtain ⟨hmax, hmin, hreplay⟩ := requests_of_make hmake request hrequest
    rw [SliceRequest.epochs, hreplay]
    exact ⟨hmax, hmin, ReplayWindow.exists_epochs (w := ⟨c.replayEpochs⟩),
      ReplayWindow.epochs_eq_error (w := ⟨c.replayEpochs⟩)⟩

namespace Coordinator

/-- A trainer that does nothing, whatever it is given. -/
def idleFactory (β : Type) : TrainerFactory Float32 β Unit := fun _ => pure ()

def emptyTask : Task Float32 := .ofBatches 0 [1] []

def emptyWorld : RunWorld Float32 := startingWorld (Network.hiddenValue 0 1 1) .empty 0

/-- The weighted regression may sample from many epochs. -/
def regression : Algorithm Float32 := ⟨.standardAwr, .standard⟩

/-- Slices of three steps with two more to look ahead to, from the last three epochs. -/
def lookingAhead : Config where
  maxSliceLength := 3
  addedPolicySliceLength := 2
  replayEpochs := 3

/-- Each of the lengths is a count, but not their sum. -/
def endlessSlices : Config where
  maxSliceLength := 18446744073709551615
  addedPolicySliceLength := 1

/-- More epochs than a list can hold. -/
def endlessReplay : Config where
  replayEpochs := 1152921504606846976

theorem construction_aborts_iff_slices_overflow_three_epochs :
    lookingAhead.validate = (.ok () : Except (ConfigError Float32) Unit) ∧
    lookingAhead.totalSliceLength = .ok 5 ∧ lookingAhead.minSliceLength = .ok 3 ∧
    ∃ plan coordinator w, RunPlan.make lookingAhead regression emptyTask = .ok plan ∧
      make plan (idleFactory _) (idleFactory _) emptyWorld = (.ok coordinator, w) ∧
      (make plan (idleFactory _) (idleFactory _) emptyWorld).1.Returns ∧
      ∀ request ∈ coordinator.requests, ∃ epochs, request.epochs = .ok epochs ∧
        epochs.length = 3 ∧ epochs[0]? = some (-1) ∧ epochs[2]? = some (-3) := by
  have hvalid : lookingAhead.validate = (.ok () : Except (ConfigError Float32) Unit) := rfl
  have hidle (β : Type) (setup) (w) : (idleFactory β setup w).1.Returns := nofun
  obtain ⟨plan, hplan⟩ : ∃ plan, RunPlan.make lookingAhead regression emptyTask = .ok plan :=
    ⟨_, rfl⟩
  obtain ⟨coordinator, w, hmake⟩ : ∃ coordinator w,
      make plan (idleFactory _) (idleFactory _) emptyWorld = (.ok coordinator, w) := by
    cases hplan
    exact ⟨_, _, rfl⟩
  obtain ⟨-, -, hruns⟩ := construction_aborts_iff_slices_overflow hvalid
  obtain ⟨-, hreturns, hrequests⟩ := (hruns regression emptyTask).2 plan hplan Unit Unit
    (idleFactory _) (idleFactory _) (hidle _) (hidle _) emptyWorld
  refine ⟨hvalid, rfl, rfl, plan, coordinator, w, hplan, hmake,
    hreturns (.inl (by decide)) (by decide), fun request hrequest => ?_⟩
  obtain ⟨-, -, hlisted, -⟩ := hrequests coordinator w hmake request hrequest
  obtain ⟨epochs, hepochs, hlength, hentries⟩ := hlisted (by decide)
  exact ⟨epochs, hepochs, hlength, hentries 0 (by decide), hentries 2 (by decide)⟩

/-- Two configurations that are valid. With the one construction aborts; with the other the requests
do. -/
theorem construction_aborts_endless :
    endlessSlices.validate = (.ok () : Except (ConfigError Float32) Unit) ∧
    endlessSlices.totalSliceLength = .error (.overflow .add) ∧
    (∃ plan, RunPlan.make endlessSlices ⟨.a2c, .standard⟩ emptyTask = .ok plan ∧
      make plan (idleFactory _) (idleFactory _) emptyWorld =
        (.error (.abort (.overflow .add)), emptyWorld)) ∧
    endlessReplay.validate = (.ok () : Except (ConfigError Float32) Unit) ∧
    ∃ plan coordinator w, RunPlan.make endlessReplay regression emptyTask = .ok plan ∧
      make plan (idleFactory _) (idleFactory _) emptyWorld = (.ok coordinator, w) ∧
      ∀ request ∈ coordinator.requests, request.epochs = .error .refused := by
  refine ⟨rfl, rfl, ⟨_, rfl, ?_⟩, rfl, _, _, _, rfl, rfl, ?_⟩
  · refine make_of_error (e := .abort (.overflow .add)) (fun batchSize => ?_) emptyWorld
    exact SlicePlan.ofConfig_of_overflow rfl (by decide) batchSize _
  · intro request hrequest
    obtain rfl | hrequest := List.mem_cons.1 hrequest
    · rfl
    · obtain rfl := List.mem_singleton.1 hrequest
      rfl

end Coordinator
end ActorCritic
