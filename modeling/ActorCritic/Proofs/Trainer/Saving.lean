import ActorCritic.Proofs.Action
import ActorCritic.Proofs.Metrics.Table
import ActorCritic.Proofs.Network.Snapshot
import ActorCritic.Proofs.Optimizer
import ActorCritic.Proofs.Trainer.Gradient

/-!
What a trainer does around its checkpoints: how it opens its directory, and what may have become of
it by the time it saves. Training and evaluation touch no file and take no step back, and whatever
weights are put in, there are as many parameters as before.
-/

namespace ActorCritic

open Checkpointer

namespace GradientTrainer

section Make

variable {σ κ β ι ο μ : Type} {name : String} {network : Network Float32 ι ο}
  {optimizer : Optimizer Float32 μ} {schedule : Nat → Float}
  {score : Network Float32 ι ο → β → Run Float32 (Score Float32)}
  {source : BatchSource Float32 σ κ β} {dir : Path} {w v : World Float32 σ}
  {t : GradientTrainer σ κ β ι ο μ}

/-- The table of the reports in a directory. -/
def tableName : String := "metrics.csv"

/-- A trainer with a directory is made if the directory is opened and its table is created. -/
theorem make_eq_ok :
    make name network optimizer schedule score ⟨source, some dir⟩ w = (.ok t, v) ↔
      ∃ c files id tree, openAt dir defaultKeep w.files = (.ok c, files) ∧
        files.write? (dir.child tableName) (.ofText "") = some (id, tree) ∧
        { name, network, optimizer, memory := [], schedule, score, source, trainStream := none
          evalStream := none, step := 0, checkpointer := some c
          loggers := [.lines [], .csv id 0 .empty], history := [] } = t ∧
        { w with files := tree } = v := by
  unfold make
  dsimp only
  rw [Action.read_bind_eq]
  cases hopen : openAt dir defaultKeep w.files with
  | mk opened files =>
  dsimp only
  constructor
  · intro h
    obtain ⟨⟨⟩, _, hopened, h⟩ := Action.bind_eq_ok.1 h
    obtain rfl := Action.update_eq_ok.1 hopened
    obtain ⟨c, _, hcheckpointer, h⟩ := Action.bind_eq_ok.1 h
    obtain ⟨hc, rfl⟩ := Action.lift_eq.1 hcheckpointer
    obtain ⟨table, _, hcreated, h⟩ := Action.bind_eq_ok.1 h
    obtain ⟨htable, rfl⟩ := Action.lift_eq.1 hcreated
    obtain ⟨id, tree, hwrite, rfl⟩ := Logger.openCsv_eq_ok.1 htable
    obtain ⟨⟨⟩, _, hfiles, h⟩ := Action.bind_eq_ok.1 h
    obtain rfl := Action.update_eq_ok.1 hfiles
    obtain ⟨ht, hv⟩ := Action.pure_eq_ok.1 h
    exact ⟨c, files, id, tree, Prod.ext (Attempt.mapError_eq_ok.1 hc) rfl, hwrite, ht, hv⟩
  · rintro ⟨c, files', id, tree, hc, hwrite, rfl, rfl⟩
    cases hc
    refine Action.bind_eq_ok.2 ⟨(), _, rfl, ?_⟩
    refine Action.bind_eq_ok.2 ⟨c, _, Action.lift_eq.2 ⟨rfl, rfl⟩, ?_⟩
    refine Action.bind_eq_ok.2 ⟨(.csv id 0 .empty, tree), _, Action.lift_eq.2 ⟨?_, rfl⟩, rfl⟩
    exact Logger.openCsv_eq_ok.2 ⟨id, tree, hwrite, rfl⟩

end Make

variable {σ κ β ι ο μ : Type}

/-- A round up to its checkpoint. -/
def beforeSave (steps evalSteps : Nat) : TrainerAction σ κ β ι ο μ Unit := do
  let (t, _) ← Action.read
  let (rate, losses) ← trainSteps steps (t.schedule t.step) .empty
  let metrics ← evaluate evalSteps .empty
  let (t, _) ← Action.read
  report {
    trainer := t.name
    step := t.step
    learningRate := rate
    trainLoss := (losses.mean? "loss").getD 0
    metrics := metrics }

theorem trainRound_eq (steps evalSteps : Nat) :
    (trainRound steps evalSteps : TrainerAction σ κ β ι ο μ Unit) =
      beforeSave steps evalSteps >>= fun _ => saveCheckpoint := by
  simp only [trainRound, beforeSave, bind_assoc]

/-- What a trainer may have become before it saves: no file is touched, no step is taken back, and
the network has as many parameters as before. -/
structure Onward (x y : GradientTrainer σ κ β ι ο μ × World Float32 σ) : Prop where
  files : y.2.files = x.2.files
  checkpointer : y.1.checkpointer = x.1.checkpointer
  count : y.1.network.params.length = x.1.network.params.length
  step_le : x.1.step ≤ y.1.step
  step_lt : x.1.step < Count.limit → y.1.step < Count.limit

theorem Onward.refl (x : GradientTrainer σ κ β ι ο μ × World Float32 σ) : Onward x x :=
  ⟨rfl, rfl, rfl, Nat.le_refl _, id⟩

/-- The action leads onward, whether it ends well or not. -/
def GoesOn {γ : Type} (x : GradientTrainer σ κ β ι ο μ × World Float32 σ)
    (a : TrainerAction σ κ β ι ο μ γ) : Prop :=
  Action.Respects (Onward x) (fun _ => True) a

variable (x : GradientTrainer σ κ β ι ο μ × World Float32 σ)

theorem goesOn_nextTrainBatch : GoesOn x nextTrainBatch :=
  fun _ h => ⟨⟨h.files, h.checkpointer, h.count, h.step_le, h.step_lt⟩, fun _ _ => trivial⟩

theorem goesOn_nextEvalBatch : GoesOn x nextEvalBatch :=
  fun _ h => ⟨⟨h.files, h.checkpointer, h.count, h.step_le, h.step_lt⟩, fun _ _ => trivial⟩

theorem goesOn_applyGradients (rate : Float) (gradients : List (Tensor Float32)) :
    GoesOn x (applyGradients rate gradients) := by
  refine Action.Respects.read_bind fun y hy => ?_
  refine Action.Respects.lift_abort_bind (fun _ => trivial) fun moved hmoved => ?_
  have hcount : moved.1.length = x.1.network.params.length :=
    (Optimizer.updated_of_update hmoved).length_eq.trans hy.count
  refine Action.Respects.bind (Action.Respects.update fun z hz => ?_) fun _ => ?_
  · exact ⟨hz.files, hz.checkpointer, hcount, hz.step_le, hz.step_lt⟩
  refine Action.Respects.lift_abort_bind (fun _ => trivial) fun step hstep => ?_
  obtain ⟨hlimit, rfl⟩ := Count.add_eq_ok.1 hstep
  refine Action.Respects.update fun z hz => ?_
  exact ⟨hz.files, hz.checkpointer, hz.count, Nat.le_succ_of_le hy.step_le, fun _ => hlimit⟩

theorem goesOn_trainSteps (steps : Nat) (rate : Float) (losses : MetricMeans) :
    GoesOn x (trainSteps steps rate losses) :=
  respects_trainSteps (fun _ => trivial) (fun _ _ _ _ _ => trivial) (goesOn_nextTrainBatch x)
    (fun _ _ _ _ gradients _ _ rate => goesOn_applyGradients x rate gradients) _ _ _

theorem goesOn_evaluate (steps : Nat) (means : MetricMeans) : GoesOn x (evaluate steps means) :=
  respects_evaluate (fun _ => trivial) (fun _ _ _ _ _ => trivial) (goesOn_nextEvalBatch x) _ _

theorem goesOn_beforeSave (steps evalSteps : Nat) : GoesOn x (beforeSave steps evalSteps) := by
  refine Action.Respects.read_bind fun y _ => ?_
  refine (goesOn_trainSteps x steps _ _).bind ?_
  rintro ⟨rate, losses⟩
  refine (goesOn_evaluate x evalSteps _).bind fun metrics => ?_
  refine Action.Respects.read_bind fun z _ => Action.Respects.update fun _ h => ?_
  exact ⟨h.files, h.checkpointer, h.count, h.step_le, h.step_lt⟩

theorem goesOn_setWeights (s : Snapshot Float32) :
    GoesOn x (Trainer.setWeights s : TrainerAction σ κ β ι ο μ Unit) := by
  refine Action.Respects.read_bind fun y hy => ?_
  refine Action.Respects.lift_bind (fun _ _ => trivial) fun network hload => ?_
  obtain ⟨-, hlength, -, rfl⟩ := Network.load_cases.1 (Attempt.mapError_eq_ok.1 hload)
  refine Action.Respects.update fun z hz => ?_
  refine ⟨hz.files, hz.checkpointer, ?_, hz.step_le, hz.step_lt⟩
  rw [List.length_zipWith, ← hlength, Nat.min_self, hy.count]

theorem goesOn_setState (s : Snapshot Float32) :
    GoesOn x (Trainer.setState s : TrainerAction σ κ β ι ο μ Unit) := by
  refine Action.Respects.read_bind fun y hy => ?_
  refine Action.Respects.lift_bind (fun _ _ => trivial) fun network hstate => ?_
  have hsame := Attempt.mapError_eq_ok.1 hstate
  unfold Network.withState at hsame
  split at hsame
  · cases hsame
    refine Action.Respects.update fun z hz => ?_
    exact ⟨hz.files, hz.checkpointer, hy.count, hz.step_le, hz.step_lt⟩
  · cases hsame

end GradientTrainer
end ActorCritic
