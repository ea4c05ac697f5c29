import ActorCritic.Advantage.Estimator
import ActorCritic.Error
import ActorCritic.Trajectory

/-!
Training batches and how they are cut from a trajectory batch. A batch has the steps for which
there are advantages: the first ones of the slice.
-/

namespace ActorCritic

structure AdvantageContext (α : Type) where
  gamma : α
  extraSteps : Nat

/-- Targets and mask hold one number per step. -/
structure ValueBatch (α : Type) where
  observations : StepTensor α
  targets : StepTensor α
  mask : StepTensor α
deriving DecidableEq

structure PolicyBatch (α : Type) where
  observations : StepTensor α
  actions : StepTensor α
  advantages : StepMatrix α
  oldLogProbs : StepMatrix α
  mask : StepMatrix α
deriving DecidableEq

variable {α : Type}

/-- The advantages of a trajectory batch. They have to keep its rows and may not have more
steps. -/
def estimateAdvantages (estimator : Estimator α) (trajectory : Trajectory α)
    (values : StepMatrix α) (context : AdvantageContext α) :
    Attempt ShapeError (StepMatrix α) := do
  let advantages ← estimator.estimate trajectory.rewards trajectory.returns values
    context.gamma context.extraSteps
  if advantages.rows ≠ trajectory.rewards.rows ∨ trajectory.rewards.cols < advantages.cols then
    Attempt.fail (.advantages trajectory.rewards.extent advantages.extent)
  return advantages

/-- The extents that have to agree with those of the advantages, in the order of their check. -/
def PolicyBatch.extents (b : PolicyBatch α) : List (BatchField × (Nat × Nat)) :=
  [(.actions, b.actions.extent), (.observations, b.observations.extent),
   (.oldLogProbs, b.oldLogProbs.extent), (.mask, b.mask.extent)]

/-- The policy batch of a trajectory batch, cut to the steps of its advantages. -/
def policyInputs (estimator : Estimator α) (trajectory : Trajectory α) (values : StepMatrix α)
    (context : AdvantageContext α) : Attempt ShapeError (PolicyBatch α) := do
  let advantages ← estimateAdvantages estimator trajectory values context
  let batch : PolicyBatch α := {
    observations := ← trajectory.observations.timePrefix advantages.cols
    actions := ← trajectory.actions.timePrefix advantages.cols
    advantages := advantages
    oldLogProbs := ← trajectory.logProbs.timePrefix advantages.cols
    mask := ← trajectory.mask.timePrefix advantages.cols }
  match batch.extents.find? fun field => field.2 ≠ advantages.extent with
  | some (field, actual) => Attempt.fail (.policyInput field advantages.extent actual)
  | none => return batch

end ActorCritic
