import ActorCritic.Algorithm
import ActorCritic.Batch.Basic
import ActorCritic.Network.Models

/-!
Networks scored on training batches: the loss, what is reported beside it, and the gradient of
every parameter.
-/

namespace ActorCritic

structure Score (α : Type) where
  loss : α
  metrics : Metrics α
  gradients : Except Abort (List (Tensor α))

namespace Score

variable {α : Type} [Scalar α]

def value (network : ValueNetwork α) (batch : ValueBatch α) : Except Abort (Score α) := do
  let traced ← network.trace batch.observations
  let loss ← Loss.squaredError traced.output.toTensor batch.targets.toTensor batch.mask.toTensor
  return {
    loss := loss.value
    metrics := []
    gradients :=
      match StepTensor.ofTensor? loss.gradient with
      | some g => traced.pullback g
      | none => .error .refused }

/-- The advantages that a loss uses: normalized if the algorithm says so. -/
def effectiveAdvantages (algorithm : Algorithm α) (advantages : StepMatrix α) : StepMatrix α :=
  match algorithm.normalizationEpsilon with
  | some epsilon => advantages.normalize epsilon
  | none => advantages

/-- The algorithm's loss of the policy's log-probabilities. The report is about the advantages
before normalization. -/
def policy (algorithm : Algorithm α) (network : PolicyNetwork α) (batch : PolicyBatch α) :
    Except Abort (Score α) := do
  let traced ← network.trace (batch.observations, batch.actions)
  let advantages := effectiveAdvantages algorithm batch.advantages
  let loss ← algorithm.objective.loss traced.output.toTensor advantages.toTensor
    batch.oldLogProbs.toTensor batch.mask.toTensor
  return {
    loss := loss.value
    metrics := algorithm.metrics batch.advantages
    gradients :=
      match StepMatrix.ofTensor? loss.gradient with
      | some g => traced.pullback g
      | none => .error .refused }

end Score
end ActorCritic
