import ActorCritic.Batch.Plan

/-!
Builders of training batches. Both run the value target on a trajectory batch and estimate
advantages; a value batch gets the sum of values and advantages as its targets, a policy batch
the advantages themselves.
-/

namespace ActorCritic

structure ValueBatchBuilder (α : Type) where
  plan : SlicePlan α
  estimator : Estimator α

structure PolicyBatchBuilder (α : Type) where
  plan : SlicePlan α
  algorithm : Algorithm α

variable {α : Type}

namespace ValueBatchBuilder

def ofConfig [Scalar α] (c : Config) (gamma : α) (estimator : Estimator α)
    (replay : ReplayWindow) : Attempt (ConfigError α) (ValueBatchBuilder α) := do
  return ⟨← SlicePlan.ofConfig c c.valueBatchSize replay gamma, estimator⟩

/-- The targets are divided by the scale that the values were multiplied by. -/
def build [Add α] [Mul α] [Div α] (b : ValueBatchBuilder α) (target : ValueTarget α)
    (trajectory : Trajectory α) : Attempt ShapeError (ValueBatch α) := do
  trajectory.validate
  let values ← valueEstimates target trajectory b.plan.scale
  let advantages ← estimateAdvantages b.estimator trajectory values b.plan.context
  let kept := values.truncate advantages.cols
  let targets ← StepMatrix.ofEntries advantages.rows advantages.cols
    (List.zipWith (fun v a => (v + a) / b.plan.scale) kept.entries advantages.entries)
  return {
    observations := ← trajectory.observations.timePrefix advantages.cols
    targets := StepTensor.ofSteps targets
    mask := StepTensor.ofSteps (← trajectory.mask.timePrefix advantages.cols) }

end ValueBatchBuilder

namespace PolicyBatchBuilder

def ofConfig [Scalar α] (c : Config) (gamma : α) (algorithm : Algorithm α)
    (replay : ReplayWindow) : Attempt (ConfigError α) (PolicyBatchBuilder α) := do
  return ⟨← SlicePlan.ofConfig c c.policyBatchSize replay gamma, algorithm⟩

/-- The values have to have a row per slice of the requested batch size. -/
def build [Mul α] (b : PolicyBatchBuilder α) (target : ValueTarget α)
    (trajectory : Trajectory α) : Attempt ShapeError (PolicyBatch α) := do
  trajectory.validate
  let values ← valueEstimates target trajectory b.plan.scale
  if values.rows ≠ b.plan.batchSize then
    Attempt.fail (.policyBatchSize b.plan.batchSize values.rows)
  policyInputs b.algorithm.estimator trajectory values b.plan.context

end PolicyBatchBuilder
end ActorCritic
