import ActorCritic.Batch.Basic
import ActorCritic.Batch.Replay
import ActorCritic.Config.Rules
import ActorCritic.ValueTarget

/-!
What the builders of value and of policy batches share: which slices they ask a task for, and
how value estimates come from the value target.
-/

namespace ActorCritic

structure SlicePlan (α : Type) where
  gamma : α
  batchSize : Nat
  maxSliceLength : Nat
  minSliceLength : Nat
  replay : ReplayWindow
  extraSteps : Nat
  scale : α

namespace SlicePlan

variable {α : Type}

/-- Slices are as long as configured, with the steps that are only looked ahead to. -/
def ofConfig [Scalar α] (c : Config) (batchSize : Nat) (replay : ReplayWindow) (gamma : α) :
    Attempt (ConfigError α) (SlicePlan α) := do
  let scale ← c.valueScale gamma
  return {
    gamma := gamma
    batchSize := batchSize
    maxSliceLength := ← c.totalSliceLength
    minSliceLength := ← c.minSliceLength
    replay := replay
    extraSteps := c.addedPolicySliceLength
    scale := scale }

def request (p : SlicePlan α) : SliceRequest where
  batchSize := p.batchSize
  maxSliceLength := p.maxSliceLength
  minSliceLength := some p.minSliceLength
  replay := p.replay
  includeFinalState := false

def context (p : SlicePlan α) : AdvantageContext α := ⟨p.gamma, p.extraSteps⟩

end SlicePlan

/-- The outputs of the value target times the scale. The network has to have one channel. -/
def valueEstimates {α : Type} [Mul α] (target : ValueTarget α) (trajectory : Trajectory α)
    (scale : α) : Attempt ShapeError (StepMatrix α) := do
  let values ← target.predict trajectory.observations
  match values.toSteps? with
  | none => Attempt.fail (.valueChannel values.batch values.time values.features)
  | some steps => return steps.map (· * scale)

end ActorCritic
