import ActorCritic.Count
import ActorCritic.Error.Config
import ActorCritic.Scalar

/-!
What makes a configuration usable, and the quantities that follow from it.
-/

namespace ActorCritic
namespace Config

/-- The counts that may not be zero, in the order of their check. -/
def positiveFields : List CountField :=
  [.valueBatchSize, .valueTrainStepsPerEpoch, .valueEvalsPerEpoch, .valueEvalSteps,
   .policyBatchSize, .policyTrainStepsPerEpoch, .policyEvalsPerEpoch, .policyEvalSteps,
   .maxSliceLength, .replayEpochs]

/-- An epoch's steps have to split into its rounds without rest. -/
def validateSplit {α : Type} (trainer : Role) (stepsPerEpoch evalsPerEpoch : Nat) :
    Except (ConfigError α) Unit :=
  if stepsPerEpoch < evalsPerEpoch then
    .error (.invalidEvalSplit trainer stepsPerEpoch evalsPerEpoch)
  else if stepsPerEpoch % evalsPerEpoch ≠ 0 then
    .error (.unevenEvalSplit trainer stepsPerEpoch evalsPerEpoch)
  else .ok ()

def validate {α : Type} (c : Config) : Except (ConfigError α) Unit := do
  match positiveFields.find? fun f => f.get c = 0 with
  | some f => throw (.invalidCount f 0)
  | none => pure ()
  validateSplit .value c.valueTrainStepsPerEpoch c.valueEvalsPerEpoch
  validateSplit .policy c.policyTrainStepsPerEpoch c.policyEvalsPerEpoch

def totalSliceLength (c : Config) : Except Abort Nat :=
  Count.add c.maxSliceLength c.addedPolicySliceLength

def minSliceLength (c : Config) : Except Abort Nat := Count.add 1 c.addedPolicySliceLength

def valueStepsPerEval (c : Config) : Nat := c.valueTrainStepsPerEpoch / max c.valueEvalsPerEpoch 1

def policyStepsPerEval (c : Config) : Nat :=
  c.policyTrainStepsPerEpoch / max c.policyEvalsPerEpoch 1

/-- The factor between the value network's output and value estimates: with scaled targets the
discounted sum of ones, which needs a discount in `[0, 1)`. -/
def valueScale {α : Type} [Scalar α] (c : Config) (gamma : α) : Except (ConfigError α) α :=
  if c.scaleValueTargets then
    if 0 ≤ gamma ∧ gamma < 1 then .ok (1 / (1 - gamma))
    else .error (.outOfRange "gamma (with scale_value_targets)" gamma 0 1)
  else .ok 1

end Config
end ActorCritic
