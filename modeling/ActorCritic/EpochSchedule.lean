import ActorCritic.Count
import ActorCritic.Error.Schedule

/-!
How many rounds of an epoch remain, given the step that a trainer has reached. Every epoch takes
the same number of steps, split into rounds of one length.
-/

namespace ActorCritic

/-- A step past the end of the epoch leaves no round. -/
def remainingRounds (currentStep epoch stepsPerEpoch evalsPerEpoch : Nat) :
    Attempt ScheduleError Nat := do
  let epochStart ← Count.mul epoch stepsPerEpoch
  if currentStep < epochStart then Attempt.fail (.stepBehindEpoch currentStep epochStart)
  let doneSteps := currentStep - epochStart
  let stepsPerEval := stepsPerEpoch / evalsPerEpoch
  if stepsPerEval = 0 then Attempt.fail (.zeroStepsPerEval stepsPerEpoch evalsPerEpoch)
  if stepsPerEpoch % evalsPerEpoch ≠ 0 then
    Attempt.fail (.unevenEvalSplit stepsPerEpoch evalsPerEpoch)
  if doneSteps % stepsPerEval ≠ 0 then Attempt.fail (.misalignedStep doneSteps stepsPerEval)
  return evalsPerEpoch - doneSteps / stepsPerEval

end ActorCritic
