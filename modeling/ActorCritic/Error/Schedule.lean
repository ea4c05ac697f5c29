/-!
Causes of failure where a trainer's step does not fit the rounds of an epoch.
-/

namespace ActorCritic

inductive ScheduleError where
  | stepBehindEpoch (currentStep epochStart : Nat)
  | zeroStepsPerEval (stepsPerEpoch evalsPerEpoch : Nat)
  | unevenEvalSplit (stepsPerEpoch evalsPerEpoch : Nat)
  | misalignedStep (doneSteps stepsPerEval : Nat)
deriving DecidableEq, Repr

namespace ScheduleError

def kind : ScheduleError → String
  | stepBehindEpoch .. => "Schedule.StepBehindEpoch"
  | zeroStepsPerEval .. => "Schedule.ZeroStepsPerEval"
  | unevenEvalSplit .. => "Schedule.UnevenEvalSplit"
  | misalignedStep .. => "Schedule.MisalignedStep"

def message : ScheduleError → String
  | stepBehindEpoch currentStep epochStart =>
      s!"current step ({currentStep}) < previously done steps ({epochStart})"
  | zeroStepsPerEval stepsPerEpoch evalsPerEpoch =>
      s!"{stepsPerEpoch} steps per epoch cannot be split into {evalsPerEpoch} evaluations"
  | unevenEvalSplit stepsPerEpoch evalsPerEpoch =>
      s!"{stepsPerEpoch} steps per epoch are not a multiple of {evalsPerEpoch} evaluations"
  | misalignedStep doneSteps stepsPerEval =>
      s!"done steps ({doneSteps}) must be a multiple of train steps per eval ({stepsPerEval})"

end ScheduleError

end ActorCritic
