import ActorCritic.Algorithm
import ActorCritic.Error.Config
import ActorCritic.Trajectory

/-!
Which windows of recent epochs a run may sample its batches from.
-/

namespace ActorCritic
namespace ReplayWindow

variable {α : Type}

/-- A window holds at least one epoch, and only one where the data has to be on-policy. -/
def make (epochCount : Nat) (onPolicy : Bool) (algorithm : String) :
    Except (ConfigError α) ReplayWindow :=
  if epochCount = 0 then .error (.invalidCount .replayEpochs 0)
  else if onPolicy ∧ epochCount ≠ 1 then .error (.onPolicyReplay algorithm epochCount)
  else .ok ⟨epochCount⟩

end ReplayWindow
end ActorCritic
