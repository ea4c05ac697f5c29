import ActorCritic.Error
import ActorCritic.Network.Models

/-!
The value target: a copy of the value network that advantages and value targets are computed
with. It changes only by a refresh, which counts its version up.
-/

namespace ActorCritic

structure ValueTarget (α : Type) where
  network : ValueNetwork α
  version : Nat

namespace ValueTarget

variable {α : Type}

def make (network : ValueNetwork α) : ValueTarget α := ⟨network, 0⟩

/-- Loads a snapshot of weights and state; one that does not fit changes nothing. -/
def refresh (t : ValueTarget α) (weights state : Snapshot α) :
    Attempt ParamsError (ValueTarget α) := do
  let network ← (← t.network.load weights).withState state
  return ⟨network, t.version + 1⟩

def predict (t : ValueTarget α) (observations : StepTensor α) : Except Abort (StepTensor α) :=
  t.network.forward observations

def weights (t : ValueTarget α) : Attempt ParamsError (Snapshot α) := t.network.weights

def state (t : ValueTarget α) : Snapshot α := t.network.state

end ValueTarget
end ActorCritic
