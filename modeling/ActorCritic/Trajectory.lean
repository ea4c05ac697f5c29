import ActorCritic.StepTensor

/-!
Batches of episode slices as a task yields them, and the request that a task answers. In a
valid batch every field has the rows and the steps of the rewards.
-/

namespace ActorCritic

structure Trajectory (α : Type) where
  observations : StepTensor α
  actions : StepTensor α
  rewards : StepMatrix α
  returns : StepMatrix α
  logProbs : StepMatrix α
  mask : StepMatrix α
deriving DecidableEq

namespace Trajectory

variable {α : Type}

def batchSize (t : Trajectory α) : Nat := t.rewards.rows

def length (t : Trajectory α) : Nat := t.rewards.cols

/-- The extents that have to agree with those of the rewards, in the order of their check. -/
def extents (t : Trajectory α) : List (BatchField × (Nat × Nat)) :=
  [(.observations, t.observations.extent), (.actions, t.actions.extent),
   (.returns, t.returns.extent), (.logProbs, t.logProbs.extent), (.mask, t.mask.extent)]

/-- Names the first field that does not fit. -/
def validate (t : Trajectory α) : Except ShapeError Unit :=
  match t.extents.find? fun field => field.2 ≠ t.rewards.extent with
  | none => .ok ()
  | some (field, actual) => .error (.trajectory field t.rewards.extent actual)

end Trajectory

/-- The most recent epochs, which batches are sampled from. -/
structure ReplayWindow where
  epochCount : Nat
deriving DecidableEq, Repr

namespace ReplayWindow

/-- The number of epochs from which on no list of them fits. -/
def listLimit : Nat := Nat.pow 2 60

/-- The epochs `-1`, …, `-n`, the latest first. -/
def epochs (w : ReplayWindow) : Except Abort (List Int) :=
  if listLimit ≤ w.epochCount then .error .refused
  else .ok ((List.range w.epochCount).map fun (i : Nat) => -((i : Int) + 1))

end ReplayWindow

/-- What a batch builder asks of a task. Epochs count back from the latest, which is `-1`. -/
structure SliceRequest where
  batchSize : Nat
  maxSliceLength : Nat
  minSliceLength : Option Nat
  replay : ReplayWindow
  includeFinalState : Bool
deriving DecidableEq, Repr

def SliceRequest.epochs (r : SliceRequest) : Except Abort (List Int) := r.replay.epochs

end ActorCritic
