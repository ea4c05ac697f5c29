import ActorCritic.Stream
import ActorCritic.Trajectory

/-!
Tasks: a discount factor, the shape of an observation, and streams of trajectory batches that
answer slice requests. Every request starts a stream of its own.
-/

namespace ActorCritic

structure Task (α : Type) where
  gamma : α
  observationShape : List Nat
  slices : SliceRequest → Except Abort (Stream (Trajectory α))

namespace Task

variable {α : Type}

/-- Asks for slices; the epochs of the request are listed first. -/
def stream (t : Task α) (request : SliceRequest) : Except Abort (Stream (Trajectory α)) := do
  let _ ← request.epochs
  t.slices request

/-- Yields the given batches once, whatever is requested. -/
def ofBatches (gamma : α) (observationShape : List Nat) (batches : List (Trajectory α)) :
    Task α :=
  ⟨gamma, observationShape, fun _ => .ok (Stream.ofList batches)⟩

section Constant

variable [Scalar α]

/-- The discounted sums of `length` equal rewards from every step on. -/
def constantReturns (reward gamma : α) : (length : Nat) → List α
  | 0 => []
  | length + 1 =>
      let later := constantReturns reward gamma length
      (reward + gamma * later.headD 0) :: later

theorem length_constantReturns (reward gamma : α) (length : Nat) :
    (constantReturns reward gamma length).length = length := by
  induction length with
  | zero => rfl
  | succ n ih => simp [constantReturns, ih]

/-- Slices in which every step has the same reward. Observations are ones and actions zeros. -/
def constantTrajectory (batch length observations actions : Nat) (reward gamma : α) :
    Except Abort (Trajectory α) := do
  if StepMatrix.entryLimit ≤ length then throw .refused
  let steps ← Count.mul batch length
  if StepMatrix.entryLimit ≤ steps ∨ StepMatrix.entryLimit ≤ steps * observations ∨
      StepMatrix.entryLimit ≤ steps * actions then throw .refused
  let returns := constantReturns reward gamma length
  return {
    observations := StepTensor.fill batch length observations 1
    actions := StepTensor.fill batch length actions 0
    rewards := StepMatrix.fill batch length reward
    returns := ⟨batch, length, (List.replicate batch returns).flatten, by
      rw [length_flatten_of_forall length]
      · simp
      · intro b hb
        rw [List.eq_of_mem_replicate hb, length_constantReturns]⟩
    logProbs := StepMatrix.fill batch length 0
    mask := StepMatrix.fill batch length 1 }

/-- A task that yields one trajectory batch with constant rewards again and again, as long as
the longest slice requested. `batchSize` replaces the requested batch size. -/
def constant (gamma : α) (observations actions : Nat) (reward : α) (batchSize : Option Nat) :
    Task α where
  gamma := gamma
  observationShape := [observations]
  slices request := do
    let trajectory ← constantTrajectory (batchSize.getD request.batchSize)
      request.maxSliceLength observations actions reward gamma
    return Stream.ofItems fun _ => some trajectory

end Constant

end Task
end ActorCritic
