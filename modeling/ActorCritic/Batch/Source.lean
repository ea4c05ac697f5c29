import ActorCritic.Batch.Builder
import ActorCritic.Task
import ActorCritic.World

/-!
Training batches as the input of trainers. Every stream asks the task for slices once, and every
pull builds one batch with the value target as it is at that moment.
-/

namespace ActorCritic

/-- The value target that batches are built with, and the requests made so far. -/
structure Supply (α : Type) where
  target : ValueTarget α
  requests : List SliceRequest

namespace BatchSource

variable {α β : Type}

/-- Streams of batches built from the trajectories of a task. -/
def ofTask (task : Task α) (request : SliceRequest)
    (build : ValueTarget α → Trajectory α → Attempt ShapeError β) :
    BatchSource α (Supply α) (Stream (Trajectory α)) β where
  start supply :=
    match task.stream request with
    | .error a => (.error a, supply)
    | .ok stream => (.ok stream, { supply with requests := supply.requests ++ [request] })
  pull supply stream :=
    let (trajectory, stream) := stream.next
    (trajectory.map fun t => (build supply.target t).widen .shape, stream)

end BatchSource

def ValueBatchBuilder.source {α : Type} [Add α] [Mul α] [Div α] (b : ValueBatchBuilder α)
    (task : Task α) : BatchSource α (Supply α) (Stream (Trajectory α)) (ValueBatch α) :=
  BatchSource.ofTask task b.plan.request b.build

def PolicyBatchBuilder.source {α : Type} [Mul α] (b : PolicyBatchBuilder α)
    (task : Task α) : BatchSource α (Supply α) (Stream (Trajectory α)) (PolicyBatch α) :=
  BatchSource.ofTask task b.plan.request b.build

end ActorCritic
