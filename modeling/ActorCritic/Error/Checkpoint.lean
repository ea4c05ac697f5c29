import ActorCritic.FileTree

/-!
Causes of failure around checkpoint files. The messages end where the words of the file system
would follow.
-/

namespace ActorCritic

inductive CheckpointError where
  | dir (dir : Path)
  | save (step : Nat)
  | load (path : Path)
  | prune (path : Path)
  | empty (dir : Path)
deriving DecidableEq, Repr

namespace CheckpointError

def kind : CheckpointError → String
  | dir _ => "Checkpoint.Dir"
  | save _ => "Checkpoint.Save"
  | load _ => "Checkpoint.Load"
  | prune _ => "Checkpoint.Prune"
  | empty _ => "Checkpoint.Empty"

def message : CheckpointError → String
  | dir d => s!"checkpoint dir {d.text}"
  | save step => s!"saving checkpoint of step {step}"
  | load path => s!"loading {path.text}"
  | prune path => s!"removing {path.text}"
  | empty d => s!"no checkpoint in {d.text}"

/-- Whether the file system itself reported the failure. -/
def hasSource : CheckpointError → Bool
  | dir _ | prune _ => true
  | _ => false

end CheckpointError
end ActorCritic
