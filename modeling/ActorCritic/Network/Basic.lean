import ActorCritic.Count
import ActorCritic.Snapshot

/-!
Networks: parameters in a fixed order, a number of parameters per layer, and a function of the
parameters that maps inputs to outputs and pulls gradients of the output back to the
parameters. Parameters keep their identity when values are loaded into them.

The networks here hold no state besides their parameters, so a state snapshot has empty layers.
-/

namespace ActorCritic

structure Param (α : Type) where
  id : Nat
  value : Tensor α
deriving DecidableEq

/-- An output and the gradient of the parameters as a function of the gradient of the output. -/
structure Traced (α ο : Type) where
  output : ο
  pullback : ο → Except Abort (List (Tensor α))

structure Network (α ι ο : Type) where
  params : List (Param α)
  layerCounts : List Nat
  run : List (Tensor α) → ι → Except Abort (Traced α ο)

namespace Network

variable {α ι ο : Type}

def values (n : Network α ι ο) : List (Tensor α) := n.params.map Param.value

def trace (n : Network α ι ο) (input : ι) : Except Abort (Traced α ο) := n.run n.values input

def forward (n : Network α ι ο) (input : ι) : Except Abort ο := Traced.output <$> n.trace input

/-- The parameters grouped by the layer counts, which have to cover all of them. -/
def weights (n : Network α ι ο) : Attempt ParamsError (Snapshot α) := do
  let expected ← Count.sum n.layerCounts
  if expected ≠ n.params.length then Attempt.fail (.layout expected n.params.length)
  return ⟨regroup n.layerCounts n.values⟩

/-- The first parameter whose shape differs from that of the tensor at its place. -/
def firstMisfit? : (index : Nat) → List (Param α) → List (Tensor α) → Option ParamsError
  | index, p :: ps, t :: ts =>
      if p.value.shape = t.shape then firstMisfit? (index + 1) ps ts
      else some (.paramShape index p.value.shape t.shape)
  | _, _, _ => none

/-- Puts the tensors of a snapshot into the parameters, whatever layers they are grouped in. -/
def load (n : Network α ι ο) (s : Snapshot α) : Attempt ParamsError (Network α ι ο) := do
  let expected ← Count.sum n.layerCounts
  if expected ≠ s.tensorCount then Attempt.fail (.layout expected s.tensorCount)
  match firstMisfit? 0 n.params s.tensors with
  | some e => Attempt.fail e
  | none => pure ()
  if n.params.length ≠ s.tensorCount then Attempt.fail (.layout n.params.length s.tensorCount)
  return { n with params := List.zipWith (fun p t => { p with value := t }) n.params s.tensors }

def state (n : Network α ι ο) : Snapshot α := Snapshot.empty n.layerCounts.length

/-- Only a snapshot without tensors is a state. -/
def withState (n : Network α ι ο) (s : Snapshot α) : Except ParamsError (Network α ι ο) :=
  if s.tensorCount = 0 then .ok n else .error (.layout 0 s.tensorCount)

end Network
end ActorCritic
