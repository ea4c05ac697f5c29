/-!
How an operation stops without a result. An abort is a fault of the call: a count that leaves
its range, a read outside a list, or arguments that a tensor operation refuses. An error is a
cause that the caller is told about and can react to.
-/

namespace ActorCritic

/-- The count operations that can leave the 64-bit range. -/
inductive Overflow where
  | add
  | multiply
deriving DecidableEq, Repr

inductive Abort where
  | overflow (operation : Overflow)
  | outOfBounds (length index : Nat)
  | refused
deriving DecidableEq, Repr

namespace Abort

/-- A refusal has no text. -/
def message : Abort → Option String
  | overflow .add => some "attempt to add with overflow"
  | overflow .multiply => some "attempt to multiply with overflow"
  | outOfBounds length index =>
      some s!"index out of bounds: the len is {length} but the index is {index}"
  | refused => none

end Abort

inductive Failure (ε : Type) where
  | abort (cause : Abort)
  | error (cause : ε)
deriving DecidableEq, Repr

/-- A computation that may abort or fail with a cause of type `ε`. -/
abbrev Attempt (ε β : Type) := Except (Failure ε) β

namespace Failure

def map {ε ε' : Type} (f : ε → ε') : Failure ε → Failure ε'
  | abort a => abort a
  | error e => error (f e)

end Failure

namespace Attempt

def fail {ε β : Type} (e : ε) : Attempt ε β := .error (.error e)

/-- States the cause as one of a wider family. -/
def widen {ε ε' β : Type} (f : ε → ε') (x : Attempt ε β) : Attempt ε' β :=
  x.mapError (Failure.map f)

end Attempt

instance {ε : Type} : MonadLift (Except Abort) (Except (Failure ε)) where
  monadLift x := x.mapError .abort

end ActorCritic
