import ActorCritic.Count

/-!
The shapes that a value network is built for: one slice of one step.
-/

namespace ActorCritic

structure ValueSignature where
  observations : List Nat
  targets : List Nat
  mask : List Nat
deriving DecidableEq, Repr

namespace ValueSignature

def ofObservationShape (shape : List Nat) : ValueSignature :=
  ⟨1 :: 1 :: shape, [1, 1, 1], [1, 1, 1]⟩

def features (s : ValueSignature) : Except Abort Nat := Count.product (s.observations.drop 2)

end ValueSignature
end ActorCritic
