/-!
The numbers that estimators, losses and networks compute with. Formulas are written once over
`Scalar` and run on 32-bit and 64-bit floats; any ordered field with a square root and an
exponential is another instance.
-/

namespace ActorCritic

class Scalar (α : Type) extends
    Zero α, One α, Add α, Sub α, Mul α, Div α, Neg α, LT α, LE α where
  exp : α → α
  sqrt : α → α
  ofCount : Nat → α
  isFinite : α → Bool
  decidableLT : DecidableRel (α := α) (· < ·)
  decidableLE : DecidableRel (α := α) (· ≤ ·)

namespace Scalar

variable {α : Type} [Scalar α]

instance : DecidableRel (α := α) (· < ·) := decidableLT
instance : DecidableRel (α := α) (· ≤ ·) := decidableLE

def ratio (n d : Nat) : α := ofCount n / ofCount d

/-- The first operand unless the second is strictly smaller. -/
def min (a b : α) : α := if b < a then b else a

/-- The first operand unless the second is strictly larger. -/
def max (a b : α) : α := if a < b then b else a

/-- Moves a number above the upper bound down to it, and then one below the lower bound up. Where
the bounds cross, the lower one wins. -/
def clamp (lo hi x : α) : α :=
  let y := if hi < x then hi else x
  if y < lo then lo else y

/-- The sum from the left; that of no numbers is zero. -/
def sum : List α → α
  | [] => 0
  | x :: xs => xs.foldl (· + ·) x

end Scalar

instance : Scalar Float32 where
  zero := 0
  one := 1
  exp := Float32.exp
  sqrt := Float32.sqrt
  ofCount n := n.toUInt64.toFloat32
  isFinite := Float32.isFinite
  decidableLT := fun _ _ => inferInstance
  decidableLE := fun _ _ => inferInstance

instance : Scalar Float where
  zero := 0
  one := 1
  exp := Float.exp
  sqrt := Float.sqrt
  ofCount n := n.toUInt64.toFloat
  isFinite := Float.isFinite
  decidableLT := fun _ _ => inferInstance
  decidableLE := fun _ _ => inferInstance

end ActorCritic
