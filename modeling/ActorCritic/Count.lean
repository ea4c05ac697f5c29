import ActorCritic.Failure

/-!
Counts are natural numbers below `2 ^ 64`. The operations here are the natural ones where the
result is again a count, and abort where it is not.
-/

namespace ActorCritic
namespace Count

def limit : Nat := Nat.pow 2 64

def add (a b : Nat) : Except Abort Nat :=
  if a + b < limit then .ok (a + b) else .error (.overflow .add)

def mul (a b : Nat) : Except Abort Nat :=
  if a * b < limit then .ok (a * b) else .error (.overflow .multiply)

theorem add_eq_ok {a b n : Nat} : add a b = .ok n ↔ a + b < limit ∧ a + b = n := by
  unfold add
  split
  · next h => simp [h]
  · next h => simp [h]

theorem add_eq_error {a b : Nat} {e : Abort} :
    add a b = .error e ↔ limit ≤ a + b ∧ .overflow .add = e := by
  unfold add
  split
  · next h => simp [Nat.not_le.2 h]
  · next h => simp [Nat.not_lt.1 h]

theorem mul_eq_ok {a b n : Nat} : mul a b = .ok n ↔ a * b < limit ∧ a * b = n := by
  unfold mul
  split
  · next h => simp [h]
  · next h => simp [h]

/-- Sums from the left, so every partial sum has to be a count. -/
def sum (xs : List Nat) : Except Abort Nat := xs.foldlM add 0

/-- Multiplies from the left, so every partial product has to be a count. -/
def product (xs : List Nat) : Except Abort Nat := xs.foldlM mul 1

end Count
end ActorCritic
