import Mathlib.Algebra.Order.Field.Rat
import Mathlib.Analysis.Complex.Exponential
import Mathlib.Analysis.Real.Sqrt
import Mathlib.Data.Rat.Sqrt
import Mathlib.Tactic.Linarith
import ActorCritic.Scalar

/-!
Exact numbers. The formulas over `Scalar` compute with the numbers of an ordered field as they do
with rounded ones, but without error. The reals are such numbers. Of the exponential nothing is
asked here but that it is positive, strictly increasing and one at zero, so the rationals are
another instance, with one that they have.

Exact numbers have their operations as a field and as scalars, which are the same. Modules about
them import this one before those over `Scalar`, so that both are found in one order everywhere.
-/

namespace ActorCritic

class ExactScalar (α : Type) extends Field α, LinearOrder α, IsStrictOrderedRing α where
  exp : α → α
  sqrt : α → α
  exp_pos : ∀ x, 0 < exp x
  exp_strictMono : StrictMono exp
  exp_zero : exp 0 = 1

instance {α : Type} [ExactScalar α] : Scalar α where
  exp := ExactScalar.exp
  sqrt := ExactScalar.sqrt
  ofCount n := n
  isFinite _ := true
  decidableLT := fun _ _ => inferInstance
  decidableLE := fun _ _ => inferInstance

noncomputable instance : ExactScalar ℝ where
  exp := Real.exp
  sqrt := Real.sqrt
  exp_pos := Real.exp_pos
  exp_strictMono := Real.exp_strictMono
  exp_zero := Real.exp_zero

/-- The tangent at zero for the positive numbers, and its reciprocal mirrored for the others. -/
def rationalExp (x : ℚ) : ℚ := if 0 ≤ x then 1 + x else 1 / (1 - x)

theorem rationalExp_pos (x : ℚ) : 0 < rationalExp x := by
  unfold rationalExp
  split
  · linarith
  · exact one_div_pos.2 (by linarith)

theorem rationalExp_strictMono : StrictMono rationalExp := by
  intro x y hxy
  unfold rationalExp
  split <;> split
  · linarith
  · linarith
  · have hle : 1 / (1 - x) < 1 := (div_lt_one (by linarith)).2 (by linarith)
    linarith
  · exact one_div_lt_one_div_of_lt (by linarith) (by linarith)

instance : ExactScalar ℚ where
  exp := rationalExp
  sqrt := Rat.sqrt
  exp_pos := rationalExp_pos
  exp_strictMono := rationalExp_strictMono
  exp_zero := by simp [rationalExp]

namespace Scalar

variable {α : Type} [ExactScalar α]

theorem sum_eq_sum (xs : List α) : Scalar.sum xs = xs.sum := by
  cases xs with
  | nil => rfl
  | cons x xs =>
      rw [List.sum_eq_foldl, List.foldl_cons, zero_add]
      rfl

theorem min_eq_min (a b : α) : Scalar.min a b = Min.min a b := by
  rw [min_comm, min_def_lt]
  rfl

theorem clamp_eq_max_min (lo hi x : α) : Scalar.clamp lo hi x = Max.max lo (Min.min hi x) := by
  rw [max_comm, max_def_lt, min_def_lt]
  rfl

end Scalar
end ActorCritic
