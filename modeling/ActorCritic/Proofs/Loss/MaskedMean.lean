import Mathlib.Algebra.Order.BigOperators.Group.Finset
import Mathlib.Algebra.Order.Field.Basic
import ActorCritic.Proofs.Exact
import ActorCritic.Loss
import ActorCritic.Proofs.Attempt
import ActorCritic.Proofs.Tensor

/-!
Masked means of exact numbers, and the losses that are made of them. Terms of one shape with their
mask have a mean, which looks at no term that the mask leaves out.
-/

namespace ActorCritic

open Finset (range)

variable {α : Type} [ExactScalar α]

theorem Tensor.sum_ofFn (shape : List Nat) (f : Nat → α) :
    (Tensor.ofFn shape f).sum = ∑ i ∈ range (entryCount shape), f i :=
  Scalar.sum_eq_sum _

/-- The mean of the first numbers, each as often as its weight says. -/
def weightedMean (count : Nat) (terms weights : Nat → α) : α :=
  (∑ i ∈ range count, terms i * weights i) / ∑ i ∈ range count, weights i

section WeightedMean

variable {count : Nat} {terms terms' weights : Nat → α}

theorem weightedMean_mono (hweights : ∀ i < count, 0 ≤ weights i)
    (h : ∀ i < count, terms i ≤ terms' i) :
    weightedMean count terms weights ≤ weightedMean count terms' weights := by
  have hsum : ∑ i ∈ range count, terms i * weights i ≤ ∑ i ∈ range count, terms' i * weights i := by
    refine Finset.sum_le_sum fun i hi => ?_
    have hi : i < count := Finset.mem_range.1 hi
    exact mul_le_mul_of_nonneg_right (h i hi) (hweights i hi)
  have htotal : 0 ≤ ∑ i ∈ range count, weights i :=
    Finset.sum_nonneg fun i hi => hweights i (Finset.mem_range.1 hi)
  exact div_le_div_of_nonneg_right hsum htotal

/-- Numbers without weight do not matter. -/
theorem weightedMean_congr (h : ∀ i < count, weights i ≠ 0 → terms i = terms' i) :
    weightedMean count terms weights = weightedMean count terms' weights := by
  refine congrArg (· / _) (Finset.sum_congr rfl fun i hi => ?_)
  by_cases hweight : weights i = 0
  · rw [hweight, mul_zero, mul_zero]
  · rw [h i (Finset.mem_range.1 hi) hweight]

end WeightedMean

namespace Loss

variable (shape : List Nat) (terms mask : Nat → α)

theorem maskedMean_ofFn :
    maskedMean (.ofFn shape terms) (.ofFn shape mask) =
      .ok (weightedMean (entryCount shape) terms mask) := by
  simp only [maskedMean, Tensor.combine_ofFn, Attempt.ok_bind, Tensor.sum_ofFn]
  rfl

theorem maskedMeanGradient_ofFn (sign : α) :
    maskedMeanGradient sign (.ofFn shape terms) (.ofFn shape mask) =
      .ok (.ofFn shape fun i => sign / (∑ j ∈ range (entryCount shape), mask j) * mask i) := by
  simp only [maskedMeanGradient, Tensor.combine_ofFn, Attempt.ok_bind, Tensor.sum_ofFn]
  exact Tensor.sumTo_ofFn shape _

end Loss
end ActorCritic
