import ActorCritic.Proofs.Loss.Surrogate
import ActorCritic.Proofs.Loss.MaskedMean

/-!
The loss of clipped surrogates in exact numbers. It never promises more than the plain surrogates,
and as much as they do within the trust region. A step moves its log-probability as its plain
surrogate does, unless that would take its ratio further out of the trust region.
-/

namespace ActorCritic
namespace Loss

open Finset (range)

variable {α : Type} [ExactScalar α]

theorem ppo_ofFn (shape : List Nat) (logProbs oldLogProbs advantages mask : Nat → α)
    (epsilon : α) :
    ppo (.ofFn shape logProbs) (.ofFn shape oldLogProbs) (.ofFn shape advantages)
        (.ofFn shape mask) epsilon = .ok {
      value := -weightedMean (entryCount shape)
        (fun i => surrogate epsilon (logProbs i - oldLogProbs i) (advantages i)) mask
      gradient := .ofFn shape fun i =>
        surrogateGradient epsilon (logProbs i - oldLogProbs i) (advantages i)
          (-1 / (∑ j ∈ range (entryCount shape), mask j) * mask i) } := by
  simp only [ppo, Tensor.combine_ofFn, Tensor.map_ofFn, Attempt.ok_bind, maskedMean_ofFn,
    maskedMeanGradient_ofFn, Tensor.shape_ofFn, Tensor.sumTo_ofFn]
  rfl

section Trust

variable {logProbs oldLogProbs advantages mask : Tensor α} {epsilon : α}

/-- The loss is never below that of the plain surrogate, and equal to it where all steps that count
are in the trust region. The gradient of a step is that of the plain surrogate or zero, and zero
exactly where the step does not count, has no advantage, or its ratio is held fast. -/
theorem ppo_is_pessimistic_in_trust_region (hold : oldLogProbs.shape = logProbs.shape)
    (hadvantages : advantages.shape = logProbs.shape) (hmask : mask.shape = logProbs.shape)
    (hnonneg : ∀ i < entryCount logProbs.shape, 0 ≤ mask.entry i) (hsum : 0 < mask.sum)
    (hepsilon : 0 ≤ epsilon) :
    let count := entryCount logProbs.shape
    let logRatio i := logProbs.entry i - oldLogProbs.entry i
    let ratio i := importanceRatio (logRatio i)
    let plain := weightedMean count (fun i => ratio i * advantages.entry i) mask.entry
    ∃ loss, ppo logProbs oldLogProbs advantages mask epsilon = .ok loss ∧
      -plain ≤ loss.value ∧
      ((∀ i < count, 0 < mask.entry i → 1 - epsilon ≤ ratio i ∧ ratio i ≤ 1 + epsilon) →
        loss.value = -plain) ∧
      (logProbs = oldLogProbs →
        loss.value = -weightedMean count advantages.entry mask.entry) ∧
      loss.gradient.shape = logProbs.shape ∧
      ∀ i < count,
        (loss.gradient.entry i = -(mask.entry i * advantages.entry i * ratio i) / mask.sum ∨
          loss.gradient.entry i = 0) ∧
        (loss.gradient.entry i = 0 ↔ mask.entry i = 0 ∨ advantages.entry i = 0 ∨
          logRatio i < -20 ∨ 20 < logRatio i ∨
            LeavesRegion epsilon (ratio i) (advantages.entry i)) := by
  intro count logRatio ratio plain
  have hloss := ppo_ofFn logProbs.shape logProbs.entry oldLogProbs.entry advantages.entry
    mask.entry epsilon
  have htotal : ∑ i ∈ range count, mask.entry i = mask.sum := by
    rw [← Tensor.sum_ofFn, Tensor.ofFn_entry hmask]
  rw [Tensor.ofFn_entry rfl, Tensor.ofFn_entry hold, Tensor.ofFn_entry hadvantages,
    Tensor.ofFn_entry hmask, htotal] at hloss
  have hequal (h : ∀ i < count, 0 < mask.entry i → 1 - epsilon ≤ ratio i ∧ ratio i ≤ 1 + epsilon) :
      weightedMean count (fun i => surrogate epsilon (logRatio i) (advantages.entry i))
        mask.entry = plain := by
    refine weightedMean_congr fun i hi hcounts => ?_
    obtain ⟨hlow, hhigh⟩ := h i hi (lt_of_le_of_ne (hnonneg i hi) (Ne.symm hcounts))
    exact surrogate_of_not_leavesRegion hepsilon (not_leavesRegion_of_mem hlow hhigh)
  refine ⟨_, hloss, ?_, fun h => congrArg Neg.neg (hequal h), ?_, rfl, ?_⟩
  · exact neg_le_neg (weightedMean_mono hnonneg fun i _ => surrogate_le)
  · rintro rfl
    have hone (i : Nat) : ratio i = 1 :=
      (congrArg importanceRatio (sub_self (logProbs.entry i))).trans importanceRatio_zero
    have hinside : ∀ i < count, 0 < mask.entry i →
        1 - epsilon ≤ ratio i ∧ ratio i ≤ 1 + epsilon := by
      intro i _ _
      rw [hone i]
      exact ⟨sub_le_self 1 hepsilon, le_add_of_nonneg_right hepsilon⟩
    have hplain : plain = weightedMean count advantages.entry mask.entry :=
      weightedMean_congr fun i _ _ => by rw [hone i, one_mul]
    exact congrArg Neg.neg ((hequal hinside).trans hplain)
  · intro i hi
    rw [Tensor.entry_ofFn _ hi]
    exact weighted_surrogateGradient hepsilon hsum (logRatio i) (advantages.entry i) (mask.entry i)

/-- Four steps that count alike: one in the trust region, one whose log ratio is too large, one
that would leave the region and one that would come back to it. -/
theorem ppo_is_pessimistic_in_trust_region_four_steps :
    let logProbs : Tensor ℝ := ⟨[2, 2], [0, 30, 1, 1], rfl⟩
    let advantages : Tensor ℝ := ⟨[2, 2], [2, 1, 1, -1], rfl⟩
    let mask : Tensor ℝ := .fill [2, 2] 1
    mask.sum = 4 ∧ ∃ loss, ppo logProbs (.fill [2, 2] 0) advantages mask (1 / 5) = .ok loss ∧
      loss.gradient.entry 0 ≠ 0 ∧ loss.gradient.entry 1 = 0 ∧
      loss.gradient.entry 2 = 0 ∧ loss.gradient.entry 3 ≠ 0 := by
  intro logProbs advantages mask
  have hmask : ∀ i < 4, 0 ≤ mask.entry i
    | 0, _ | 1, _ | 2, _ | 3, _ => zero_le_one
  have hsum : mask.sum = 4 := by
    rw [Tensor.sum, Scalar.sum_eq_sum]
    norm_num [mask, Tensor.fill]
  have hwide : 2 < importanceRatio (1 : ℝ) := by
    have hclamp : max (-20) (min 20 (1 : ℝ)) = 1 := by norm_num
    rw [importanceRatio, hclamp, ← one_add_one_eq_two]
    exact Real.add_one_lt_exp one_ne_zero
  obtain ⟨loss, hloss, -, -, -, -, hgradient⟩ := ppo_is_pessimistic_in_trust_region
    (show (Tensor.fill [2, 2] (0 : ℝ)).shape = logProbs.shape from rfl)
    (show advantages.shape = logProbs.shape from rfl) (show mask.shape = logProbs.shape from rfl)
    hmask (hsum ▸ four_pos) (show (0 : ℝ) ≤ 1 / 5 by norm_num)
  refine ⟨hsum, loss, hloss, ?_, ?_, ?_, ?_⟩
  · refine mt (hgradient 0 (by decide)).2.1 ?_
    change ¬ ((1 : ℝ) = 0 ∨ (2 : ℝ) = 0 ∨ (0 : ℝ) - 0 < -20 ∨ 20 < (0 : ℝ) - 0 ∨
      LeavesRegion (1 / 5) (importanceRatio (0 - 0)) 2)
    rw [sub_self, importanceRatio_zero, LeavesRegion]
    norm_num
  · refine (hgradient 1 (by decide)).2.2 (.inr (.inr (.inr (.inl ?_))))
    change 20 < (30 : ℝ) - 0
    norm_num
  · refine (hgradient 2 (by decide)).2.2 (.inr (.inr (.inr (.inr (.inl ⟨zero_lt_one, ?_⟩)))))
    change 1 + 1 / 5 < importanceRatio (1 - 0 : ℝ)
    rw [sub_zero]
    linarith
  · refine mt (hgradient 3 (by decide)).2.1 ?_
    change ¬ ((1 : ℝ) = 0 ∨ (-1 : ℝ) = 0 ∨ (1 : ℝ) - 0 < -20 ∨ 20 < (1 : ℝ) - 0 ∨
      LeavesRegion (1 / 5) (importanceRatio (1 - 0)) (-1))
    have hinside : ¬ importanceRatio (1 : ℝ) < 1 - 1 / 5 := by linarith
    rw [sub_zero, LeavesRegion]
    simp only [hinside]
    norm_num

end Trust

end Loss
end ActorCritic
