import ActorCritic.Proofs.Loss.Ppo
import ActorCritic.Algorithm

/-!
What the mask leaves out. Every loss is a masked mean of one term for each step, and the gradient
of a step comes through its own term, so two inputs that differ only in padding have one loss and
one gradient, and no padded step is moved. The mask itself is the same on both sides.
-/

namespace ActorCritic

open Finset (range)

variable {α : Type} [ExactScalar α]

/-- Tensors of one shape with the mask, equal wherever a step counts. -/
structure Tensor.AgreeWhere (mask s t : Tensor α) : Prop where
  shape_left : s.shape = mask.shape
  shape_right : t.shape = mask.shape
  entry_eq : ∀ i < entryCount mask.shape, mask.entry i ≠ 0 → s.entry i = t.entry i

theorem Tensor.AgreeWhere.exists_ofFn {mask s t : Tensor α} (h : AgreeWhere mask s t) :
    ∃ f g, s = ofFn mask.shape f ∧ t = ofFn mask.shape g ∧
      ∀ i < entryCount mask.shape, mask.entry i ≠ 0 → f i = g i :=
  ⟨s.entry, t.entry, (ofFn_entry h.shape_left).symm, (ofFn_entry h.shape_right).symm, h.entry_eq⟩

namespace Loss

/-- Losses that no padding tells apart, whose gradients leave padded steps alone. -/
structure AgreeWhere (mask : Tensor α) (x y : Loss α) : Prop where
  value_eq : x.value = y.value
  gradient : Tensor.AgreeWhere mask x.gradient y.gradient
  padding : ∀ i < entryCount mask.shape, mask.entry i = 0 →
    x.gradient.entry i = 0 ∧ y.gradient.entry i = 0

/-- A mean of terms of the steps, up to its sign. A step's gradient is what its slope makes of
the weight that the mean gives to its term. -/
def stepwise (shape : List Nat) (sign : α) (terms : Nat → α) (slopes : Nat → α → α)
    (mask : Nat → α) : Loss α where
  value := sign * weightedMean (entryCount shape) terms mask
  gradient := .ofFn shape fun i =>
    slopes i (sign / (∑ j ∈ range (entryCount shape), mask j) * mask i)

theorem stepwise_agreeWhere {mask : Tensor α} {sign : α} {terms terms' : Nat → α}
    {slopes slopes' : Nat → α → α}
    (hterms : ∀ i < entryCount mask.shape, mask.entry i ≠ 0 → terms i = terms' i)
    (hslopes : ∀ i < entryCount mask.shape, mask.entry i ≠ 0 → slopes i = slopes' i)
    (hzero : ∀ i, slopes i 0 = 0) (hzero' : ∀ i, slopes' i 0 = 0) :
    AgreeWhere mask (stepwise mask.shape sign terms slopes mask.entry)
      (stepwise mask.shape sign terms' slopes' mask.entry) where
  value_eq := congrArg (sign * ·) (weightedMean_congr hterms)
  gradient := by
    refine ⟨rfl, rfl, fun i hi hcounts => ?_⟩
    simp only [stepwise, Tensor.entry_ofFn _ hi, hslopes i hi hcounts]
  padding := by
    intro i hi hpadding
    simp only [stepwise, Tensor.entry_ofFn _ hi, hpadding, mul_zero]
    exact ⟨hzero i, hzero' i⟩

section Stepwise

variable (shape : List Nat) (logProbs mask : Nat → α)

theorem weightedLogProbs_ofFn (weights : Nat → α) :
    weightedLogProbs (.ofFn shape logProbs) (.ofFn shape weights) (.ofFn shape mask) =
      .ok (stepwise shape (-1) (fun i => logProbs i * weights i) (fun i g => g * weights i)
        mask) := by
  simp only [weightedLogProbs, factorGradient, Tensor.combine_ofFn, Attempt.ok_bind,
    maskedMean_ofFn, maskedMeanGradient_ofFn, Tensor.shape_ofFn, Tensor.sumTo_ofFn, stepwise,
    neg_one_mul]
  rfl

theorem ppo_stepwise (oldLogProbs advantages : Nat → α) (epsilon : α) :
    ppo (.ofFn shape logProbs) (.ofFn shape oldLogProbs) (.ofFn shape advantages)
        (.ofFn shape mask) epsilon =
      .ok (stepwise shape (-1)
        (fun i => surrogate epsilon (logProbs i - oldLogProbs i) (advantages i))
        (fun i => surrogateGradient epsilon (logProbs i - oldLogProbs i) (advantages i))
        mask) := by
  rw [ppo_ofFn, stepwise, neg_one_mul]

theorem squaredError_ofFn (predictions targets : Nat → α) :
    squaredError (.ofFn shape predictions) (.ofFn shape targets) (.ofFn shape mask) =
      .ok (stepwise shape 1
        (fun i => (predictions i - targets i) * (predictions i - targets i))
        (fun i g => Scalar.ofCount 2 * (predictions i - targets i) * g) mask) := by
  simp only [squaredError, Tensor.combine_ofFn, Tensor.map_ofFn, Attempt.ok_bind,
    maskedMean_ofFn, maskedMeanGradient_ofFn, Tensor.shape_ofFn, Tensor.sumTo_ofFn, stepwise,
    one_mul]
  rfl

end Stepwise

/-- No gradient comes out of a surrogate that none goes into. -/
theorem surrogateGradient_zero (epsilon logRatio advantage : α) :
    surrogateGradient epsilon logRatio advantage 0 = 0 := by
  simp only [surrogateGradient, ite_self, zero_mul, clampGradient_zero, add_zero]

end Loss

namespace Objective

/-- What regression by exponentials of advantages weighs a log-probability with. -/
def capped (beta maxWeight advantage : α) : α :=
  let weight := Scalar.exp (advantage / beta)
  if maxWeight < weight then maxWeight else weight

/-- What a step adds to the mean, before the sign. -/
def stepTerm (objective : Objective α) (logProb advantage oldLogProb : α) : α :=
  match objective with
  | a2c => logProb * advantage
  | ppo epsilon => Loss.surrogate epsilon (logProb - oldLogProb) advantage
  | awr beta maxWeight => logProb * capped beta maxWeight advantage

def stepSlope (objective : Objective α) (logProb advantage oldLogProb gradient : α) : α :=
  match objective with
  | a2c => gradient * advantage
  | ppo epsilon => Loss.surrogateGradient epsilon (logProb - oldLogProb) advantage gradient
  | awr beta maxWeight => gradient * capped beta maxWeight advantage

theorem stepSlope_zero (objective : Objective α) (logProb advantage oldLogProb : α) :
    objective.stepSlope logProb advantage oldLogProb 0 = 0 := by
  cases objective with
  | a2c => exact zero_mul advantage
  | ppo epsilon => exact Loss.surrogateGradient_zero epsilon _ advantage
  | awr beta maxWeight => exact zero_mul _

theorem loss_ofFn (objective : Objective α) (shape : List Nat)
    (logProbs advantages oldLogProbs mask : Nat → α) :
    objective.loss (.ofFn shape logProbs) (.ofFn shape advantages) (.ofFn shape oldLogProbs)
        (.ofFn shape mask) =
      .ok (.stepwise shape (-1)
        (fun i => objective.stepTerm (logProbs i) (advantages i) (oldLogProbs i))
        (fun i => objective.stepSlope (logProbs i) (advantages i) (oldLogProbs i)) mask) := by
  cases objective with
  | a2c => exact Loss.weightedLogProbs_ofFn shape logProbs mask advantages
  | ppo epsilon => exact Loss.ppo_stepwise shape logProbs mask oldLogProbs advantages epsilon
  | awr beta maxWeight =>
      simp only [loss, Loss.awr, Loss.awrWeights, Tensor.map_ofFn, Loss.weightedLogProbs_ofFn]
      rfl

end Objective

namespace Loss

/-- The result of a computation on both inputs is a loss, the same but for padding. -/
def IgnoresPadding (mask : Tensor α) (left right : Except Abort (Loss α)) : Prop :=
  ∃ x y, left = .ok x ∧ right = .ok y ∧ AgreeWhere mask x y

/-- Each objective takes from its input what the mask counts and nothing else, and so does the
squared error. -/
theorem padding_never_reaches_losses
    {mask logProbs logProbs' advantages advantages' oldLogProbs oldLogProbs' : Tensor α}
    {predictions predictions' targets targets' : Tensor α}
    (hlogProbs : Tensor.AgreeWhere mask logProbs logProbs')
    (hadvantages : Tensor.AgreeWhere mask advantages advantages')
    (hold : Tensor.AgreeWhere mask oldLogProbs oldLogProbs')
    (hpredictions : Tensor.AgreeWhere mask predictions predictions')
    (htargets : Tensor.AgreeWhere mask targets targets') :
    (∀ objective : Objective α,
      IgnoresPadding mask (objective.loss logProbs advantages oldLogProbs mask)
        (objective.loss logProbs' advantages' oldLogProbs' mask)) ∧
    IgnoresPadding mask (squaredError predictions targets mask)
      (squaredError predictions' targets' mask) := by
  have hmask : Tensor.ofFn mask.shape mask.entry = mask := Tensor.ofFn_entry rfl
  obtain ⟨x, x', rfl, rfl, hx⟩ := hlogProbs.exists_ofFn
  obtain ⟨a, a', rfl, rfl, ha⟩ := hadvantages.exists_ofFn
  obtain ⟨o, o', rfl, rfl, ho⟩ := hold.exists_ofFn
  obtain ⟨p, p', rfl, rfl, hp⟩ := hpredictions.exists_ofFn
  obtain ⟨t, t', rfl, rfl, ht⟩ := htargets.exists_ofFn
  constructor
  · intro objective
    have hleft := objective.loss_ofFn mask.shape x a o mask.entry
    have hright := objective.loss_ofFn mask.shape x' a' o' mask.entry
    rw [hmask] at hleft hright
    refine ⟨_, _, hleft, hright, stepwise_agreeWhere ?_ ?_ ?_ ?_⟩
    · intro i hi hcounts
      rw [hx i hi hcounts, ha i hi hcounts, ho i hi hcounts]
    · intro i hi hcounts
      rw [hx i hi hcounts, ha i hi hcounts, ho i hi hcounts]
    · exact fun i => objective.stepSlope_zero _ _ _
    · exact fun i => objective.stepSlope_zero _ _ _
  · have hleft := squaredError_ofFn mask.shape mask.entry p t
    have hright := squaredError_ofFn mask.shape mask.entry p' t'
    rw [hmask] at hleft hright
    refine ⟨_, _, hleft, hright, stepwise_agreeWhere ?_ ?_ ?_ ?_⟩
    · intro i hi hcounts
      rw [hp i hi hcounts, ht i hi hcounts]
    · intro i hi hcounts
      rw [hp i hi hcounts, ht i hi hcounts]
    · exact fun i => mul_zero _
    · exact fun i => mul_zero _

/-- Two steps, the second padded with anything. -/
theorem padding_never_reaches_losses_two_steps :
    let mask : Tensor ℝ := ⟨[1, 2], [3, 0], rfl⟩
    let padded (x y : ℝ) : Tensor ℝ := ⟨[1, 2], [x, y], rfl⟩
    mask.sum = 3 ∧ ∀ y y' : ℝ,
      (∀ objective : Objective ℝ,
        IgnoresPadding mask
          (objective.loss (padded (-1) y) (padded 2 y) (padded (-2) y) mask)
          (objective.loss (padded (-1) y') (padded 2 y') (padded (-2) y') mask)) ∧
      IgnoresPadding mask (squaredError (padded 1 y) (padded 4 y) mask)
        (squaredError (padded 1 y') (padded 4 y') mask) := by
  intro mask padded
  have hagree (x y y' : ℝ) : Tensor.AgreeWhere mask (padded x y) (padded x y') :=
    ⟨rfl, rfl, fun
      | 0, _, _ => rfl
      | 1, _, hcounts => absurd rfl hcounts⟩
  have hsum : mask.sum = 3 := by
    rw [Tensor.sum, Scalar.sum_eq_sum]
    norm_num [mask]
  exact ⟨hsum, fun y y' => padding_never_reaches_losses (hagree (-1) y y') (hagree 2 y y')
    (hagree (-2) y y') (hagree 1 y y') (hagree 4 y y')⟩

end Loss
end ActorCritic
