import ActorCritic.Tensor

/-!
Masked losses with their gradients by the log-probabilities or predictions. Steps count by their
mask. Advantages, old log-probabilities, targets and masks are constants.
-/

namespace ActorCritic

structure Loss (α : Type) where
  value : α
  gradient : Tensor α

namespace Loss

variable {α : Type} [Scalar α]

/-- The sum of the masked terms over the sum of the mask. -/
def maskedMean (terms mask : Tensor α) : Except Abort α := do
  let masked ← Tensor.combine (· * ·) terms mask
  return masked.sum / mask.sum

/-- The gradient by the terms of `sign` times their masked mean. -/
def maskedMeanGradient (sign : α) (terms mask : Tensor α) : Except Abort (Tensor α) := do
  let weight := sign / mask.sum
  (← Tensor.combine (fun _ m => weight * m) terms mask).sumTo terms.shape

/-- The gradient by `a` of a product `a * b`, given that by the product. -/
def factorGradient (a b gradient : Tensor α) : Except Abort (Tensor α) := do
  (← Tensor.combine (· * ·) gradient b).sumTo a.shape

/-- The negative masked mean of weighted log-probabilities. -/
def weightedLogProbs (logProbs weights mask : Tensor α) : Except Abort (Loss α) := do
  let terms ← Tensor.combine (· * ·) logProbs weights
  let mean ← maskedMean terms mask
  return {
    value := -mean
    gradient := ← factorGradient logProbs weights (← maskedMeanGradient (-1) terms mask) }

def a2c (logProbs advantages mask : Tensor α) : Except Abort (Loss α) :=
  weightedLogProbs logProbs advantages mask

/-- Exponentials of the advantages over the temperature `beta`. -/
def awrWeights (advantages : Tensor α) (beta : α) : Tensor α :=
  advantages.map fun a => Scalar.exp (a / beta)

/-- Log-probabilities weighted by exponentials of the advantages, no weight above `maxWeight`. -/
def awr (logProbs advantages mask : Tensor α) (beta maxWeight : α) : Except Abort (Loss α) :=
  weightedLogProbs logProbs
    ((awrWeights advantages beta).map fun w => if maxWeight < w then maxWeight else w) mask

def maxLogRatio : α := Scalar.ofCount 20

/-- Zero strictly outside the bounds, and `g` elsewhere. -/
def clampGradient (lo hi x g : α) : α := if x < lo ∨ hi < x then 0 else g

/-- The surrogate of one step: the smaller of the advantage times the ratio and times the
ratio clipped to within `epsilon` of one. -/
def surrogate (epsilon logRatio advantage : α) : α :=
  let ratio := Scalar.exp (Scalar.clamp (-maxLogRatio) maxLogRatio logRatio)
  let clipped := Scalar.clamp (1 - epsilon) (1 + epsilon) ratio
  Scalar.min (ratio * advantage) (clipped * advantage)

/-- The gradient of the surrogate by the log ratio. -/
def surrogateGradient (epsilon logRatio advantage gradient : α) : α :=
  let ratio := Scalar.exp (Scalar.clamp (-maxLogRatio) maxLogRatio logRatio)
  let clipped := Scalar.clamp (1 - epsilon) (1 + epsilon) ratio
  let second : Bool := clipped * advantage < ratio * advantage
  let direct := (if second then 0 else gradient) * advantage
  let throughClip := clampGradient (1 - epsilon) (1 + epsilon) ratio
    ((if second then gradient else 0) * advantage)
  clampGradient (-maxLogRatio) maxLogRatio logRatio ((direct + throughClip) * ratio)

/-- The negative masked mean of the surrogates of the probability ratios. -/
def ppo (logProbs oldLogProbs advantages mask : Tensor α) (epsilon : α) :
    Except Abort (Loss α) := do
  let logRatios ← Tensor.combine (· - ·) logProbs oldLogProbs
  let pairs ← Tensor.combine Prod.mk logRatios advantages
  let terms := pairs.map fun (x, a) => surrogate epsilon x a
  let mean ← maskedMean terms mask
  let gradient ← maskedMeanGradient (-1) terms mask
  let byPairs ← Tensor.combine (fun (x, a) g => surrogateGradient epsilon x a g) pairs gradient
  return {
    value := -mean
    gradient := ← (← byPairs.sumTo logRatios.shape).sumTo logProbs.shape }

/-- The masked mean of the squared differences between predictions and targets. -/
def squaredError (predictions targets mask : Tensor α) : Except Abort (Loss α) := do
  let differences ← Tensor.combine (· - ·) predictions targets
  let terms := differences.map fun d => d * d
  let mean ← maskedMean terms mask
  let gradient ← maskedMeanGradient 1 terms mask
  let byDifferences ← Tensor.combine (fun d g => Scalar.ofCount 2 * d * g) differences gradient
  return { value := mean, gradient := ← byDifferences.sumTo predictions.shape }

def mean (values mask : Tensor α) : Except Abort (Loss α) := do
  return { value := ← maskedMean values mask, gradient := ← maskedMeanGradient 1 values mask }

end Loss
end ActorCritic
