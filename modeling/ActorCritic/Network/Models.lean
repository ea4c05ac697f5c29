import ActorCritic.Network.Linear

/-!
The networks that trainings run on: value networks that map observations to channels, and
Gaussian policies that score actions.
-/

namespace ActorCritic

/-- Maps observations to one or more channels per step. -/
abbrev ValueNetwork (α : Type) := Network α (StepTensor α) (StepTensor α)

/-- Maps observations and actions to a log-probability per step. -/
abbrev PolicyNetwork (α : Type) := Network α (StepTensor α × StepTensor α) (StepMatrix α)

namespace Network

variable {α : Type} [Scalar α]

/-- Parameters of the given shapes, filled with zeros and numbered from `firstId`. -/
def blankParams (firstId : Nat) (shapes : List (List Nat)) : List (Param α) :=
  shapes.mapIdx fun i shape => ⟨firstId + i, Tensor.fill shape 0⟩

/-- A value network with one hidden layer and one channel. -/
def hiddenValue (firstId observations hidden : Nat) : ValueNetwork α where
  params := blankParams firstId [[observations, hidden], [hidden], [hidden, 1], [1]]
  layerCounts := [2, 2]
  run := twoLayers

/-- A value network of a single linear layer. -/
def linearValue (firstId observations channels : Nat) : ValueNetwork α where
  params := blankParams firstId [[observations, channels], [channels]]
  layerCounts := [2]
  run := oneLayer

/-- The logarithm of the normalizing factor of a unit Gaussian. -/
def logNormalizer : α := Scalar.ratio 9189385 10000000

/-- The log-probabilities of actions under unit Gaussians, summed over the action features. -/
def gaussian (params : List (Tensor α)) (input : StepTensor α × StepTensor α) :
    Except Abort (Traced α (StepMatrix α)) := do
  let (observations, actions) := input
  let mean ← twoLayers params observations
  let difference ← Tensor.combine (· - ·) actions.toTensor mean.output.toTensor
  let half : α := Scalar.ratio 1 2
  match StepTensor.ofTensor? (difference.map fun d => d * d * -half - logNormalizer) with
  | none => throw .refused
  | some scores =>
      let sums := (vectors scores).map Scalar.sum
      if h : sums.length = actions.batch * actions.time then
        return {
          output := ⟨actions.batch, actions.time, sums, h⟩
          pullback := fun g => do
            let steps ← tensorOf [scores.batch, scores.time, 1] g.entries
            let full ← Tensor.combine (· * ·) steps difference
            match StepTensor.ofTensor? (← full.sumTo mean.output.shape) with
            | none => throw .refused
            | some d => mean.pullback d }
      else throw .refused

def gaussianPolicy (firstId observations hidden actions : Nat) : PolicyNetwork α where
  params := blankParams firstId [[observations, hidden], [hidden], [hidden, actions], [actions]]
  layerCounts := [2, 2]
  run := gaussian

end Network
end ActorCritic
