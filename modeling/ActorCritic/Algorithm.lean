import ActorCritic.Advantage.Estimator
import ActorCritic.Loss
import ActorCritic.Metrics

/-!
Policy algorithms: how advantages are estimated and normalized, which loss the policy is trained
on, and what is reported about the advantages.
-/

namespace ActorCritic

structure AdvantageSettings (α : Type) where
  estimator : Estimator α
  normalization : Bool
  epsilon : α

/-- The loss of a policy's log-probabilities. -/
inductive Objective (α : Type) where
  | a2c
  | ppo (epsilon : α)
  | awr (beta maxWeight : α)

structure Algorithm (α : Type) where
  objective : Objective α
  advantages : AdvantageSettings α

variable {α : Type} [Scalar α]

namespace AdvantageSettings

def standard : AdvantageSettings α :=
  ⟨Estimator.tdLambda Estimator.defaultLambda, true, Scalar.ratio 1 100000⟩

end AdvantageSettings

namespace Objective

def name : Objective α → String
  | a2c => "a2c"
  | ppo _ => "ppo"
  | awr _ _ => "awr"

/-- Whether training data has to come from the policy that is trained. -/
def isOnPolicy : Objective α → Bool
  | a2c | ppo _ => true
  | awr _ _ => false

def standardPpo : Objective α := ppo (Scalar.ratio 1 5)

def standardAwr : Objective α := awr 1 (Scalar.ofCount 20)

def loss (objective : Objective α) (logProbs advantages oldLogProbs mask : Tensor α) :
    Except Abort (Loss α) :=
  match objective with
  | a2c => Loss.a2c logProbs advantages mask
  | ppo epsilon => Loss.ppo logProbs oldLogProbs advantages mask epsilon
  | awr beta maxWeight => Loss.awr logProbs advantages mask beta maxWeight

/-- Positive infinity where the numbers have one. -/
def unbounded : α := 1 / 0

/-- What is reported about the weights of the advantages. -/
def weightMetrics (advantages : StepMatrix α) : Objective α → Metrics α
  | a2c | ppo _ => []
  | awr beta _ =>
      let weights := advantages.map fun a => Scalar.exp (a / beta)
      [("awr_weight_max", weights.entries.foldl Scalar.max (-unbounded)),
       ("awr_weight_mean", weights.mean),
       ("awr_weight_min", weights.entries.foldl Scalar.min unbounded),
       ("awr_weight_std", weights.std)]

end Objective

namespace Algorithm

def name (a : Algorithm α) : String := a.objective.name

def isOnPolicy (a : Algorithm α) : Bool := a.objective.isOnPolicy

def estimator (a : Algorithm α) : Estimator α := a.advantages.estimator

/-- None where advantages are not normalized. -/
def normalizationEpsilon (a : Algorithm α) : Option α :=
  if a.advantages.normalization then some a.advantages.epsilon else none

def metrics (a : Algorithm α) (advantages : StepMatrix α) : Metrics α :=
  [("advantage_mean", advantages.mean), ("advantage_std", advantages.std)] ++
    a.objective.weightMetrics advantages

end Algorithm
end ActorCritic
