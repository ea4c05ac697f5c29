import ActorCritic.Config.Field
import ActorCritic.Decimal.Shortest

/-!
Causes for which a configuration is refused.
-/

namespace ActorCritic

/-- The two trainers of a run. -/
inductive Role where
  | value
  | policy
deriving DecidableEq, Repr

def Role.name : Role → String
  | value => "value"
  | policy => "policy"

inductive ConfigError (α : Type) where
  | invalidCount (field : Config.CountField) (value : Nat)
  | outOfRange (name : String) (value min max : α)
  | invalidEvalSplit (trainer : Role) (stepsPerEpoch evalsPerEpoch : Nat)
  | unevenEvalSplit (trainer : Role) (stepsPerEpoch evalsPerEpoch : Nat)
  | onPolicyReplay (algorithm : String) (replayEpochs : Nat)
deriving DecidableEq, Repr

namespace ConfigError

variable {α : Type}

def kind : ConfigError α → String
  | invalidCount .. => "Config.InvalidCount"
  | outOfRange .. => "Config.OutOfRange"
  | invalidEvalSplit .. => "Config.InvalidEvalSplit"
  | unevenEvalSplit .. => "Config.UnevenEvalSplit"
  | onPolicyReplay .. => "Config.OnPolicyReplay"

def message [Decimal.ToBinary α] : ConfigError α → String
  | invalidCount field value => s!"{field.name} must be > 0, got {value}"
  | outOfRange name value min max =>
      s!"{name} must be in [{Decimal.text min}, {Decimal.text max}], got {Decimal.text value}"
  | invalidEvalSplit trainer stepsPerEpoch evalsPerEpoch =>
      s!"{trainer.name} evals_per_epoch ({evalsPerEpoch}) must be <= " ++
        s!"train_steps_per_epoch ({stepsPerEpoch})"
  | unevenEvalSplit trainer stepsPerEpoch evalsPerEpoch =>
      s!"{trainer.name} train_steps_per_epoch ({stepsPerEpoch}) must be a multiple of " ++
        s!"evals_per_epoch ({evalsPerEpoch})"
  | onPolicyReplay algorithm replayEpochs =>
      s!"{algorithm} is on-policy and needs n_replay_epochs == 1, got {replayEpochs}"

end ConfigError

end ActorCritic
