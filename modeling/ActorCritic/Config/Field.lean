/-!
The settings of a training run and the names they are stored under.
-/

namespace ActorCritic

/-- The default trains on one new slice step per update and shares no layers. -/
structure Config where
  valueBatchSize : Nat := 64
  valueTrainStepsPerEpoch : Nat := 500
  /-- Rounds that an epoch's training steps are split into, each ended by an evaluation. -/
  valueEvalsPerEpoch : Nat := 1
  valueEvalSteps : Nat := 1
  policyBatchSize : Nat := 64
  policyTrainStepsPerEpoch : Nat := 1
  policyEvalsPerEpoch : Nat := 1
  policyEvalSteps : Nat := 1
  maxSliceLength : Nat := 1
  /-- Steps at the end of a slice that advantages may look ahead to. -/
  addedPolicySliceLength : Nat := 0
  replayEpochs : Nat := 1
  scaleValueTargets : Bool := false
  sharedLayers : Nat := 0
  copyOptimizerSlots : Bool := false
  outputDir : Option String := none
deriving DecidableEq, Repr

namespace Config

inductive CountField where
  | valueBatchSize
  | valueTrainStepsPerEpoch
  | valueEvalsPerEpoch
  | valueEvalSteps
  | policyBatchSize
  | policyTrainStepsPerEpoch
  | policyEvalsPerEpoch
  | policyEvalSteps
  | maxSliceLength
  | addedPolicySliceLength
  | replayEpochs
  | sharedLayers
deriving DecidableEq, Repr

inductive FlagField where
  | scaleValueTargets
  | copyOptimizerSlots
deriving DecidableEq, Repr

inductive Field where
  | count (field : CountField)
  | flag (field : FlagField)
  | outputDir
deriving DecidableEq, Repr

namespace CountField

def name : CountField → String
  | valueBatchSize => "value_batch_size"
  | valueTrainStepsPerEpoch => "value_train_steps_per_epoch"
  | valueEvalsPerEpoch => "value_evals_per_epoch"
  | valueEvalSteps => "value_eval_steps"
  | policyBatchSize => "policy_batch_size"
  | policyTrainStepsPerEpoch => "policy_train_steps_per_epoch"
  | policyEvalsPerEpoch => "policy_evals_per_epoch"
  | policyEvalSteps => "policy_eval_steps"
  | maxSliceLength => "max_slice_length"
  | addedPolicySliceLength => "added_policy_slice_length"
  | replayEpochs => "n_replay_epochs"
  | sharedLayers => "n_shared_layers"

def get (c : Config) : CountField → Nat
  | valueBatchSize => c.valueBatchSize
  | valueTrainStepsPerEpoch => c.valueTrainStepsPerEpoch
  | valueEvalsPerEpoch => c.valueEvalsPerEpoch
  | valueEvalSteps => c.valueEvalSteps
  | policyBatchSize => c.policyBatchSize
  | policyTrainStepsPerEpoch => c.policyTrainStepsPerEpoch
  | policyEvalsPerEpoch => c.policyEvalsPerEpoch
  | policyEvalSteps => c.policyEvalSteps
  | maxSliceLength => c.maxSliceLength
  | addedPolicySliceLength => c.addedPolicySliceLength
  | replayEpochs => c.replayEpochs
  | sharedLayers => c.sharedLayers

def set (c : Config) (n : Nat) : CountField → Config
  | valueBatchSize => { c with valueBatchSize := n }
  | valueTrainStepsPerEpoch => { c with valueTrainStepsPerEpoch := n }
  | valueEvalsPerEpoch => { c with valueEvalsPerEpoch := n }
  | valueEvalSteps => { c with valueEvalSteps := n }
  | policyBatchSize => { c with policyBatchSize := n }
  | policyTrainStepsPerEpoch => { c with policyTrainStepsPerEpoch := n }
  | policyEvalsPerEpoch => { c with policyEvalsPerEpoch := n }
  | policyEvalSteps => { c with policyEvalSteps := n }
  | maxSliceLength => { c with maxSliceLength := n }
  | addedPolicySliceLength => { c with addedPolicySliceLength := n }
  | replayEpochs => { c with replayEpochs := n }
  | sharedLayers => { c with sharedLayers := n }

end CountField

namespace FlagField

def name : FlagField → String
  | scaleValueTargets => "scale_value_targets"
  | copyOptimizerSlots => "copy_optimizer_slots"

def get (c : Config) : FlagField → Bool
  | scaleValueTargets => c.scaleValueTargets
  | copyOptimizerSlots => c.copyOptimizerSlots

def set (c : Config) (b : Bool) : FlagField → Config
  | scaleValueTargets => { c with scaleValueTargets := b }
  | copyOptimizerSlots => { c with copyOptimizerSlots := b }

end FlagField

namespace Field

def name : Field → String
  | count f => f.name
  | flag f => f.name
  | outputDir => "output_dir"

/-- All fields in the order in which they are written. -/
def all : List Field :=
  [count .valueBatchSize, count .valueTrainStepsPerEpoch, count .valueEvalsPerEpoch,
   count .valueEvalSteps, count .policyBatchSize, count .policyTrainStepsPerEpoch,
   count .policyEvalsPerEpoch, count .policyEvalSteps, count .maxSliceLength,
   count .addedPolicySliceLength, count .replayEpochs, flag .scaleValueTargets,
   count .sharedLayers, flag .copyOptimizerSlots, outputDir]

def ofName? (name : String) : Option Field := all.find? fun f => f.name == name

end Field
end Config
end ActorCritic
