import ActorCritic.Batch.Source
import ActorCritic.EpochSchedule
import ActorCritic.Network.Signature
import ActorCritic.Trainer.Sharing

/-!
The coordinator of a run. In every epoch it trains the value network and then the policy, on
batches built with the same value target; shared layers are copied from the policy to the value
network before the value rounds and back after them. An epoch that was interrupted is continued
from the steps that the trainers have reached: only the remaining rounds are run, and shared
layers are not copied back over a policy that has already begun its rounds.
-/

namespace ActorCritic

/-- An admitted run: a configuration that is valid for its algorithm. -/
structure RunPlan (α : Type) where
  config : Config
  algorithm : Algorithm α
  task : Task α
  replay : ReplayWindow

namespace RunPlan

variable {α : Type} [Scalar α]

/-- Admits a run; the configuration is checked before the replay window. -/
def make (config : Config) (algorithm : Algorithm α) (task : Task α) :
    Except (ConfigError α) (RunPlan α) := do
  config.validate
  return ⟨config, algorithm, task, ← ReplayWindow.make config.replayEpochs algorithm.isOnPolicy
    algorithm.name⟩

def signature (p : RunPlan α) : ValueSignature := .ofObservationShape p.task.observationShape

end RunPlan

structure Coordinator (α ρ τ : Type) where
  plan : RunPlan α
  valueBatches : ValueBatchBuilder α
  policyBatches : PolicyBatchBuilder α
  valueTrainer : ρ
  policyTrainer : τ
  valueOutputDir : Option Path

structure EpochSummary where
  epoch : Nat
  valueRounds : Nat
  policyRounds : Nat
  copiedValueToPolicy : Bool
  valueTargetVersion : Nat
deriving DecidableEq, Repr

namespace Coordinator

variable {α ρ τ : Type}

abbrev RunWorld (α : Type) := World α (Supply α)

abbrev CoordinatorAction (α ρ τ β : Type) := Action α (Coordinator α ρ τ × RunWorld α) β

/-- How a trainer is made from its input and its directory. -/
abbrev TrainerFactory (α β ρ : Type) :=
  TrainerSetup α (Supply α) (Stream (Trajectory α)) β → Action α (RunWorld α) ρ

def startingWorld (network : ValueNetwork α) (files : Files α) (clock : Float32) : RunWorld α where
  supply := ⟨ValueTarget.make network, []⟩
  files := files
  journal := []
  clock := clock

/-- Hands a setup to a factory and notes it in the journal. -/
def hire {β γ : Type} (role : Role) (factory : TrainerFactory α β γ)
    (source : BatchSource α (Supply α) (Stream (Trajectory α)) β) (outputDir : Option Path) :
    Action α (RunWorld α) γ := do
  Action.update fun w => { w with journal := w.journal ++ [⟨role.name, .setup outputDir⟩] }
  factory ⟨source, outputDir⟩

/-- Sets up both builders, the directory of the value trainer, and then the trainers. -/
def make [Scalar α] (plan : RunPlan α) (valueTrainer : TrainerFactory α (ValueBatch α) ρ)
    (policyTrainer : TrainerFactory α (PolicyBatch α) τ) :
    Action α (RunWorld α) (Coordinator α ρ τ) := do
  let gamma := plan.task.gamma
  let valueBatches ← (ValueBatchBuilder.ofConfig plan.config gamma plan.algorithm.estimator
    plan.replay : Attempt (ConfigError α) _)
  let policyBatches ← (PolicyBatchBuilder.ofConfig plan.config gamma plan.algorithm
    plan.replay : Attempt (ConfigError α) _)
  let outputDir := plan.config.outputDir.map Path.ofText
  let valueOutputDir := outputDir.map fun dir => dir.child Role.value.name
  match valueOutputDir with
  | none => pure ()
  | some dir =>
      let w ← Action.read
      let (there, files) := w.files.makeDirs dir
      Action.update fun w => { w with files := files }
      if !there then Action.ofRun (Run.fail .io)
  let value ← hire .value valueTrainer (valueBatches.source plan.task) valueOutputDir
  let policy ← hire .policy policyTrainer (policyBatches.source plan.task) outputDir
  return ⟨plan, valueBatches, policyBatches, value, policy, valueOutputDir⟩

section Epoch

variable [Trainer α (Supply α) ρ] [Trainer α (Supply α) τ]

def onValue {β : Type} (a : Action α (ρ × RunWorld α) β) : CoordinatorAction α ρ τ β :=
  Action.within (fun (c, w) => (c.valueTrainer, w))
    (fun (c, _) (t, w) => ({ c with valueTrainer := t }, w)) a

def onPolicy {β : Type} (a : Action α (τ × RunWorld α) β) : CoordinatorAction α ρ τ β :=
  Action.within (fun (c, w) => (c.policyTrainer, w))
    (fun (c, _) (t, w) => ({ c with policyTrainer := t }, w)) a

/-- Loads the value trainer's weights and state into the value target; returns its version. -/
def refreshTarget : CoordinatorAction α ρ τ Nat := do
  let (c, w) ← Action.read
  let weights ← (Trainer.weights c.valueTrainer : Run α _)
  let target ← w.supply.target.refresh weights (Trainer.state c.valueTrainer)
  Action.update fun (c, w) => (c, { w with supply := { w.supply with target := target } })
  return target.version

def copyPolicyToValue : CoordinatorAction α ρ τ Unit := do
  let (c, _) ← Action.read
  onValue (copyLayersFrom 0 c.plan.config.sharedLayers c.policyTrainer
    c.plan.config.copyOptimizerSlots)

def copyValueToPolicy : CoordinatorAction α ρ τ Unit := do
  let (c, _) ← Action.read
  onPolicy (copyLayersFrom 0 c.plan.config.sharedLayers c.valueTrainer
    c.plan.config.copyOptimizerSlots)

def remainingValueRounds (epoch : Nat) : CoordinatorAction α ρ τ Nat := do
  let (c, _) ← Action.read
  remainingRounds (Trainer.step c.valueTrainer) epoch c.plan.config.valueTrainStepsPerEpoch
    c.plan.config.valueEvalsPerEpoch

def remainingPolicyRounds (epoch : Nat) : CoordinatorAction α ρ τ Nat := do
  let (c, _) ← Action.read
  remainingRounds (Trainer.step c.policyTrainer) epoch c.plan.config.policyTrainStepsPerEpoch
    c.plan.config.policyEvalsPerEpoch

/-- Runs what is left of an epoch, whose collected state is given to the policy first. -/
def trainEpoch (epoch : Nat) (collected : Snapshot α) : CoordinatorAction α ρ τ EpochSummary := do
  let (c, _) ← Action.read
  let config := c.plan.config
  onPolicy (Trainer.setState collected)
  if 0 < config.sharedLayers then copyPolicyToValue
  let _ ← refreshTarget
  let valueRounds ← remainingValueRounds epoch
  Action.repeated (onValue (Trainer.trainRound config.valueStepsPerEval config.valueEvalSteps))
    valueRounds
  let policyRounds ← remainingPolicyRounds epoch
  let policyBegan := valueRounds = 0 ∧ policyRounds < config.policyEvalsPerEpoch
  let copiesBack := 0 < config.sharedLayers ∧ ¬ policyBegan
  if copiesBack then copyValueToPolicy
  let version ← refreshTarget
  Action.repeated
    (onPolicy (Trainer.trainRound config.policyStepsPerEval config.policyEvalSteps))
    policyRounds
  return ⟨epoch, valueRounds, policyRounds, copiesBack, version⟩

/-- Closes both trainers, the value trainer first. -/
def close : CoordinatorAction α ρ τ Unit := do
  onValue Trainer.close
  onPolicy Trainer.close

end Epoch

end Coordinator
end ActorCritic
