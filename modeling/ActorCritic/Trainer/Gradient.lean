import ActorCritic.Metrics.Logger
import ActorCritic.Optimizer
import ActorCritic.Score
import ActorCritic.Trainer.Basic

/-!
The trainer that trains: gradient steps on the batches of one stream, evaluation on those of
another, a report of every round, and a checkpoint after it where there is a directory for
checkpoints.
-/

namespace ActorCritic

/-- The schedule tells the rate of a step. -/
structure GradientTrainer (σ κ β ι ο μ : Type) where
  name : String
  network : Network Float32 ι ο
  optimizer : Optimizer Float32 μ
  memory : OptimizerMemory μ
  schedule : Nat → Float
  score : Network Float32 ι ο → β → Run Float32 (Score Float32)
  source : BatchSource Float32 σ κ β
  trainStream : Option κ
  evalStream : Option κ
  step : Nat
  checkpointer : Option Checkpointer
  loggers : List Logger
  history : List Report

namespace GradientTrainer

variable {σ κ β ι ο μ : Type}

abbrev TrainerAction (σ κ β ι ο μ γ : Type) :=
  Action Float32 (GradientTrainer σ κ β ι ο μ × World Float32 σ) γ

/-- Opens the directory for checkpoints and the table of reports, if there is a directory. -/
def make (name : String) (network : Network Float32 ι ο) (optimizer : Optimizer Float32 μ)
    (schedule : Nat → Float) (score : Network Float32 ι ο → β → Run Float32 (Score Float32))
    (setup : TrainerSetup Float32 σ κ β) :
    Action Float32 (World Float32 σ) (GradientTrainer σ κ β ι ο μ) := do
  let trainer : GradientTrainer σ κ β ι ο μ := {
    name := name
    network := network
    optimizer := optimizer
    memory := []
    schedule := schedule
    score := score
    source := setup.source
    trainStream := none
    evalStream := none
    step := 0
    checkpointer := none
    loggers := [.lines []]
    history := [] }
  match setup.outputDir with
  | none => return trainer
  | some dir =>
      let w ← Action.read
      let (opened, files) := Checkpointer.openAt dir Checkpointer.defaultKeep w.files
      Action.update fun w => { w with files := files }
      let checkpointer ← Action.ofRun (Run.ofCheckpoint opened)
      let (table, files) ← Logger.openCsv (dir.child "metrics.csv") files
      Action.update fun w => { w with files := files }
      return { trainer with
        checkpointer := some checkpointer
        loggers := [.lines [], table] }

/-- The next batch of a stream, which is replaced by a fresh one where it has ended. A fresh
stream is kept only if it gives an item. -/
def nextBatch (source : BatchSource Float32 σ κ β) (name : String) (stream : Option κ)
    (supply : σ) : Run Float32 β × Option κ × σ :=
  let pulled : Option (Run Float32 β) × Option κ :=
    match stream with
    | none => (none, none)
    | some s =>
        let (item, s) := source.pull supply s
        (item, some s)
  match pulled with
  | (some item, stream) => (item, stream, supply)
  | (none, stream) =>
      match source.start supply with
      | (.error a, supply) => (.error (.abort a), stream, supply)
      | (.ok fresh, supply) =>
          match source.pull supply fresh with
          | (some (.error (.abort a)), _) => (.error (.abort a), stream, supply)
          | (some item, fresh) => (item, some fresh, supply)
          | (none, _) => (Run.fail (.emptyStream name), stream, supply)

def nextTrainBatch : TrainerAction σ κ β ι ο μ β := fun (t, w) =>
  let (item, stream, supply) := nextBatch t.source t.name t.trainStream w.supply
  (item, ({ t with trainStream := stream }, { w with supply := supply }))

def nextEvalBatch : TrainerAction σ κ β ι ο μ β := fun (t, w) =>
  let (item, stream, supply) := nextBatch t.source t.name t.evalStream w.supply
  (item, ({ t with evalStream := stream }, { w with supply := supply }))

/-- Moves the parameters against the gradients and counts the step. -/
def applyGradients (rate : Float) (gradients : List (Tensor Float32)) :
    TrainerAction σ κ β ι ο μ Unit := do
  let (t, _) ← Action.read
  let (params, memory) ←
    (t.optimizer.update rate.toFloat32 t.network.params gradients t.memory : Except Abort _)
  Action.update fun (t, w) =>
    ({ t with network := { t.network with params := params }, memory := memory }, w)
  let step ← (Count.add t.step 1 : Except Abort Nat)
  Action.update fun (t, w) => ({ t with step := step }, w)

/-- Gradient steps. Returns the rate of the last one and the means of the losses. -/
def trainSteps : (steps : Nat) → (rate : Float) → MetricMeans →
    TrainerAction σ κ β ι ο μ (Float × MetricMeans)
  | 0, rate, losses => pure (rate, losses)
  | steps + 1, _, losses => do
      let batch ← nextTrainBatch
      let (t, _) ← Action.read
      let rate := t.schedule t.step
      let score ← t.score t.network batch
      let (losses, _) ← losses.record "loss" score.loss
      applyGradients rate (← score.gradients)
      trainSteps steps rate losses

/-- The means of the losses and of what is reported beside them; the network stays as it is. -/
def evaluate : (steps : Nat) → MetricMeans → TrainerAction σ κ β ι ο μ (Metrics Float32)
  | 0, means => pure means.means
  | steps + 1, means => do
      let batch ← nextEvalBatch
      let (t, _) ← Action.read
      let score ← t.score t.network batch
      let (means, _) ← means.record "loss" score.loss
      let (means, _) ← means.recordAll score.metrics
      evaluate steps means

def report (r : Report) : TrainerAction σ κ β ι ο μ Unit :=
  Action.update fun (t, w) =>
    ({ t with loggers := t.loggers.map (Logger.log r w.clock), history := t.history ++ [r] }, w)

def saveCheckpoint : TrainerAction σ κ β ι ο μ Unit := fun (t, w) =>
  match t.checkpointer with
  | none => (.ok (), (t, w))
  | some c =>
      let (result, c, files) := c.save t.network.params t.step w.files
      ((Run.ofCheckpoint result).map fun _ => (),
        ({ t with checkpointer := some c }, { w with files := files }))

def trainRound (steps evalSteps : Nat) : TrainerAction σ κ β ι ο μ Unit := do
  let (t, _) ← Action.read
  let (rate, losses) ← trainSteps steps (t.schedule t.step) .empty
  let metrics ← evaluate evalSteps .empty
  let (t, _) ← Action.read
  report {
    trainer := t.name
    step := t.step
    learningRate := rate
    trainLoss := (losses.mean? "loss").getD 0
    metrics := metrics }
  saveCheckpoint

/-- Goes back to the latest checkpoint, if there is one, and returns its step. The optimizer
keeps its memory. -/
def restoreLatest : TrainerAction σ κ β ι ο μ (Option Nat) := do
  let (t, w) ← Action.read
  match t.checkpointer with
  | none => return none
  | some c =>
      let checkpoints ← Action.ofRun <| Run.ofCheckpoint (c.list w.files)
      if checkpoints.isEmpty then return none
      let (network, step) ← Action.ofRun <| Run.ofCheckpoint (c.restoreLatest t.network w.files)
      Action.update fun (t, w) => ({ t with network := network, step := step }, w)
      return some step

/-- Flushes the loggers and drops the streams; the next round starts fresh ones. -/
def close : TrainerAction σ κ β ι ο μ Unit :=
  Action.update fun (t, w) =>
    let (loggers, files) := Logger.flushAll t.loggers w.files
    ({ t with loggers := loggers, trainStream := none, evalStream := none },
      { w with files := files })

instance : Trainer Float32 σ (GradientTrainer σ κ β ι ο μ) where
  name t := t.name
  step t := t.step
  weights t := t.network.weights
  state t := t.network.state
  slots _ := none
  setWeights s := do
    let (t, _) ← Action.read
    let network ← t.network.load s
    Action.update fun (t, w) => ({ t with network := network }, w)
  setState s := do
    let (t, _) ← Action.read
    let network ← Action.ofRun <| Run.ofParams (t.network.withState s)
    Action.update fun (t, w) => ({ t with network := network }, w)
  setSlots _ := do
    let (t, _) ← Action.read
    Action.ofRun <| Run.fail (.optimizerSlotsUnsupported t.name)
  trainRound := trainRound
  close := close

end GradientTrainer
end ActorCritic
