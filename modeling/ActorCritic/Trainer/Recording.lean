import ActorCritic.Trainer.Basic

/-!
A trainer that computes nothing: it notes every call in the journal, takes any snapshot, and
draws one batch for every training step.
-/

namespace ActorCritic

structure RecordingTrainer (α σ κ β : Type) where
  name : String
  step : Nat
  weights : Snapshot α
  state : Snapshot α
  slots : Option (Snapshot α)
  source : BatchSource α σ κ β
  stream : Option κ

namespace RecordingTrainer

variable {α σ κ β : Type}

def make (name : String) (step : Nat) (weights : Snapshot α) (slots : Option (Snapshot α))
    (source : BatchSource α σ κ β) : RecordingTrainer α σ κ β where
  name := name
  step := step
  weights := weights
  state := Snapshot.empty weights.layerCount
  slots := slots
  source := source
  stream := none

/-- The trainer of a network whose layers have to cover its parameters. -/
def ofNetwork {ι ο : Type} (name : String) (step : Nat) (network : Network α ι ο)
    (slots : Option (Snapshot α)) (source : BatchSource α σ κ β) :
    Except Abort (RecordingTrainer α σ κ β) :=
  match network.weights with
  | .ok weights => .ok (make name step weights slots source)
  | .error (.abort a) => .error a
  | .error (.error _) => .error .refused

abbrev TrainerAction (α σ κ β γ : Type) := Action α (RecordingTrainer α σ κ β × World α σ) γ

def note (call : TrainerCall) : TrainerAction α σ κ β Unit :=
  Action.update fun (t, w) => (t, { w with journal := w.journal ++ [⟨t.name, call⟩] })

/-- Draws a batch. A stream that has ended is kept, and gives no more batches. -/
def draw : TrainerAction α σ κ β Unit := fun (t, w) =>
  let (opened, supply) : Except Abort κ × σ :=
    match t.stream with
    | some stream => (.ok stream, w.supply)
    | none => t.source.start w.supply
  let w := { w with supply := supply }
  match opened with
  | .error a => (.error (.abort a), (t, w))
  | .ok stream =>
      let (item, stream) := t.source.pull w.supply stream
      let t := { t with stream := some stream }
      match item with
      | some (.error e) => (.error e, (t, w))
      | _ => (.ok (), (t, w))

/-- The steps count only when all batches are drawn. -/
def trainRound (steps evalSteps : Nat) : TrainerAction α σ κ β Unit := do
  note (.trainEpoch steps evalSteps)
  Action.repeated draw steps
  let (t, _) ← Action.read
  let step ← (Count.add t.step steps : Except Abort Nat)
  Action.update fun (t, w) => ({ t with step := step }, w)

instance : Trainer α σ (RecordingTrainer α σ κ β) where
  name t := t.name
  step t := t.step
  weights t := .ok t.weights
  state t := t.state
  slots t := t.slots
  setWeights s := do
    note .setWeights
    Action.update fun (t, w) => ({ t with weights := s }, w)
  setState s := do
    note .setState
    Action.update fun (t, w) => ({ t with state := s }, w)
  setSlots s := do
    note .setSlots
    Action.update fun (t, w) => ({ t with slots := some s }, w)
  trainRound := trainRound
  close := note .close

end RecordingTrainer
end ActorCritic
