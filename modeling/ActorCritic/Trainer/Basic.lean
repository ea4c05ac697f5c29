import ActorCritic.World

/-!
Supervised trainers: a network behind a name and a step counter, whose weights, state and
optimizer slots can be read and replaced as snapshots, and which trains in rounds.
-/

namespace ActorCritic

class Trainer (α τ : outParam Type) (ρ : Type) where
  name : ρ → String
  step : ρ → Nat
  weights : ρ → Run α (Snapshot α)
  state : ρ → Snapshot α
  /-- None where the trainer does not expose its optimizer's memory. -/
  slots : ρ → Option (Snapshot α)
  setWeights : Snapshot α → Action α (ρ × World α τ) Unit
  setState : Snapshot α → Action α (ρ × World α τ) Unit
  setSlots : Snapshot α → Action α (ρ × World α τ) Unit
  /-- One round: training steps, then an evaluation. -/
  trainRound : (steps evalSteps : Nat) → Action α (ρ × World α τ) Unit
  close : Action α (ρ × World α τ) Unit

/-- What a new trainer gets: its input, and the directory for its files if it keeps any. -/
structure TrainerSetup (α σ κ β : Type) where
  source : BatchSource α σ κ β
  outputDir : Option Path

end ActorCritic
