import ActorCritic.Proofs.Snapshot
import ActorCritic.Trainer.Basic

/-!
What a run relies on in its trainers: a snapshot that was taken is read back, a call changes what
it is for and nothing else, a call that fails has changed none of it, and a round counts its steps.
-/

namespace ActorCritic

/-- What a trainer shows of itself. -/
@[ext]
structure Reading (α : Type) where
  step : Nat
  weights : Run α (Snapshot α)
  state : Snapshot α
  slots : Option (Snapshot α)

variable {α σ ρ : Type} [Trainer α σ ρ]

def Trainer.reading (t : ρ) : Reading α where
  step := Trainer.step t
  weights := Trainer.weights t
  state := Trainer.state t
  slots := Trainer.slots t

/-- The laws of a trainer's calls. Weights and state read back as they were set if their tensors
are grouped into layers as before; nothing is said about a round that fails, which may have trained
for some of its steps. -/
class LawfulTrainer {α σ : outParam Type} (ρ : Type) [Trainer α σ ρ] : Prop where
  reading_setWeights {s : Snapshot α} {x y : ρ × World α σ} :
    Trainer.setWeights s x = (.ok (), y) →
      Trainer.reading y.1 = { Trainer.reading x.1 with weights := Trainer.weights y.1 }
  weights_setWeights {s v : Snapshot α} {x y : ρ × World α σ} :
    Trainer.setWeights s x = (.ok (), y) → Trainer.weights x.1 = .ok v → s.layout = v.layout →
      Trainer.weights y.1 = .ok s
  reading_setState {s : Snapshot α} {x y : ρ × World α σ} :
    Trainer.setState s x = (.ok (), y) →
      Trainer.reading y.1 = { Trainer.reading x.1 with state := Trainer.state y.1 }
  state_setState {s : Snapshot α} {x y : ρ × World α σ} :
    Trainer.setState s x = (.ok (), y) → s.layout = (Trainer.state x.1).layout →
      Trainer.state y.1 = s
  reading_setSlots {s : Snapshot α} {x y : ρ × World α σ} :
    Trainer.setSlots s x = (.ok (), y) →
      Trainer.reading y.1 = { Trainer.reading x.1 with slots := some s }
  reading_setWeights_error {s : Snapshot α} {x y : ρ × World α σ} {e : Failure (Error α)} :
    Trainer.setWeights s x = (.error e, y) → Trainer.reading y.1 = Trainer.reading x.1
  reading_setState_error {s : Snapshot α} {x y : ρ × World α σ} {e : Failure (Error α)} :
    Trainer.setState s x = (.error e, y) → Trainer.reading y.1 = Trainer.reading x.1
  reading_setSlots_error {s : Snapshot α} {x y : ρ × World α σ} {e : Failure (Error α)} :
    Trainer.setSlots s x = (.error e, y) → Trainer.reading y.1 = Trainer.reading x.1
  step_trainRound {steps evalSteps : Nat} {x y : ρ × World α σ} :
    Trainer.trainRound steps evalSteps x = (.ok (), y) →
      Trainer.step y.1 = Trainer.step x.1 + steps

namespace LawfulTrainer

variable [LawfulTrainer ρ]

theorem reading_of_setWeights {s v : Snapshot α} {x y : ρ × World α σ}
    (h : Trainer.setWeights s x = (.ok (), y)) (hv : Trainer.weights x.1 = .ok v)
    (hlayout : s.layout = v.layout) :
    Trainer.reading y.1 = { Trainer.reading x.1 with weights := .ok s } := by
  rw [reading_setWeights h, weights_setWeights h hv hlayout]

theorem reading_of_setState {s : Snapshot α} {x y : ρ × World α σ}
    (h : Trainer.setState s x = (.ok (), y)) (hlayout : s.layout = (Trainer.state x.1).layout) :
    Trainer.reading y.1 = { Trainer.reading x.1 with state := s } := by
  rw [reading_setState h, state_setState h hlayout]

end LawfulTrainer
end ActorCritic
