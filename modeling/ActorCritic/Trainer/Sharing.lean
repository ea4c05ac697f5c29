import ActorCritic.Trainer.Basic

/-!
Copying a range of layers from one trainer to another, in weights, in state and, if wanted, in
the optimizer slots. All copies are computed before the first is installed.
-/

namespace ActorCritic

/-- The snapshots that a copy installs in its target. -/
structure SharedLayers (α : Type) where
  weights : Snapshot α
  state : Snapshot α
  slots : Option (Snapshot α)

variable {α σ : Type}

/-- The snapshots of the target with the layers `first`, …, `last - 1` of the source. -/
def sharedLayers {ρ τ : Type} [Trainer α σ ρ] [Trainer α σ τ] (first last : Nat)
    (source : ρ) (target : τ) (withSlots : Bool) : Run α (SharedLayers α) := do
  let targetWeights ← Trainer.weights target
  let sourceWeights ← Trainer.weights source
  let weights ← Run.ofParams (sourceWeights.copyLayers targetWeights first last)
  let state ← Run.ofParams
    ((Trainer.state source).copyLayers (Trainer.state target) first last)
  if !withSlots then return ⟨weights, state, none⟩
  match Trainer.slots source with
  | none => Run.fail (.optimizerSlotsUnsupported (Trainer.name source))
  | some sourceSlots =>
    match Trainer.slots target with
    | none => Run.fail (.optimizerSlotsUnsupported (Trainer.name target))
    | some targetSlots =>
      let slots ← Run.ofParams (sourceSlots.copyLayers targetSlots first last)
      return ⟨weights, state, some slots⟩

/-- Replaces the layers `first`, …, `last - 1` of a trainer by those of another. -/
def copyLayersFrom {ρ τ : Type} [Trainer α σ ρ] [Trainer α σ τ] (first last : Nat) (source : ρ)
    (withSlots : Bool) : Action α (τ × World α σ) Unit := do
  let (target, _) ← Action.read
  let copies ← sharedLayers first last source target withSlots
  Trainer.setWeights copies.weights
  Trainer.setState copies.state
  match copies.slots with
  | some slots => Trainer.setSlots slots
  | none => pure ()

end ActorCritic
