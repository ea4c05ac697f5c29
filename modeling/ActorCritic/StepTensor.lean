import ActorCritic.StepMatrix

/-!
Feature vectors for every step of every episode slice: tensors with the axes batch, time and
features.
-/

namespace ActorCritic

structure StepTensor (α : Type) where
  batch : Nat
  time : Nat
  features : Nat
  entries : List α
  size_eq : entries.length = batch * (time * features)
deriving DecidableEq

namespace StepTensor

variable {α β : Type}

def shape (t : StepTensor α) : List Nat := [t.batch, t.time, t.features]

def extent (t : StepTensor α) : Nat × Nat := (t.batch, t.time)

def fill (batch time features : Nat) (x : α) : StepTensor α :=
  ⟨batch, time, features, List.replicate (batch * (time * features)) x, List.length_replicate⟩

def toTensor (t : StepTensor α) : Tensor α :=
  ⟨t.shape, t.entries, by simp [shape, t.size_eq]⟩

def ofTensor? (t : Tensor α) : Option (StepTensor α) :=
  match h : t.shape with
  | [batch, time, features] => some ⟨batch, time, features, t.entries, by simp [t.size_eq, h]⟩
  | _ => none

/-- The first steps as a range of the tensor. A range that drops steps may not be empty. -/
def timePrefix (t : StepTensor α) (length : Nat) : Except Abort (StepTensor α) :=
  if h : t.time ≤ length then .ok t
  else if length = 0 ∨ t.batch = 0 ∨ t.features = 0 then .error .refused
  else
    .ok ⟨t.batch, length, t.features,
      keepInBlocks (t.time * t.features) t.batch (length * t.features) t.entries,
      length_keepInBlocks t.size_eq (Nat.mul_le_mul_right _ (by omega))⟩

/-- One number per step as a tensor of one feature. -/
def ofSteps (m : StepMatrix α) : StepTensor α :=
  ⟨m.rows, m.cols, 1, m.entries, by simp [m.size_eq]⟩

/-- The number at every step of a tensor of one feature. -/
def toSteps? (t : StepTensor α) : Option (StepMatrix α) :=
  if h : t.features = 1 then some ⟨t.batch, t.time, t.entries, by simp [t.size_eq, h]⟩ else none

end StepTensor
end ActorCritic
