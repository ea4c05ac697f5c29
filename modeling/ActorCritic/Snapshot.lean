import ActorCritic.Error.Params
import ActorCritic.Tensor

/-!
Snapshots of a network's parameters, its state, or its optimizer's memory: tensors grouped by
layer. Layers are copied whole, and a copy either fits in every layer or changes nothing.
-/

namespace ActorCritic

structure Snapshot (α : Type) where
  layers : List (List (Tensor α))
deriving DecidableEq

namespace Snapshot

variable {α : Type}

def empty (layerCount : Nat) : Snapshot α := ⟨List.replicate layerCount []⟩

def layerCount (s : Snapshot α) : Nat := s.layers.length

def tensors (s : Snapshot α) : List (Tensor α) := s.layers.flatten

def tensorCount (s : Snapshot α) : Nat := s.tensors.length

/-- The tensors of one layer; there are none past the last layer. -/
def layer (s : Snapshot α) (index : Nat) : List (Tensor α) := s.layers.getD index []

def shapes (s : Snapshot α) (index : Nat) : List (List Nat) := (s.layer index).map Tensor.shape

def checkRange (first last layerCount : Nat) : Except ParamsError Unit :=
  if last < first ∨ layerCount < last then .error (.layerRange first last layerCount)
  else .ok ()

/-- The indices `first`, …, `last - 1`. -/
def range (first last : Nat) : List Nat := List.range' first (last - first)

/-- The first layer of the range whose shapes differ. -/
def firstMismatch? (source target : Snapshot α) (first last : Nat) : Option Nat :=
  (range first last).find? fun i => source.shapes i ≠ target.shapes i

/-- The target with the layers `first`, …, `last - 1` of the source. -/
def copyLayers (source target : Snapshot α) (first last : Nat) :
    Except ParamsError (Snapshot α) := do
  checkRange first last source.layerCount
  checkRange first last target.layerCount
  match firstMismatch? source target first last with
  | some i => throw (.layerMismatch i (source.shapes i) (target.shapes i))
  | none =>
      return ⟨target.layers.take first ++ (source.layers.drop first).take (last - first) ++
        target.layers.drop last⟩

/-- The bits of all entries of one layer. -/
def layerBits (bits : α → UInt32) (s : Snapshot α) (index : Nat) : List (List UInt32) :=
  (s.layer index).map fun t => t.entries.map bits

/-- Whether the layers of the range agree in shapes and in every bit. The bits of an entry are those
of the single-precision number that it is converted to. -/
def layersEqual (bits : α → UInt32) (a b : Snapshot α) (first last : Nat) :
    Except ParamsError Bool := do
  checkRange first last a.layerCount
  checkRange first last b.layerCount
  return (range first last).all fun i =>
    a.shapes i = b.shapes i ∧ a.layerBits bits i = b.layerBits bits i

end Snapshot

/-- Cuts a list into parts of the given sizes; a part is shorter where the list ends. -/
def regroup {β : Type} : (sizes : List Nat) → List β → List (List β)
  | [], _ => []
  | n :: ns, xs => xs.take n :: regroup ns (xs.drop n)

end ActorCritic
