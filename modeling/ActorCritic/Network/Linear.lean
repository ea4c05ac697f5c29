import ActorCritic.Network.Basic
import ActorCritic.StepTensor

/-!
Linear layers and rectifiers on step tensors, with their gradients.
-/

namespace ActorCritic
namespace Network

variable {α : Type} [Scalar α]

/-- The feature vectors of all steps. -/
def vectors (x : StepTensor α) : List (List α) := blocks x.features (x.batch * x.time) x.entries

/-- A step tensor from the feature vectors of its steps. -/
def ofVectors (batch time features : Nat) (vs : List (List α)) : Except Abort (StepTensor α) :=
  if h : vs.flatten.length = batch * (time * features) then
    .ok ⟨batch, time, features, vs.flatten, h⟩
  else .error .refused

def tensorOf (shape : List Nat) (entries : List α) : Except Abort (Tensor α) :=
  match Tensor.ofEntries? shape entries with
  | some t => .ok t
  | none => .error .refused

def dot (v w : List α) : α := Scalar.sum (List.zipWith (· * ·) v w)

/-- The gradients of a linear layer's weight, bias and input. -/
structure LinearGradient (α : Type) where
  weight : Tensor α
  bias : Tensor α
  input : StepTensor α

/-- A linear layer: the output, and the gradients as a function of that of the output. The
weight has a row per input feature. Neither the steps nor the features may be none. -/
def linear (weight bias : Tensor α) (x : StepTensor α) :
    Except Abort (StepTensor α × (StepTensor α → Except Abort (LinearGradient α))) :=
  match weight.shape, bias.shape with
  | [inputs, outputs], [biases] =>
      if inputs ≠ x.features ∨ biases ≠ outputs ∨ x.time = 0 ∨ inputs = 0 ∨ outputs = 0 then
        .error .refused
      else do
        let rows := blocks outputs inputs weight.entries
        let apply (v : List α) : List α :=
          List.zipWith (· + ·)
            (addBlocks outputs (List.zipWith (fun a row => row.map (a * ·)) v rows)) bias.entries
        let y ← ofVectors x.batch x.time outputs ((vectors x).map apply)
        let pullback (g : StepTensor α) : Except Abort (LinearGradient α) := do
          let gs := vectors g
          let outer (v w : List α) : List α := v.flatMap fun a => w.map (a * ·)
          return {
            weight := ← tensorOf [inputs, outputs]
              (addBlocks (inputs * outputs) (List.zipWith outer (vectors x) gs))
            bias := ← tensorOf [outputs] (addBlocks outputs gs)
            input := ← ofVectors x.batch x.time inputs (gs.map fun w => rows.map (dot w)) }
        return (y, pullback)
  | _, _ => .error .refused

/-- The number of entries from which on a tensor is rectified in vector lanes. -/
def laneThreshold : Nat := 32

/-- Keeps positive entries and sets the others to zero. What compares with nothing counts as not
positive in vector lanes, and is kept in tensors that are too small for them. -/
def rectify (x : StepTensor α) : StepTensor α :=
  { x with
    entries :=
      if x.entries.length < laneThreshold then x.entries.map fun a => if a ≤ 0 then 0 else a
      else x.entries.map fun a => if 0 < a then a else 0
    size_eq := by split <;> simp [x.size_eq] }

/-- The gradient of the input of a rectifier: zero where the input is not positive. -/
def rectifyGradient (x g : StepTensor α) : Except Abort (StepTensor α) :=
  ofVectors x.batch x.time x.features
    [List.zipWith (fun a d => if a ≤ 0 then 0 else d) x.entries g.entries]

/-- Two linear layers with a rectifier between them, from the parameters in their order. -/
def twoLayers (params : List (Tensor α)) (x : StepTensor α) :
    Except Abort (Traced α (StepTensor α)) :=
  match params with
  | [w₁, b₁, w₂, b₂] => do
      let (h, pull₁) ← linear w₁ b₁ x
      let (y, pull₂) ← linear w₂ b₂ (rectify h)
      return {
        output := y
        pullback := fun g => do
          let outer ← pull₂ g
          let inner ← pull₁ (← rectifyGradient h outer.input)
          return [inner.weight, inner.bias, outer.weight, outer.bias] }
  | _ => .error .refused

def oneLayer (params : List (Tensor α)) (x : StepTensor α) :
    Except Abort (Traced α (StepTensor α)) :=
  match params with
  | [w, b] => do
      let (y, pull) ← linear w b x
      return {
        output := y
        pullback := fun g => do
          let gradient ← pull g
          return [gradient.weight, gradient.bias] }
  | _ => .error .refused

end Network
end ActorCritic
