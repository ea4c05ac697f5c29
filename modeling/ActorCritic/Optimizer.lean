import ActorCritic.Network.Basic

/-!
Optimizers: a rule that moves one parameter at a time against its gradient, such as plain gradient
descent, or Adam with bias-corrected moments. What a rule remembers belongs to parameters by their
identity, so it outlives the values loaded into them.
-/

namespace ActorCritic

/-- How a parameter is moved: from the rate, its value, its gradient and what is remembered of it to
its new value and what is remembered of it from then on. -/
structure Optimizer (α μ : Type) where
  move : (rate : α) → (value gradient : Tensor α) → (remembered : Option μ) →
    Except Abort (Tensor α × Option μ)

/-- What is remembered of parameters, by their identity. -/
abbrev OptimizerMemory (μ : Type) := List (Nat × μ)

/-- The memory with something else, or nothing, remembered of one parameter. -/
def OptimizerMemory.remember {μ : Type} (memory : OptimizerMemory μ) (i : Nat)
    (remembered : Option μ) : OptimizerMemory μ :=
  (remembered.map (i, ·)).toList ++ memory.filter fun entry => entry.1 ≠ i

/-- Decayed means of a parameter's gradients and of their squares, after a number of updates. -/
structure Moments (α : Type) where
  first : Tensor α
  second : Tensor α
  updates : Nat

namespace Optimizer

variable {α μ : Type}

def updateParam (o : Optimizer α μ) (rate : α) (p : Param α) (gradient : Tensor α)
    (memory : OptimizerMemory μ) : Except Abort (Param α × OptimizerMemory μ) := do
  let (value, remembered) ← o.move rate p.value gradient (memory.lookup p.id)
  return ({ p with value := value }, memory.remember p.id remembered)

/-- Moves every parameter that has a gradient. -/
def update (o : Optimizer α μ) (rate : α) : List (Param α) → List (Tensor α) →
    OptimizerMemory μ → Except Abort (List (Param α) × OptimizerMemory μ)
  | p :: ps, g :: gs, memory => do
      let (p, memory) ← o.updateParam rate p g memory
      let (ps, memory) ← o.update rate ps gs memory
      return (p :: ps, memory)
  | ps, _, memory => .ok (ps, memory)

variable [Scalar α]

/-- Plain gradient descent, which remembers nothing. -/
def sgd : Optimizer α μ where
  move rate value gradient _ := do
    return (← Tensor.combine (fun w g => w - rate * g) value gradient, none)

def beta1 : α := Scalar.ratio 9 10

def beta2 : α := Scalar.ratio 999 1000

def adamEpsilon : α := Scalar.ratio 1 100000

def power (x : α) : Nat → α
  | 0 => 1
  | n + 1 => power x n * x

/-- The moments after one more gradient. -/
def observe (gradient : Tensor α) (previous : Option (Moments α)) : Except Abort (Moments α) := do
  let first := gradient.map fun g => (1 - beta1) * g
  let second := gradient.map fun g => (1 - beta2) * (g * g)
  match previous with
  | none => return ⟨first, second, 1⟩
  | some m =>
      return {
        first := ← Tensor.combine (fun old new => beta1 * old + new) m.first first
        second := ← Tensor.combine (fun old new => beta2 * old + new) m.second second
        updates := m.updates + 1 }

/-- The step of a parameter in units of the learning rate. -/
def direction (m : Moments α) : Except Abort (Tensor α) :=
  let correction1 : α := 1 - power beta1 m.updates
  let correction2 : α := 1 - power beta2 m.updates
  Tensor.combine
    (fun a b => a / correction1 / (Scalar.sqrt (b / correction2) + adamEpsilon))
    m.first m.second

def adam : Optimizer α (Moments α) where
  move rate value gradient remembered := do
    let moments ← observe gradient remembered
    let value ← Tensor.combine (fun w d => w - rate * d) value (← direction moments)
    return (value, some moments)

end Optimizer
end ActorCritic
