import ActorCritic.Decimal.Shortest
import ActorCritic.Scalar

/-!
Learning rates by training step: a constant, a linear change between two rates, and a product of
factors with a warmup ramp and a square-root decay. The constructors admit finite rates that are
not negative, so every rate of a schedule is one too.
-/

namespace ActorCritic

/-- Why a schedule is refused; `schedule` and `name` say which rate of which schedule. -/
inductive RateError (ρ : Type) where
  | noSteps (schedule name : String)
  | notFinite (schedule name : String) (rate : ρ)
  | negative (schedule name : String) (rate : ρ)
deriving DecidableEq, Repr

def RateError.message {ρ : Type} [Decimal.ToBinary ρ] : RateError ρ → String
  | noSteps schedule name => s!"{schedule}: {name} must be > 0, got 0"
  | notFinite schedule name rate =>
      s!"{schedule}: {name} must be finite, got {Decimal.text rate}"
  | negative schedule name rate =>
      s!"{schedule}: {name} must be non-negative, got {Decimal.text rate}"

inductive RateFactor where
  | constant
  | warmup
  | rsqrtDecay
deriving DecidableEq, Repr

def RateFactor.ofName? : String → Option RateFactor
  | "constant" => some constant
  | "warmup" => some warmup
  | "rsqrt" => some rsqrtDecay
  | _ => none

structure Multifactor (ρ : Type) where
  constant : ρ
  warmupSteps : Nat
  factors : List RateFactor

inductive LearningRate (ρ : Type) where
  | constant (rate : ρ)
  | linear (first last : ρ) (steps : Nat)
  | multifactor (settings : Multifactor ρ)

variable {ρ : Type} [Scalar ρ]

/-- A rate that is finite and not negative. -/
def checkedRate (schedule name : String) (rate : ρ) : Except (RateError ρ) ρ :=
  if !Scalar.isFinite rate then .error (.notFinite schedule name rate)
  else if 0 ≤ rate then .ok rate
  else .error (.negative schedule name rate)

namespace Multifactor

def defaultFactors : List RateFactor := [.constant, .warmup, .rsqrtDecay]

def standard : Multifactor ρ := ⟨Scalar.ratio 1 10, 400, defaultFactors⟩

def make (constant : ρ) (warmupSteps : Nat) : Except (RateError ρ) (Multifactor ρ) := do
  if warmupSteps = 0 then throw (.noSteps "Multifactor" "warmup_steps")
  return ⟨← checkedRate "Multifactor" "constant" constant, warmupSteps, defaultFactors⟩

/-- One factor applied to a rate: the ramp grows to one at the end of the warmup, and the decay
starts there. -/
def apply (m : Multifactor ρ) (step : Nat) (rate : ρ) : RateFactor → ρ
  | .constant => rate * m.constant
  | .warmup => rate * Scalar.min (Scalar.ofCount step / Scalar.ofCount m.warmupSteps) 1
  | .rsqrtDecay =>
      rate / Scalar.sqrt (Scalar.max (Scalar.ofCount step) (Scalar.ofCount m.warmupSteps))

/-- A product that leaves the finite rates counts as zero. -/
def rate (m : Multifactor ρ) (step : Nat) : ρ :=
  let product := m.factors.foldl (m.apply step) 1
  if Scalar.isFinite product ∧ 0 ≤ product then product else 0

end Multifactor

namespace LearningRate

def makeConstant (rate : ρ) : Except (RateError ρ) (LearningRate ρ) :=
  constant <$> checkedRate "ConstantLR" "lr" rate

def makeLinear (first last : ρ) (steps : Nat) : Except (RateError ρ) (LearningRate ρ) := do
  if steps = 0 then throw (.noSteps "LinearDecay" "total_steps")
  let first ← checkedRate "LinearDecay" "start" first
  let last ← checkedRate "LinearDecay" "end" last
  return linear first last steps

def rate (schedule : LearningRate ρ) (step : Nat) : ρ :=
  match schedule with
  | constant r => r
  | linear first last steps =>
      first + (last - first) * Scalar.min (Scalar.ofCount step / Scalar.ofCount steps) 1
  | multifactor m => m.rate step

end LearningRate
end ActorCritic
