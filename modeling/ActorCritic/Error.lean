import ActorCritic.Error.Checkpoint
import ActorCritic.Error.Config
import ActorCritic.Error.Params
import ActorCritic.Error.Schedule
import ActorCritic.Error.Shape
import ActorCritic.Failure

/-!
All causes of failure of a training run.
-/

namespace ActorCritic

inductive Error (α : Type) where
  | config (cause : ConfigError α)
  | shape (cause : ShapeError)
  | schedule (cause : ScheduleError)
  | params (cause : ParamsError)
  | checkpoint (cause : CheckpointError)
  | io
  | emptyStream (trainer : String)
  | optimizerSlotsUnsupported (trainer : String)
  | tensor (text : String)
deriving DecidableEq

namespace Error

variable {α : Type}

def kind : Error α → String
  | config e => e.kind
  | shape e => e.kind
  | schedule e => e.kind
  | params e => e.kind
  | checkpoint e => e.kind
  | io => "Io"
  | emptyStream _ => "EmptyStream"
  | optimizerSlotsUnsupported _ => "OptimizerSlotsUnsupported"
  | tensor _ => "Tensor"

variable [Decimal.ToBinary α]

def message : Error α → String
  | config e => s!"configuration error: {e.message}"
  | shape e => s!"shape error: {e.message}"
  | schedule e => s!"schedule error: {e.message}"
  | params e => s!"parameter copy error: {e.message}"
  | checkpoint e => s!"checkpoint error: {e.message}"
  | io => "IO error"
  | emptyStream trainer => s!"input stream of {trainer} trainer is empty"
  | optimizerSlotsUnsupported trainer => s!"{trainer} trainer does not expose optimizer slots"
  | tensor text => s!"tensor data error: {text}"

/-- The message of the cause that the error wraps, if it wraps one with a message. -/
def source : Error α → Option String
  | config e => some e.message
  | shape e => some e.message
  | schedule e => some e.message
  | params e => some e.message
  | checkpoint e => some e.message
  | _ => none

end Error

/-- A computation that may abort or fail with any cause. -/
abbrev Run (α β : Type) := Attempt (Error α) β

namespace Run

variable {α β : Type}

def ofParams (x : Except ParamsError β) : Run α β := x.mapError fun e => .error (.params e)

def ofCheckpoint (x : Except CheckpointError β) : Run α β :=
  x.mapError fun e => .error (.checkpoint e)

def fail (e : Error α) : Run α β := .error (.error e)

end Run

section Lift

variable {α : Type}

instance : MonadLift (Attempt (ConfigError α)) (Attempt (Error α)) where
  monadLift x := x.widen .config

instance : MonadLift (Attempt ShapeError) (Attempt (Error α)) where
  monadLift x := x.widen .shape

instance : MonadLift (Attempt ScheduleError) (Attempt (Error α)) where
  monadLift x := x.widen .schedule

instance : MonadLift (Attempt ParamsError) (Attempt (Error α)) where
  monadLift x := x.widen .params

/-- A plain failure, with no abort possible, as an attempt. -/
instance {ε : Type} : MonadLift (Except ε) (Attempt ε) where
  monadLift x := x.mapError .error

end Lift

end ActorCritic
