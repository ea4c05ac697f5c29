import ActorCritic.Checkpoint
import ActorCritic.Error
import ActorCritic.Stream

/-!
Actions that change a state, and what trainers act on besides themselves: the supply of their
inputs, the files of the run, and a journal. A failed action keeps the changes that it made
before it failed.
-/

namespace ActorCritic

def Action (α σ β : Type) : Type := σ → Run α β × σ

namespace Action

variable {α σ τ β γ : Type}

def ofRun (r : Run α β) : Action α σ β := fun s => (r, s)

def bind (a : Action α σ β) (f : β → Action α σ γ) : Action α σ γ := fun s =>
  match a s with
  | (.ok x, s) => f x s
  | (.error e, s) => (.error e, s)

instance : Monad (Action α σ) where
  pure x := ofRun (.ok x)
  bind := bind

instance : MonadLift (Except (Failure (Error α))) (Action α σ) where
  monadLift := ofRun

def read : Action α σ σ := fun s => (.ok s, s)

def update (f : σ → σ) : Action α σ Unit := fun s => (.ok (), f s)

/-- Acts on a part of the state. -/
def within (get : σ → τ) (set : σ → τ → σ) (a : Action α τ β) : Action α σ β := fun s =>
  let (r, t) := a (get s)
  (r, set s t)

/-- Repeats an action until it fails. -/
def repeated (a : Action α σ Unit) : Nat → Action α σ Unit
  | 0 => pure ()
  | n + 1 => do
      a
      repeated a n

end Action

inductive TrainerCall where
  | setup (outputDir : Option Path)
  | setWeights
  | setState
  | setSlots
  | trainEpoch (steps evalSteps : Nat)
  | close
deriving DecidableEq, Repr

def TrainerCall.text : TrainerCall → String
  | setup _ => "setup"
  | setWeights => "set_weights"
  | setState => "set_state"
  | setSlots => "set_slots"
  | trainEpoch steps evalSteps => s!"train_epoch({steps}, {evalSteps})"
  | close => "close"

structure Event where
  trainer : String
  call : TrainerCall
deriving DecidableEq, Repr

def Event.isSetup (e : Event) : Bool :=
  match e.call with
  | .setup _ => true
  | _ => false

def Event.text (e : Event) : String := e.trainer ++ "." ++ e.call.text

/-- What trainers act on; `clock` is the time in seconds that logged rows are stamped with. -/
structure World (α σ : Type) where
  supply : σ
  files : Files α
  journal : List Event
  clock : Float32

def World.drained {α σ : Type} (w : World α σ) : World α σ := { w with journal := [] }

/-- A trainer's input: batches in streams that are started one after another. A pull sees the
supply as it is at that moment. -/
structure BatchSource (α σ κ β : Type) where
  start : σ → Except Abort κ × σ
  pull : σ → κ → Option (Run α β) × κ

namespace BatchSource

variable {α σ κ β : Type}

/-- Streams of the given lists in turn, again from the first after the last. The supply is the
number of streams started. -/
def ofLists (lists : List (List (Run α β))) : BatchSource α Nat (Stream (Run α β)) β where
  start started := (.ok (Stream.ofList (lists.getD (started % lists.length) [])), started + 1)
  pull _ stream := stream.next

/-- The first `n` items of a stream, followed by `none` where it ends before that. An item that
aborts ends the reading. -/
def take (source : BatchSource α σ κ β) (supply : σ) :
    (n : Nat) → κ → Except Abort (List (Option (Run α β)))
  | 0, _ => .ok []
  | n + 1, stream =>
      match source.pull supply stream with
      | (none, _) => .ok [none]
      | (some (.error (.abort a)), _) => .error a
      | (some item, stream) => do return some item :: (← take source supply n stream)

/-- The first `n` items of a fresh stream. -/
def takeFresh (source : BatchSource α σ κ β) (n : Nat) (supply : σ) :
    Except Abort (List (Option (Run α β))) × σ :=
  match source.start supply with
  | (.error a, supply) => (.error a, supply)
  | (.ok stream, supply) => (source.take supply n stream, supply)

end BatchSource

end ActorCritic
