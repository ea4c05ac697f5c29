/-!
Streams as positions in sequences. A stream that has ended stays at its end.
-/

namespace ActorCritic

structure Stream (β : Type) where
  items : Nat → Option β
  position : Nat

namespace Stream

variable {β : Type}

def ofItems (items : Nat → Option β) : Stream β := ⟨items, 0⟩

def ofList (xs : List β) : Stream β := ofItems fun i => xs[i]?

/-- The next item and the stream behind it. -/
def next (s : Stream β) : Option β × Stream β :=
  match s.items s.position with
  | some x => (some x, { s with position := s.position + 1 })
  | none => (none, s)

end Stream
end ActorCritic
