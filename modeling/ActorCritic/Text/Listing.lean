/-!
Lists written in brackets with a comma and a blank between the items, and text in quotes as
messages show it.
-/

namespace ActorCritic
namespace Text

def listing {α : Type} (item : α → String) (xs : List α) : String :=
  "[" ++ ", ".intercalate (xs.map item) ++ "]"

def counts (xs : List Nat) : String := listing toString xs

def countLists (xs : List (List Nat)) : String := listing counts xs

def pair (p : Nat × Nat) : String := counts [p.1, p.2]

end Text
end ActorCritic
