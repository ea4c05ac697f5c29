import ActorCritic.Json.Value

/-!
Parts of JSON values. A part that is not there, or is of another kind, reads as an empty one.
-/

namespace ActorCritic
namespace Json

def ofNat (n : Nat) : Json := number (.ofInt n)

def ofCounts (ns : List Nat) : Json := array (ns.map ofNat)

def get? (j : Json) (name : String) : Option Json :=
  match j with
  | object members => members.lookup name
  | _ => none

def get (j : Json) (name : String) : Json := (j.get? name).getD null

def items : Json → List Json
  | array xs => xs
  | _ => []

/-- The item at a position, `null` past the end. -/
def item (j : Json) (i : Nat) : Json := j.items.getD i null

def members : Json → List (String × Json)
  | object ms => ms
  | _ => []

def text : Json → String
  | string s => s
  | _ => ""

def count : Json → Nat
  | number n => (n.toInt?.getD 0).toNat
  | _ => 0

def flag : Json → Bool
  | bool b => b
  | _ => false

/-- The nearest 64-bit float of a number, or one of the floats that are written as text. -/
def float : Json → Float
  | number n => n.toFloat
  | string "nan" => 0 / 0
  | string "inf" => 1 / 0
  | string "-inf" => -1 / 0
  | _ => 0

end Json
end ActorCritic
