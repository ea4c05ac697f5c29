import ActorCritic.Text.Listing

/-!
Causes of failure where snapshots of parameters do not fit each other or a network.
-/

namespace ActorCritic

inductive ParamsError where
  | layerRange (first last layerCount : Nat)
  | layerMismatch (layer : Nat) (source target : List (List Nat))
  | layout (expected found : Nat)
  | paramShape (index : Nat) (expected actual : List Nat)
deriving DecidableEq, Repr

namespace ParamsError

def kind : ParamsError → String
  | layerRange .. => "Params.LayerRange"
  | layerMismatch .. => "Params.LayerMismatch"
  | layout .. => "Params.Layout"
  | paramShape .. => "Params.ParamShape"

def message : ParamsError → String
  | layerRange first last layerCount =>
      s!"layer range {first}..{last} out of bounds for {layerCount} layers"
  | layerMismatch layer source target =>
      s!"layer {layer} shapes differ: {Text.countLists source} vs {Text.countLists target}"
  | layout expected found =>
      s!"layer layout covers {expected} parameters but the module has {found}"
  | paramShape index expected actual =>
      s!"parameter {index} has shape {Text.counts expected}, " ++
        s!"snapshot has {Text.counts actual}"

end ParamsError

end ActorCritic
