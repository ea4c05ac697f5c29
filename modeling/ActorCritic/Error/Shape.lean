import ActorCritic.Text.Listing

/-!
Causes of failure where the extents of trajectories, batches and matrices do not fit together.
-/

namespace ActorCritic

/-- The fields whose extents are compared with those of the rewards or of the advantages. -/
inductive BatchField where
  | observations
  | actions
  | returns
  | logProbs
  | oldLogProbs
  | mask
deriving DecidableEq, Repr

def BatchField.name : BatchField → String
  | observations => "observations"
  | actions => "actions"
  | returns => "returns"
  | logProbs => "log_probs"
  | oldLogProbs => "old_log_probs"
  | mask => "mask"

inductive ShapeError where
  | trajectory (field : BatchField) (expected actual : Nat × Nat)
  | valueChannel (batch time channels : Nat)
  | policyBatchSize (expected actual : Nat)
  | advantages (trajectory advantages : Nat × Nat)
  | policyInput (field : BatchField) (expected actual : Nat × Nat)
  | matrixData (rows cols length : Nat)
deriving DecidableEq, Repr

namespace ShapeError

def kind : ShapeError → String
  | trajectory .. => "Shape.Trajectory"
  | valueChannel .. => "Shape.ValueChannel"
  | policyBatchSize .. => "Shape.PolicyBatchSize"
  | advantages .. => "Shape.Advantages"
  | policyInput .. => "Shape.PolicyInput"
  | matrixData .. => "Shape.MatrixData"

def message : ShapeError → String
  | trajectory field expected actual =>
      s!"trajectory field {field.name} has [batch, time] {Text.pair actual}, " ++
        s!"expected {Text.pair expected}"
  | valueChannel batch time channels =>
      "values are expected to have shape [batch_size, length, 1], got " ++
        Text.counts [batch, time, channels]
  | policyBatchSize expected actual =>
      s!"values first dimension should = policy batch size, {actual} != {expected}"
  | advantages outer inner =>
      s!"advantages {Text.pair inner} do not fit trajectory {Text.pair outer}: " ++
        "same batch and no longer time axis required"
  | policyInput field expected actual =>
      s!"first 2 dimensions of {field.name} should be the same as in advantages, " ++
        s!"{Text.pair actual} != {Text.pair expected}"
  | matrixData rows cols length =>
      s!"matrix {Text.counts [rows, cols]} cannot hold {length} elements"

end ShapeError

end ActorCritic
