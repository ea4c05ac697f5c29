import ActorCritic.Count
import ActorCritic.Decimal.Shortest
import ActorCritic.Metrics

/-!
Running means of named numbers. Sums are kept in double precision, and numbers that are not
finite are left out with a warning.
-/

namespace ActorCritic

inductive LogLine where
  | warn (text : String)
  | info (text : String)
deriving DecidableEq, Repr

def LogLine.text : LogLine → String
  | warn s => "WARN " ++ s
  | info s => "INFO " ++ s

/-- The sums and the numbers of the values, by name. -/
structure MetricMeans where
  sums : Metrics Float
  counts : Metrics Nat

namespace MetricMeans

def empty : MetricMeans := ⟨[], []⟩

/-- Adds a value; one that is not finite is answered with a warning. -/
def record (m : MetricMeans) (name : String) (x : Float32) :
    Except Abort (MetricMeans × Option LogLine) := do
  if x.isFinite then
    let count ← Count.add ((m.counts.get? name).getD 0) 1
    return (⟨m.sums.insert name ((m.sums.get? name).getD 0 + x.toFloat),
      m.counts.insert name count⟩, none)
  else
    return (m, some (.warn s!"Skipping non-finite value {Decimal.text x} for metric {name}"))

def recordAll (m : MetricMeans) : Metrics Float32 → Except Abort (MetricMeans × List LogLine)
  | [] => .ok (m, [])
  | (name, x) :: rest => do
      let (m, line) ← m.record name x
      let (m, lines) ← m.recordAll rest
      return (m, line.toList ++ lines)

def quotient (total : Float × Nat) : Float32 := (total.1 / total.2.toUInt64.toFloat).toFloat32

def mean? (m : MetricMeans) (name : String) : Option Float32 := do
  let count ← m.counts.get? name
  let sum ← m.sums.get? name
  return quotient (sum, count)

/-- A sum without a number would be taken as that of one value. -/
def means (m : MetricMeans) : Metrics Float32 :=
  m.sums.map fun (name, sum) => (name, quotient (sum, max ((m.counts.get? name).getD 1) 1))

def isEmpty (m : MetricMeans) : Bool := m.sums.isEmpty

def reset (_ : MetricMeans) : MetricMeans := empty

end MetricMeans
end ActorCritic
