import ActorCritic.Metrics.Mean
import ActorCritic.Text.Lines

/-!
Reports of evaluation rounds and how they are logged: as a line of the log, and as a row of a
table of comma-separated values whose metric columns are those of its first report.
-/

namespace ActorCritic

/-- The step is that after the round, and the learning rate that of its last training step. -/
structure Report where
  trainer : String
  step : Nat
  learningRate : Float
  trainLoss : Float32
  metrics : Metrics Float32

namespace Report

def places (count : Nat) {α : Type} [Decimal.ToBinary α] (x : α) : String :=
  Decimal.fixed .plain count (Decimal.toBinary x)

def line (r : Report) : LogLine :=
  let metrics := r.metrics.map fun (name, x) => name ++ "=" ++ places 6 x
  .info <| s!"[{r.trainer}] step {r.step} | lr " ++
    Decimal.scientific .plain 4 (Decimal.toBinary r.learningRate) ++
    s!" | train_loss {places 6 r.trainLoss} | " ++ " ".intercalate metrics

end Report

/-- The text of the table so far and its metric columns, fixed by the first row. -/
structure CsvLog where
  columns : Option (List String)
  text : String

namespace CsvLog

def empty : CsvLog := ⟨none, ""⟩

/-- The headers in front of those of the metrics. -/
def leadingNames : List String := ["trainer", "step", "learning_rate", "train_loss"]

def leadingCells (r : Report) : List String :=
  [r.trainer, toString r.step, Report.places 8 r.learningRate, Report.places 6 r.trainLoss]

/-- A cell is left empty where the report lacks the metric of its column. -/
def metricCell (r : Report) (column : String) : String :=
  (r.metrics.get? column).elim "" (Report.places 6)

def header (columns : List String) : String :=
  Text.ofCells (leadingNames ++ columns ++ ["elapsed_secs"])

def row (columns : List String) (r : Report) (elapsed : Float32) : String :=
  Text.ofCells (leadingCells r ++ columns.map (metricCell r) ++ [Report.places 2 elapsed])

/-- Adds a row, and before the first one the header. -/
def log (t : CsvLog) (r : Report) (elapsed : Float32) : CsvLog :=
  match t.columns with
  | some columns => { t with text := t.text ++ row columns r elapsed ++ "\n" }
  | none =>
      let columns := r.metrics.names
      ⟨some columns, t.text ++ header columns ++ "\n" ++ row columns r elapsed ++ "\n"⟩

end CsvLog
end ActorCritic
