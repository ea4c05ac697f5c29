import ActorCritic.Checkpoint
import ActorCritic.Error
import ActorCritic.Metrics.Report

/-!
Where reports go. A table is created as an empty file, and its rows are written to that file when
its logger is flushed, each at its place in the file whatever has become of the rest.
-/

namespace ActorCritic

inductive LoggerCall where
  | log (trainer : String) (step : Nat)
  | flush
deriving DecidableEq, Repr

def LoggerCall.text : LoggerCall → String
  | log trainer step => s!"log {trainer} {step}"
  | flush => "flush"

inductive Logger where
  | lines (written : List LogLine)
  /-- A table, the identity of its file, and the number of bytes that are written out. -/
  | csv (file flushed : Nat) (table : CsvLog)
  /-- Notes the calls only. -/
  | calls (noted : List LoggerCall)

namespace Logger

def written : Logger → List LogLine
  | lines written => written
  | _ => []

def noted : Logger → List LoggerCall
  | calls noted => noted
  | _ => []

/-- Creates the table's file; its directory has to be there. -/
def openCsv {α : Type} (path : Path) (files : Files α) : Run α (Logger × Files α) :=
  match files.write? path (.ofText "") with
  | none => Run.fail .io
  | some (file, files) => .ok (csv file 0 .empty, files)

def log (r : Report) (elapsed : Float32) : Logger → Logger
  | lines written => lines (written ++ [r.line])
  | csv file flushed table => csv file flushed (table.log r elapsed)
  | calls noted => calls (noted ++ [.log r.trainer r.step])

/-- Writes out what is held back. A file that is gone stays gone, and one that stands in its place
is another file. -/
def flush {α : Type} (logger : Logger) (files : Files α) : Logger × Files α :=
  match logger with
  | lines written => (lines written, files)
  | csv file flushed table =>
      let bytes := table.text.toUTF8.toList
      (csv file bytes.length table,
        files.revise file (Content.writeAt flushed (bytes.drop flushed)))
  | calls noted => (calls (noted ++ [.flush]), files)

/-- The text of a written table. -/
def tableText? {α : Type} (path : Path) (files : Files α) : Option String :=
  (files.content? path).bind Content.text?

def tableLines {α : Type} (path : Path) (files : Files α) : List String :=
  (tableText? path files).elim [] Text.lines

def flushAll {α : Type} : List Logger → Files α → List Logger × Files α
  | [], files => ([], files)
  | l :: ls, files =>
      let (l, files) := l.flush files
      let (ls, files) := flushAll ls files
      (l :: ls, files)

end Logger
end ActorCritic
