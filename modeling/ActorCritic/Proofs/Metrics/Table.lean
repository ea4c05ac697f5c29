import ActorCritic.Metrics.Logger
import ActorCritic.Proofs.Decimal.Fixed
import ActorCritic.Proofs.FileTree
import ActorCritic.Proofs.Text.Bytes
import ActorCritic.Proofs.Text.Lines
import Mathlib.Data.List.Induction

/-!
The table that a logger writes. Its columns are fixed by the first report, and what is written out
at any time is the beginning of the text that all reports so far make; after a flush it is the whole
text. The text is taken apart into one line for each report, and every line into as many cells as
the header has, so that each value stands under its name.
-/

namespace ActorCritic

/-- The names in a report can stand in cells, and its metrics are in the order of their names. -/
structure Report.Tabular (r : Report) : Prop where
  trainer : Text.IsCell r.trainer
  names : ∀ name ∈ r.metrics.names, Text.IsCell name
  ordered : r.metrics.Ordered

instance (r : Report) : Decidable r.Tabular :=
  decidable_of_iff (Text.IsCell r.trainer ∧ (∀ name ∈ r.metrics.names, Text.IsCell name) ∧
      r.metrics.names.Pairwise (· < ·))
    ⟨fun h => ⟨h.1, h.2.1, h.2.2⟩, fun h => ⟨h.trainer, h.names, h.ordered⟩⟩

namespace Text

theorem isCell_of_isWord {s : String} (h : Decimal.IsWord s) : IsCell s :=
  ⟨fun hc => absurd (h.plain ',' hc) (by decide), fun hc => absurd (h.plain '\n' hc) (by decide)⟩

theorem isLine_of_isWord {s : String} (h : Decimal.IsWord s) : IsLine s :=
  ⟨(isCell_of_isWord h).noBreak, fun hlast =>
    absurd (h.plain '\r' (List.mem_of_getLast? hlast)) (by decide)⟩

end Text

namespace Report

variable {count : Nat} {α : Type} [Decimal.ToBinary α]

theorem isWord_places (hcount : 0 < count) (x : α) : Decimal.IsWord (places count x) :=
  (Decimal.shows_fixed hcount (Decimal.toBinary x)).isWord

end Report

namespace CsvLog

theorem isCell_leadingNames : ∀ name ∈ leadingNames, Text.IsCell name := by decide

theorem isCell_leadingCells {r : Report} (h : r.Tabular) :
    ∀ c ∈ leadingCells r, Text.IsCell c := by
  have hstep := Decimal.isWord_count r.step
  have hrate : Decimal.IsWord (Report.places 8 r.learningRate) := Report.isWord_places (by decide) _
  have hloss : Decimal.IsWord (Report.places 6 r.trainLoss) := Report.isWord_places (by decide) _
  simp only [leadingCells, List.forall_mem_cons]
  exact ⟨h.trainer, Text.isCell_of_isWord hstep, Text.isCell_of_isWord hrate,
    Text.isCell_of_isWord hloss, nofun⟩

theorem isCell_metricCell (r : Report) (column : String) : Text.IsCell (metricCell r column) := by
  unfold metricCell
  cases r.metrics.get? column with
  | none => exact (by decide : Text.IsCell "")
  | some x => exact Text.isCell_of_isWord (Report.isWord_places (by decide) x)

/-- Only a metric that is not there leaves its cell empty. -/
theorem metricCell_eq_empty {r : Report} {column : String} :
    metricCell r column = "" ↔ r.metrics.get? column = none := by
  unfold metricCell
  cases r.metrics.get? column with
  | none => exact iff_of_true rfl rfl
  | some x => exact iff_of_false (Report.isWord_places (by decide) x).ne_empty nofun

/-- A line that starts with some cells and ends with one more. -/
theorem cells_and_isLine {cs : List String} {last : String} (hcs : ∀ c ∈ cs, Text.IsCell c)
    (hlast : Text.IsCell last) (hline : Text.IsLine last) (hne : last ≠ "") :
    Text.cells (Text.ofCells (cs ++ [last])) = cs ++ [last] ∧
      Text.IsLine (Text.ofCells (cs ++ [last])) := by
  refine ⟨Text.cells_ofCells (by simp) fun c hc => ?_,
    Text.isLine_ofCells (fun c hc => (hcs c hc).noBreak) hline hne⟩
  obtain hc | hc := List.mem_append.1 hc
  · exact hcs c hc
  · exact List.mem_singleton.1 hc ▸ hlast

theorem cells_header {columns : List String} (h : ∀ name ∈ columns, Text.IsCell name) :
    Text.cells (header columns) = leadingNames ++ columns ++ ["elapsed_secs"] ∧
      Text.IsLine (header columns) := by
  refine cells_and_isLine ?_ (by decide) ⟨by decide, by decide⟩ (by decide)
  exact List.forall_mem_append.2 ⟨isCell_leadingNames, h⟩

theorem cells_row (columns : List String) {r : Report} (h : r.Tabular) (elapsed : Float32) :
    Text.cells (row columns r elapsed) =
        leadingCells r ++ columns.map (metricCell r) ++ [Report.places 2 elapsed] ∧
      Text.IsLine (row columns r elapsed) := by
  have hlast : Decimal.IsWord (Report.places 2 elapsed) := Report.isWord_places (by decide) elapsed
  refine cells_and_isLine ?_ (Text.isCell_of_isWord hlast) (Text.isLine_of_isWord hlast)
    hlast.ne_empty
  refine List.forall_mem_append.2 ⟨isCell_leadingCells h, fun c hc => ?_⟩
  obtain ⟨column, -, rfl⟩ := List.mem_map.1 hc
  exact isCell_metricCell r column

/-- Adds reports, each with the time that had gone by. -/
def logAll (t : CsvLog) (entries : List (Report × Float32)) : CsvLog :=
  entries.foldl (fun t entry => t.log entry.1 entry.2) t

/-- The lines of the table of some reports. -/
def linesOf : List (Report × Float32) → List String
  | [] => []
  | first :: rest =>
      header first.1.metrics.names ::
        (first :: rest).map fun entry => row first.1.metrics.names entry.1 entry.2

theorem logAll_of_columns (columns : List String) (text : String)
    (entries : List (Report × Float32)) :
    logAll ⟨some columns, text⟩ entries =
      ⟨some columns, text ++ String.join
        ((entries.map fun entry => row columns entry.1 entry.2).map (· ++ "\n"))⟩ := by
  induction entries generalizing text with
  | nil => simp [logAll]
  | cons entry entries ih =>
      rw [logAll, List.foldl_cons, log]
      refine (ih _).trans ?_
      simp [String.append_assoc]

theorem text_logAll (entries : List (Report × Float32)) :
    (empty.logAll entries).text = String.join ((linesOf entries).map (· ++ "\n")) := by
  cases entries with
  | nil => rfl
  | cons first rest =>
      have hrest := logAll_of_columns first.1.metrics.names
        ("" ++ header first.1.metrics.names ++ "\n" ++
          row first.1.metrics.names first.1 first.2 ++ "\n") rest
      refine (congrArg CsvLog.text hrest).trans ?_
      simp [linesOf, String.append_assoc]

theorem logAll_concat (t : CsvLog) (entries : List (Report × Float32)) (r : Report)
    (elapsed : Float32) :
    t.logAll (entries ++ [(r, elapsed)]) = (t.logAll entries).log r elapsed := by
  rw [logAll, List.foldl_append]
  rfl

theorem isLine_of_mem_linesOf {entries : List (Report × Float32)}
    (h : ∀ entry ∈ entries, entry.1.Tabular) : ∀ line ∈ linesOf entries, Text.IsLine line := by
  match entries, h with
  | [], _ => exact nofun
  | first :: rest, h =>
      refine List.forall_mem_cons.2 ⟨(cells_header (h first List.mem_cons_self).names).2, ?_⟩
      intro line hline
      obtain ⟨entry, hentry, rfl⟩ := List.mem_map.1 hline
      exact (cells_row _ (h entry hentry) entry.2).2

theorem cells_linesOf {first : Report × Float32} {rest : List (Report × Float32)}
    (h : ∀ entry ∈ first :: rest, entry.1.Tabular) :
    (linesOf (first :: rest)).map Text.cells =
      (leadingNames ++ first.1.metrics.names ++ ["elapsed_secs"]) ::
        (first :: rest).map fun entry => leadingCells entry.1 ++
          first.1.metrics.names.map (metricCell entry.1) ++ [Report.places 2 entry.2] := by
  rw [linesOf, List.map_cons, (cells_header (h first List.mem_cons_self).names).1, List.map_map]
  refine congrArg (List.cons _) (List.map_congr_left fun entry hentry => ?_)
  exact (cells_row _ (h entry hentry) entry.2).1

theorem exists_text_log (t : CsvLog) (r : Report) (elapsed : Float32) :
    ∃ added, (t.log r elapsed).text = t.text ++ added := by
  unfold log
  split
  · exact ⟨_, String.append_assoc⟩
  · exact ⟨header r.metrics.names ++ "\n" ++ row r.metrics.names r elapsed ++ "\n", by
      simp [String.append_assoc]⟩

end CsvLog

/-- What is asked of a logger. -/
inductive TableCall where
  | log (report : Report) (elapsed : Float32)
  | flush

namespace Logger

variable {α : Type}

theorem openCsv_eq_ok {path : Path} {files : Files α} {opened : Logger × Files α} :
    openCsv path files = .ok opened ↔
      ∃ id tree, files.write? path (.ofText "") = some (id, tree) ∧
        opened = (.csv id 0 .empty, tree) := by
  unfold openCsv
  cases hwrite : files.write? path (.ofText "") with
  | none =>
      constructor
      · rintro ⟨⟩
      · rintro ⟨id, tree, h, -⟩
        cases h
  | some table =>
      constructor
      · rintro ⟨⟩
        exact ⟨_, _, rfl, rfl⟩
      · rintro ⟨id, tree, h, rfl⟩
        cases h
        rfl

def step (s : Logger × Files α) : TableCall → Logger × Files α
  | .log report elapsed => (s.1.log report elapsed, s.2)
  | .flush => s.1.flush s.2

def after (opened : Logger × Files α) (calls : List TableCall) : Logger × Files α :=
  calls.foldl step opened

/-- The logged reports in their order, each with the time that had gone by. -/
def logged (calls : List TableCall) : List (Report × Float32) :=
  calls.filterMap fun call =>
    match call with
    | .log report elapsed => some (report, elapsed)
    | .flush => none

theorem logged_concat_log (calls : List TableCall) (r : Report) (elapsed : Float32) :
    logged (calls ++ [.log r elapsed]) = logged calls ++ [(r, elapsed)] :=
  List.filterMap_append

theorem logged_concat_flush (calls : List TableCall) :
    logged (calls ++ [.flush]) = logged calls := by
  rw [logged, List.filterMap_append]
  exact List.append_nil _

/-- The path leads to a file that holds the beginning of a table's text. The logger holds the whole
table, and knows how much of it is written. -/
structure Writes (path : Path) (table : CsvLog) (written : String) (s : Logger × Files α) :
    Prop where
  beginning : ∃ held, table.text = written ++ held
  there : ∃ id l, s.1 = .csv id written.toUTF8.toList.length table ∧ s.2.follow path = .ok l ∧
    s.2.find? l = some (.file id (.ofText written))

theorem writes_open {path : Path} {files : Files α} {opened : Logger × Files α}
    (h : openCsv path files = .ok opened) : Writes path .empty "" opened := by
  obtain ⟨id, tree, hwrite, rfl⟩ := openCsv_eq_ok.1 h
  obtain ⟨l, hl, hfile⟩ := FileTree.follow_of_write? hwrite
  refine ⟨⟨"", rfl⟩, id, l, ?_, hl, hfile⟩
  simp [Text.toList_bytes]

namespace Writes

variable {path : Path} {table : CsvLog} {written : String} {s : Logger × Files α}

theorem log (h : Writes path table written s) (r : Report) (elapsed : Float32) :
    Writes path (table.log r elapsed) written (step s (.log r elapsed)) := by
  obtain ⟨⟨held, htext⟩, id, l, hlogger, hl, hfile⟩ := h
  obtain ⟨added, hadded⟩ := table.exists_text_log r elapsed
  refine ⟨⟨held ++ added, by rw [hadded, htext, String.append_assoc]⟩, id, l, ?_, hl, hfile⟩
  rw [step, hlogger, Logger.log]

theorem flush (h : Writes path table written s) :
    Writes path table table.text (step s .flush) := by
  obtain ⟨⟨held, htext⟩, id, l, hlogger, hl, hfile⟩ := h
  have hstep : step s .flush = (.csv id table.text.toUTF8.toList.length table,
      s.2.revise id (Content.writeAt written.toUTF8.toList.length
        (table.text.toUTF8.toList.drop written.toUTF8.toList.length))) := by
    rw [step, hlogger, Logger.flush]
  refine ⟨⟨"", by rw [String.append_empty]⟩, id, l, ?_⟩
  rw [hstep]
  refine ⟨rfl, (FileTree.follow_revise _ _ _ path).trans hl, ?_⟩
  rw [FileTree.find?_revise, hfile, Option.map_some]
  dsimp only
  rw [if_pos rfl, htext, Content.writeAt_rest]

theorem tableText?_eq (h : Writes path table written s) : tableText? path s.2 = some written := by
  obtain ⟨-, id, l, -, hl, hfile⟩ := h
  have hcontent : s.2.content? path = some (.ofText written) := by
    rw [FileTree.content?, hl]
    dsimp only
    rw [hfile]
  rw [tableText?, hcontent, Option.bind_some, Content.text?_ofText]

end Writes

theorem after_concat (opened : Logger × Files α) (calls : List TableCall) (call : TableCall) :
    after opened (calls ++ [call]) = step (after opened calls) call := by
  rw [after, List.foldl_append]
  rfl

/-- Throughout any calls the file holds the beginning of the table of what is logged so far. -/
theorem exists_writes_after {path : Path} {files : Files α} {opened : Logger × Files α}
    (h : openCsv path files = .ok opened) (calls : List TableCall) :
    ∃ written, Writes path (CsvLog.empty.logAll (logged calls)) written (after opened calls) := by
  induction calls using List.reverseRecOn with
  | nil => exact ⟨"", writes_open h⟩
  | append_singleton calls call ih =>
      obtain ⟨written, hwrites⟩ := ih
      rw [after_concat]
      cases call with
      | log r elapsed =>
          rw [logged_concat_log, CsvLog.logAll_concat]
          exact ⟨written, hwrites.log r elapsed⟩
      | flush =>
          rw [logged_concat_flush]
          exact ⟨_, hwrites.flush⟩

theorem getElem?_middle {as bs cs : List String} {k : Nat} {b : String} (h : bs[k]? = some b) :
    (as ++ bs ++ cs)[k + as.length]? = some b := by
  obtain ⟨hk, -⟩ := List.getElem?_eq_some_iff.1 h
  rw [List.append_assoc, List.getElem?_append_right (Nat.le_add_left _ _), Nat.add_sub_cancel,
    List.getElem?_append_left hk, h]

/-- A table that is written to a file, whatever reports are logged and whenever the logger is
flushed before the end. Without a report the file is empty. Otherwise its lines, each ended, are a
header and one line for each report in order, with as many cells each, and its metric columns are
the metrics of the first report in the order of their names. Trainer, step, learning rate and
training loss stand under their headers, and so does the report's own value of each metric column,
with six places; the cell is empty exactly if the report lacks the metric. -/
theorem written_table_is_rectangular {path : Path} {files : Files α} {opened : Logger × Files α}
    (hopen : openCsv path files = .ok opened) (calls : List TableCall)
    (htabular : ∀ entry ∈ logged calls, entry.1.Tabular) :
    ∃ text, tableText? path (after opened (calls ++ [.flush])).2 = some text ∧
      (logged calls = [] → text = "") ∧
      ∀ first, (logged calls).head? = some first →
        let columns := first.1.metrics.names
        columns.Pairwise (· < ·) ∧
        text = String.join ((Text.lines text).map (· ++ "\n")) ∧
        (Text.lines text).map Text.cells =
          (["trainer", "step", "learning_rate", "train_loss"] ++ columns ++ ["elapsed_secs"]) ::
            (logged calls).map (fun (r, elapsed) =>
              [r.trainer, toString r.step, Report.places 8 r.learningRate,
                Report.places 6 r.trainLoss] ++
              columns.map (CsvLog.metricCell r) ++ [Report.places 2 elapsed]) ∧
        (∀ line ∈ Text.lines text, (Text.cells line).length = columns.length + 5) ∧
        ∀ i k r elapsed column, (logged calls)[i]? = some (r, elapsed) →
          columns[k]? = some column →
          ∃ header line cell, (Text.lines text)[0]? = some header ∧
            (Text.lines text)[i + 1]? = some line ∧ (Text.cells header)[k + 4]? = some column ∧
            (Text.cells line)[k + 4]? = some cell ∧
            (cell = "" ↔ r.metrics.get? column = none) ∧
            ∀ x, r.metrics.get? column = some x →
              cell = Report.places 6 x ∧ Decimal.Shows 6 (Decimal.toBinary x) cell := by
  obtain ⟨written, hwrites⟩ := exists_writes_after hopen calls
  have hflushed := hwrites.flush.tableText?_eq
  rw [← after_concat] at hflushed
  refine ⟨_, hflushed, fun hnone => by rw [hnone]; rfl, fun first hfirst => ?_⟩
  obtain ⟨rest, hentries⟩ := List.head?_eq_some_iff.1 hfirst
  rw [hentries] at htabular ⊢
  have hlines := Text.lines_join_ended (CsvLog.isLine_of_mem_linesOf htabular)
  have hcells := CsvLog.cells_linesOf htabular
  rw [CsvLog.text_logAll, hlines]
  dsimp only
  refine ⟨(htabular first List.mem_cons_self).ordered, rfl, hcells, ?_, ?_⟩
  · intro line hline
    have hmem := hcells ▸ List.mem_map_of_mem (f := Text.cells) hline
    obtain hheader | hrow := List.mem_cons.1 hmem
    · rw [hheader]
      simp [CsvLog.leadingNames]
    · obtain ⟨entry, -, hentry⟩ := List.mem_map.1 hrow
      rw [← hentry]
      simp [CsvLog.leadingCells]
  · intro i k r elapsed column hreport hcolumn
    have hr : r.Tabular := htabular _ (List.mem_of_getElem? hreport)
    refine ⟨_, CsvLog.row first.1.metrics.names r elapsed, CsvLog.metricCell r column, rfl, ?_, ?_,
      ?_, CsvLog.metricCell_eq_empty, ?_⟩
    · rw [CsvLog.linesOf, List.getElem?_cons_succ, List.getElem?_map, hreport, Option.map_some]
    · rw [(CsvLog.cells_header (htabular first List.mem_cons_self).names).1]
      exact getElem?_middle hcolumn
    · rw [(CsvLog.cells_row _ hr elapsed).1]
      exact getElem?_middle (by rw [List.getElem?_map, hcolumn, Option.map_some])
    · intro x hx
      rw [CsvLog.metricCell, hx, Option.elim_some]
      exact ⟨rfl, Decimal.shows_fixed (by decide) (Decimal.toBinary x)⟩

namespace Sample

/-- Opened in a place without files. -/
def opened : Logger × Files Float32 :=
  (.csv 0 0 .empty, ⟨[(["metrics.csv"], .file 0 (.ofText ""))], 1⟩)

def value : Report := ⟨"value", 10, 0.001, 0.5, [("accuracy", 0.25), ("loss", 0.5)]⟩

/-- It lacks the accuracy, and its entropy has no column. -/
def policy : Report := ⟨"policy", 20, 0.001, 0.75, [("entropy", 2), ("loss", 0.75)]⟩

def calls : List TableCall := [.flush, .log value 1, .flush, .log policy 2]

end Sample

theorem written_table_is_rectangular_missing :
    openCsv ⟨["metrics.csv"]⟩ .empty = .ok Sample.opened ∧
    (∀ entry ∈ logged Sample.calls, entry.1.Tabular) ∧
    ∃ text, tableText? ⟨["metrics.csv"]⟩ (after Sample.opened (Sample.calls ++ [.flush])).2 =
        some text ∧
      (Text.lines text).length = 3 ∧ (∀ line ∈ Text.lines text, (Text.cells line).length = 7) ∧
      ∃ header line, (Text.lines text)[0]? = some header ∧ (Text.lines text)[2]? = some line ∧
        (Text.cells header)[4]? = some "accuracy" ∧ (Text.cells line)[4]? = some "" := by
  have hopen : openCsv ⟨["metrics.csv"]⟩ .empty = .ok Sample.opened := rfl
  have htabular : ∀ entry ∈ logged Sample.calls, entry.1.Tabular := by decide
  obtain ⟨text, htext, -, hfirst⟩ := written_table_is_rectangular hopen Sample.calls htabular
  obtain ⟨-, -, hcells, hlength, hvalues⟩ := hfirst (Sample.value, 1) rfl
  obtain ⟨header, line, cell, hheader, hline, hname, hcell, hempty, -⟩ :=
    hvalues 1 0 Sample.policy 2 "accuracy" rfl rfl
  have hthree : (Text.lines text).length = 3 := by
    have h := congrArg List.length hcells
    rwa [List.length_map] at h
  rw [hempty.2 rfl] at hcell
  exact ⟨hopen, htabular, text, htext, hthree, hlength, header, line, hheader, hline, hname, hcell⟩

end Logger
end ActorCritic
