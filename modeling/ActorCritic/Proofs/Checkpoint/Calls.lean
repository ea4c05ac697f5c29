import ActorCritic.Proofs.Checkpoint.Retention
import ActorCritic.Proofs.Checkpoint.Spelling

/-!
Calls of a checkpointer, however they end. Nothing is asked of the names in the directory, and a
save may fail before it writes or while it removes. What a save leaves is told from how it ended;
whether the file that it wrote is still there when it ends well depends on how many larger steps
the checkpointer holds.
-/

namespace ActorCritic
namespace Checkpointer

open Checkpoint

variable {α ι ο : Type} {c c' : Checkpointer} {dir path : Path} {l : Location}
  {files files' : Files α} {steps : List Nat} {keep step : Nat} {params : List (Param α)}

/-- What stands after a call. A directory that cannot be opened leaves the old checkpointer. -/
def afterCall (s : Checkpointer × Files α) : Call α → Checkpointer × Files α
  | .reopen keep =>
      match openAt s.1.dir keep s.2 with
      | (.ok c, files) => (c, files)
      | (.error _, files) => (s.1, files)
  | .save params step => (s.1.save params step s.2).2

/-- What stands after calls, the earliest call first. -/
def afterCalls (calls : List (Call α)) (s : Checkpointer × Files α) : Checkpointer × Files α :=
  calls.foldl afterCall s

/-- The step is a count. -/
def Call.InRange : Call α → Prop
  | .reopen _ => True
  | .save _ step => step < Count.limit

theorem exists_scan_of_directoryAt (hdir : files.DirectoryAt dir l) :
    ∃ steps, scan files dir = .ok steps := by
  obtain ⟨names, hnames⟩ := hdir.exists_names?
  exact exists_scan hnames

theorem pairwise_of_scan (hscan : scan files dir = .ok steps) : steps.Pairwise (· < ·) := by
  obtain ⟨names, hnames, rfl⟩ := scan_eq_ok.1 hscan
  exact pairwise_foldr_insertStep _

theorem exists_directoryAt_of_scan (hscan : scan files dir = .ok steps) :
    ∃ l, files.DirectoryAt dir l := by
  obtain ⟨names, hnames, -⟩ := scan_eq_ok.1 hscan
  exact FileTree.exists_directoryAt hnames

theorem opened_of_scan (hdir : files.DirectoryAt c.dir l)
    (hscan : scan files c.dir = .ok c.steps) : c.Opened files l :=
  ⟨hdir, pairwise_of_scan hscan, fun _ hs => ((mem_of_scan hscan).1 hs).lt_limit⟩

/-- A directory that is open can be opened again, and then a scan gives the steps. -/
theorem Opened.openAt_eq (h : c.Opened files l) (keep : Nat) :
    ∃ steps, scan files c.dir = .ok steps ∧
      openAt c.dir keep files = (.ok ⟨c.dir, keep, steps⟩, files) := by
  obtain ⟨steps, hscan⟩ := exists_scan_of_directoryAt h.directory
  refine ⟨steps, hscan, ?_⟩
  simp only [openAt, h.directory.makeDirs, if_true, hscan]
  rfl

/-- What a call does to an opened checkpointer. -/
inductive CallEnds (c : Checkpointer) (l : Location) (files : Files α) :
    Call α → Checkpointer × Files α → Prop where
  | reopened {keep : Nat} {steps : List Nat} (found : scan files c.dir = .ok steps) :
      CallEnds c l files (.reopen keep) (⟨c.dir, keep, steps⟩, files)
  | saved {params : List (Param α)} {step : Nat} {result : Except CheckpointError Path}
      {s : Checkpointer × Files α} (lt_limit : step < Count.limit)
      (ends : SaveEnds c l params step files (result, s)) :
      CallEnds c l files (.save params step) s

theorem Opened.call_ends (h : c.Opened files l) {call : Call α} (hcall : call.InRange) :
    CallEnds c l files call (afterCall (c, files) call) := by
  cases call with
  | reopen keep =>
      obtain ⟨steps, hscan, hopen⟩ := h.openAt_eq keep
      simp only [afterCall, hopen]
      exact .reopened hscan
  | save params step =>
      have hends := h.save_ends hcall params
      dsimp only [afterCall]
      generalize c.save params step files = ended at hends ⊢
      obtain ⟨result, s⟩ := ended
      exact .saved hcall hends

theorem CallEnds.opened (h : c.Opened files l) {call : Call α}
    (hends : CallEnds c l files call (c', files')) : c'.dir = c.dir ∧ c'.Opened files' l := by
  cases hends with
  | reopened found => exact ⟨rfl, opened_of_scan h.directory found⟩
  | saved lt_limit ends => exact ends.opened h lt_limit

/-- What an opened checkpointer has and every call preserves is there after any calls. -/
theorem Opened.afterCalls_induction {P : Checkpointer → Files α → Prop}
    (hcall : ∀ c files call c' files', c.Opened files l → P c files →
      CallEnds c l files call (c', files') → P c' files')
    (h : c.Opened files l) (hstart : P c files) {calls : List (Call α)}
    (hcalls : ∀ call ∈ calls, call.InRange) (hruns : afterCalls calls (c, files) = (c', files')) :
    c'.dir = c.dir ∧ c'.Opened files' l ∧ P c' files' := by
  induction calls generalizing c files with
  | nil =>
      obtain ⟨rfl, rfl⟩ := Prod.mk.inj hruns
      exact ⟨rfl, h, hstart⟩
  | cons call calls ih =>
      have hends := h.call_ends (hcalls call List.mem_cons_self)
      obtain ⟨hdir, hopened⟩ := hends.opened h
      rw [← hdir]
      exact ih hopened (hcall _ _ _ _ _ h hstart hends)
        (fun later hlater => hcalls later (List.mem_cons_of_mem call hlater)) hruns

theorem exists_opened_of_openAt (hopen : openAt dir keep files = (.ok c, files')) :
    c.dir = dir ∧ scan files' dir = .ok c.steps ∧ ∃ l, c.Opened files' l := by
  obtain ⟨rfl, -, hscan⟩ := openAt_eq_ok hopen
  obtain ⟨l, hdir⟩ := exists_directoryAt_of_scan hscan
  exact ⟨rfl, hscan, l, opened_of_scan hdir hscan⟩

theorem hasEntry_pathFor_iff (hdir : files.DirectoryAt dir l) {s : Nat} :
    HasEntry files dir (pathFor dir s) ↔ files.find? (place l s) ≠ none := by
  obtain ⟨names, hnames⟩ := hdir.exists_names?
  rw [hasEntry_pathFor hnames, hdir.mem_names? hnames, place]

/-- The step that is saved stays unless as many larger ones are held as the limit allows. -/
theorem mem_removed_insertStep (hsorted : steps.Pairwise (· < ·)) :
    step ∈ removed keep (insertStep step steps) ↔
      ¬(keep = 0 ∨ {r | r ∈ steps ∧ step < r}.ncard < keep) := by
  have hinsert := pairwise_insertStep step hsorted
  have hlarger : {r | r ∈ insertStep step steps ∧ step < r} = {r | r ∈ steps ∧ step < r} := by
    ext r
    simp only [Set.mem_ofPred_eq, mem_insertStep]
    exact and_congr_left fun hlt => or_iff_right (Nat.ne_of_gt hlt)
  have hmem : step ∈ insertStep step steps := mem_insertStep.2 (.inl rfl)
  have hkept : step ∈ kept keep (insertStep step steps) ↔
      keep = 0 ∨ {r | r ∈ steps ∧ step < r}.ncard < keep := by
    rw [mem_kept hinsert, ← hlarger]
    exact and_iff_right hmem
  rw [← hkept, mem_kept_iff_not_mem_removed hinsert, not_and_not_right]
  exact ⟨fun hgone _ => hgone, fun hgone => hgone hmem⟩

/-- A save that ends well gives the path of its own step. The file that it wrote stands there, and
holds what was saved, exactly if there is no limit or fewer larger steps are held than the limit
allows; otherwise the save itself has removed it, and nothing can be read at the path. -/
theorem saved_file_stands_iff {c₁ : Checkpointer} {files₁ before after : Files α}
    (hopen : openAt dir keep files = (.ok c₁, files₁)) {calls : List (Call α)}
    (hcalls : ∀ call ∈ calls, call.InRange) (hruns : afterCalls calls (c₁, files₁) = (c, before))
    (hstep : step < Count.limit) (hsave : c.save params step before = (.ok path, c', after)) :
    path = pathFor dir step ∧
    (HasEntry after dir path ↔ c.keep = 0 ∨ {r | r ∈ c.steps ∧ step < r}.ncard < c.keep) ∧
    (HasEntry after dir path → ∀ template : Network α ι ο,
      template.params.length = params.length →
        load template path after = .ok { template with params := params }) ∧
    (¬HasEntry after dir path → ∀ template : Network α ι ο,
      load template path after = .error (.load path)) := by
  obtain ⟨rfl, -, l, hstart⟩ := exists_opened_of_openAt hopen
  obtain ⟨hdir, hopened, -⟩ := hstart.afterCalls_induction
    (P := fun _ _ => True) (fun _ _ _ _ _ _ _ _ => trivial) trivial hcalls hruns
  rw [← hdir]
  have hends := hopened.save_ends hstep params
  rw [hsave] at hends
  cases hends with
  | saved stored =>
      have hafter := hopened.directory.of_keepsDirectories stored.directories
      obtain ⟨id, hfind⟩ := stored.find?_place hstep (hopened.lt_limit_removed hstep) hstep
      have hgone : step ∈ removed c.keep (insertStep step c.steps) ↔
          ¬(c.keep = 0 ∨ {r | r ∈ c.steps ∧ step < r}.ncard < c.keep) :=
        mem_removed_insertStep hopened.sorted
      rw [if_pos rfl] at hfind
      rw [hasEntry_pathFor_iff hafter]
      by_cases hfew : c.keep = 0 ∨ {r | r ∈ c.steps ∧ step < r}.ncard < c.keep
      · rw [if_neg fun h => hgone.1 h hfew] at hfind
        have hfile : after.isFile l = false := stored.isFile_eq_false hopened.directory
        have hcontent : after.content? (pathFor c.dir step) = some (.record params) := by
          rw [pathFor, hafter.content?_child (isName_fileName hstep) hfile, ← place, hfind]
          rfl
        have hthere : after.find? (place l step) ≠ none := by
          rw [hfind]
          exact Option.some_ne_none _
        exact ⟨rfl, iff_of_true hthere hfew,
          fun _ template hlength => load_pathFor template hstep hcontent hlength,
          fun hgone => absurd hthere hgone⟩
      · rw [if_pos (hgone.2 hfew)] at hfind
        have hcontent : after.content? (pathFor c.dir step) = none :=
          hafter.content?_child_of_absent (isName_fileName hstep) hfind
        exact ⟨rfl, iff_of_false (not_not_intro hfind) hfew, fun hthere => absurd hfind hthere,
          fun _ template => load_of_absent hstep hcontent⟩

/-- Two checkpoints are kept, and steps 3 and 7 are held. Of two further saves, both of which end
well, that of step 5 leaves its file, and that of step 2 leaves none. -/
theorem saved_file_stands_iff_out_of_order :
    let c : Checkpointer := ⟨Sample.runs, 2, [3, 7]⟩
    let calls : List (Call Nat) := [.save (Sample.weights 3) 3]
    openAt Sample.runs 2 Sample.earlier = (.ok ⟨Sample.runs, 2, [7]⟩, Sample.earlier) ∧
    (∀ call ∈ calls, call.InRange) ∧
    afterCalls calls (⟨Sample.runs, 2, [7]⟩, Sample.earlier) = (c, Sample.later) ∧
    (5 < Count.limit ∧ ∃ c' after, c.save (Sample.weights 5) 5 Sample.later =
        (.ok (pathFor Sample.runs 5), c', after) ∧
      HasEntry after Sample.runs (pathFor Sample.runs 5) ∧
      ∀ template : Network Nat Unit Unit, template.params.length = 1 →
        load template (pathFor Sample.runs 5) after =
          .ok { template with params := Sample.weights 5 }) ∧
    (2 < Count.limit ∧ ∃ c' after, c.save (Sample.weights 2) 2 Sample.later =
        (.ok (pathFor Sample.runs 2), c', after) ∧
      ∀ template : Network Nat Unit Unit,
        load template (pathFor Sample.runs 2) after = .error (.load (pathFor Sample.runs 2))) := by
  intro c calls
  have hcalls : ∀ call ∈ calls, call.InRange := by
    intro call hcall
    rw [List.mem_singleton.1 hcall]
    exact (by decide : 3 < Count.limit)
  have hruns : afterCalls calls (⟨Sample.runs, 2, [7]⟩, Sample.earlier) = (c, Sample.later) := by
    simp only [calls, c, afterCalls, List.foldl_cons, List.foldl_nil, afterCall,
      Sample.save_earlier]
  have hsorted : [3, 7].Pairwise (· < ·) := by decide
  have hfive : c.save (Sample.weights 5) 5 Sample.later =
      (.ok (pathFor Sample.runs 5), ⟨Sample.runs, 2, [5, 7]⟩, ⟨Sample.earlier.nodes ++
        [(["runs", "model_00000005.bin"], .file 2 (.record (Sample.weights 5)))], 3⟩) := by
    have hname : Path.IsName (fileName 5) := isName_fileName (by decide)
    simp only [save, c, pathFor, Sample.directoryAt_later.place_child hname]
    rfl
  have htwo : c.save (Sample.weights 2) 2 Sample.later =
      (.ok (pathFor Sample.runs 2), c, ⟨Sample.later.nodes, 3⟩) := by
    have hname : Path.IsName (fileName 2) := isName_fileName (by decide)
    simp only [save, c, pathFor, Sample.directoryAt_later.place_child hname]
    rfl
  refine ⟨Sample.openAt_earlier, hcalls, hruns, ⟨by decide, ?_⟩, by decide, ?_⟩
  · obtain ⟨-, hstands, hloads, -⟩ := saved_file_stands_iff (ι := Unit) (ο := Unit)
      Sample.openAt_earlier hcalls hruns (by decide) hfive
    have hstays : 5 ∉ removed 2 (insertStep 5 [3, 7]) := by decide
    have hthere := hstands.2 (not_not.1 (mt (mem_removed_insertStep hsorted).2 hstays))
    exact ⟨_, _, hfive, hthere, hloads hthere⟩
  · obtain ⟨-, hstands, -, hfails⟩ := saved_file_stands_iff (ι := Unit) (ο := Unit)
      Sample.openAt_earlier hcalls hruns (by decide) htwo
    have hgone : 2 ∈ removed 2 (insertStep 2 [3, 7]) := by decide
    have habsent := mt hstands.1 ((mem_removed_insertStep hsorted).1 hgone)
    exact ⟨_, _, htwo, hfails habsent⟩

/-- A run that starts over where a longer one has left a checkpoint, and keeps one, is told a path
for what it saves, and finds nothing there. -/
theorem saved_file_is_gone :
    let c : Checkpointer := ⟨Sample.runs, 1, [7]⟩
    openAt Sample.runs 1 Sample.earlier = (.ok c, Sample.earlier) ∧
    ∃ c' after, c.save (Sample.weights 3) 3 Sample.earlier =
        (.ok (pathFor Sample.runs 3), c', after) ∧
      ¬HasEntry after Sample.runs (pathFor Sample.runs 3) ∧
      ∀ template : Network Nat Unit Unit,
        load template (pathFor Sample.runs 3) after = .error (.load (pathFor Sample.runs 3)) := by
  have hopen :
      openAt Sample.runs 1 Sample.earlier = (.ok ⟨Sample.runs, 1, [7]⟩, Sample.earlier) := by
    simp only [openAt, Sample.directoryAt_earlier.makeDirs]
    rfl
  have hname : Path.IsName (fileName 3) := isName_fileName (by decide)
  have hsave : save ⟨Sample.runs, 1, [7]⟩ (Sample.weights 3) 3 Sample.earlier =
      (.ok (pathFor Sample.runs 3), ⟨Sample.runs, 1, [7]⟩, ⟨Sample.earlier.nodes, 2⟩) := by
    simp only [save, pathFor, Sample.directoryAt_earlier.place_child hname]
    rfl
  have habsent : fileName 3 ∉ ["model_00000007.bin"] := by decide
  have hnames : FileTree.names? ⟨Sample.earlier.nodes, 2⟩ Sample.runs =
      some ["model_00000007.bin"] := rfl
  have hgone : FileTree.content? ⟨Sample.earlier.nodes, 2⟩ (pathFor Sample.runs 3) = none :=
    content?_of_not_mem hnames (by decide) habsent
  exact ⟨hopen, _, _, hsave, fun hentry => habsent ((hasEntry_pathFor hnames).1 hentry),
    fun template => load_of_absent (by decide) hgone⟩

end Checkpointer
end ActorCritic
