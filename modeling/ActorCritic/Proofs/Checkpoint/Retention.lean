import Mathlib.Data.Set.Card
import ActorCritic.Proofs.Checkpoint.Directory

/-!
Which checkpoints stay. However often a directory is opened, with whatever limits, and whatever is
saved in it in whatever order, the checkpoints on disk after a save are the largest of those before
and the one saved, as many as the limit allows. The checkpointer lists exactly these, and each
listed one holds what was last saved under its step. The files are assumed to be touched by nobody
else, and the calls to end well.
-/

namespace ActorCritic
namespace Checkpointer

open Checkpoint

variable {α ι ο : Type} {c c₁ c' : Checkpointer} {dir path : Path} {l : Location}
  {files files₁ files' : Files α} {steps : List Nat} {step keep s : Nat} {params : List (Param α)}

/-- The steps whose checkpoints stand in a directory. -/
def stepsOnDisk (files : Files α) (dir : Path) : Set Nat :=
  {s | s < Count.limit ∧ ∃ names, files.names? dir = some names ∧ fileName s ∈ names}

/-- The `keep` largest of some steps, or all of them if `keep` is zero. -/
def largest (keep : Nat) (steps : Set Nat) : Set Nat :=
  {s | s ∈ steps ∧ (keep = 0 ∨ {r | r ∈ steps ∧ s < r}.ncard < keep)}

theorem mem_kept (hsorted : steps.Pairwise (· < ·)) :
    s ∈ kept keep steps ↔ s ∈ largest keep {s | s ∈ steps} := by
  simp only [largest, Set.mem_ofPred_eq]
  have hsplit : removed keep steps ++ kept keep steps = steps := removed_append_kept _ _
  have hmem (r : Nat) : r ∈ steps ↔ r ∈ removed keep steps ∨ r ∈ kept keep steps := by
    rw [← List.mem_append, hsplit]
  have hcard : (kept keep steps).toFinset.card = (kept keep steps).length :=
    List.toFinset_card_of_nodup (hsorted.sublist (List.drop_sublist _ _) |>.imp Nat.ne_of_lt)
  rw [← hsplit, List.pairwise_append] at hsorted
  constructor
  · intro hs
    refine ⟨(hmem s).2 (.inr hs), or_iff_not_imp_left.2 fun hkeep => ?_⟩
    -- What is larger than a step that stays also stays.
    have hlarger : {r | r ∈ steps ∧ s < r} ⊆ ((kept keep steps).toFinset.erase s : Finset Nat) := by
      rintro r ⟨hr, hlt⟩
      have hstays : r ∈ kept keep steps := ((hmem r).1 hr).resolve_left fun hgone =>
        absurd (hsorted.2.2 r hgone s hs) (Nat.not_lt_of_gt hlt)
      simpa [hstays] using Nat.ne_of_gt hlt
    have hle := Set.ncard_le_ncard hlarger (Finset.finite_toSet _)
    rw [Set.ncard_coe_finset, Finset.card_erase_of_mem (List.mem_toFinset.2 hs), hcard] at hle
    have hpos : 0 < (kept keep steps).length := List.length_pos_of_mem hs
    have hfew := length_kept_le hkeep steps
    omega
  · rintro ⟨hs, hfew⟩
    refine ((hmem s).1 hs).resolve_left fun hgone => ?_
    have hlarger : ((kept keep steps).toFinset : Set Nat) ⊆ {r | r ∈ steps ∧ s < r} := by
      intro r hr
      have hstays : r ∈ kept keep steps := by simpa using hr
      exact ⟨(hmem r).2 (.inr hstays), hsorted.2.2 s hgone r hstays⟩
    have hfinite : {r | r ∈ steps ∧ s < r}.Finite :=
      steps.toFinset.finite_toSet.subset fun r hr => List.mem_toFinset.2 hr.1
    have hle := Set.ncard_le_ncard hlarger hfinite
    rw [Set.ncard_coe_finset, hcard] at hle
    have hmany := le_length_kept hgone
    omega

/-- A limit is never so low that the largest step goes. -/
theorem greatest_mem_kept (hsorted : steps.Pairwise (· < ·)) (hkeep : keep ≠ 0)
    (hs : IsGreatest {s | s ∈ steps} s) : s ∈ kept keep steps := by
  have hnone : {r | r ∈ steps ∧ s < r} = ∅ :=
    Set.eq_empty_of_forall_notMem fun r hr => Nat.not_lt.2 (hs.2 hr.1) hr.2
  refine (mem_kept hsorted).2 ⟨hs.1, .inr ?_⟩
  change {r | r ∈ steps ∧ s < r}.ncard < keep
  rw [hnone, Set.ncard_empty]
  exact Nat.pos_of_ne_zero hkeep

theorem Mirrors.stepsOnDisk_eq (h : c.Mirrors files l) :
    stepsOnDisk files c.dir = {s | s ∈ c.steps} := by
  obtain ⟨names, hnames⟩ := h.directory.exists_names?
  ext s
  rw [Set.mem_ofPred_eq, h.mem_steps]
  refine and_congr_right fun _ => ?_
  rw [place, ← h.directory.mem_names? hnames]
  constructor
  · rintro ⟨names', hnames', hs⟩
    rw [hnames] at hnames'
    exact Option.some.inj hnames' ▸ hs
  · exact fun hs => ⟨names, hnames, hs⟩

/-- What is done with a directory: a checkpointer is opened on it in place of the one before, or
the open one saves. -/
inductive Call (α : Type) where
  | reopen (keep : Nat)
  | save (params : List (Param α)) (step : Nat)

/-- What calls lead to that all end well, the latest call first. -/
inductive Usage (c₁ : Checkpointer) (files₁ : Files α) :
    List (Call α) → Checkpointer → Files α → Prop where
  | start : Usage c₁ files₁ [] c₁ files₁
  | reopen {calls : List (Call α)} {c c' : Checkpointer} {files files' : Files α} {keep : Nat}
      (before : Usage c₁ files₁ calls c files)
      (opens : openAt c₁.dir keep files = (.ok c', files')) :
      Usage c₁ files₁ (.reopen keep :: calls) c' files'
  | save {calls : List (Call α)} {c c' : Checkpointer} {files files' : Files α}
      {params : List (Param α)} {step : Nat} {path : Path}
      (before : Usage c₁ files₁ calls c files) (lt_limit : step < Count.limit)
      (saves : c.save params step files = (.ok path, c', files')) :
      Usage c₁ files₁ (.save params step :: calls) c' files'

/-- The limit of the latest opening. -/
def limitOf (keep : Nat) : List (Call α) → Nat
  | [] => keep
  | .reopen keep :: _ => keep
  | .save _ _ :: calls => limitOf keep calls

/-- What was saved most recently under a step. -/
def lastSaved (s : Nat) : List (Call α) → Option (List (Param α))
  | [] => none
  | .reopen _ :: calls => lastSaved s calls
  | .save params step :: calls => if s = step then some params else lastSaved s calls

theorem Usage.mirrors {calls : List (Call α)} (h : Usage c₁ files₁ calls c files)
    (hstart : c₁.Mirrors files₁ l) :
    c.Mirrors files l ∧ c.dir = c₁.dir ∧ c.keep = limitOf c₁.keep calls ∧
      ∀ s ∈ c.steps, files.content? (pathFor c₁.dir s) =
        (lastSaved s calls).elim (files₁.content? (pathFor c₁.dir s)) fun params =>
          some (.record params) := by
  induction h with
  | start => exact ⟨hstart, rfl, rfl, fun s _ => by rw [lastSaved, Option.elim_none]⟩
  | reopen before opens ih =>
      obtain ⟨hmirrors, hdir, hkeep, hcontent⟩ := ih
      rw [← hdir, hmirrors.openAt_eq] at opens
      cases opens
      exact ⟨hmirrors.reopened _, hdir, rfl, hcontent⟩
  | @save calls c c' files files' params step path before lt_limit saves ih =>
      obtain ⟨hmirrors, hdir, hkeep, hcontent⟩ := ih
      obtain ⟨-, rfl, hsaved, hnew, -⟩ := hmirrors.saved lt_limit saves
      refine ⟨hsaved, hdir, hkeep, fun s hs => ?_⟩
      rw [← hdir, hnew s hs, lastSaved]
      split
      · rfl
      · next hne =>
          have hmem : s ∈ insertStep step c.steps := List.drop_subset _ _ hs
          rw [hdir]
          exact hcontent s ((mem_insertStep.1 hmem).resolve_left hne)

/-- However a directory is used, the checkpointer lists the checkpoints on disk, the latest one is
the largest, each holds what was last saved under its step, and a further save leaves the largest
on disk. -/
theorem largest_checkpoints_retained (hopen : openAt dir keep files = (.ok c₁, files₁))
    (hnamed : WellNamed files₁ dir) {calls : List (Call α)}
    (husage : Usage c₁ files₁ calls c files') :
    (∃ steps : List Nat, steps.Pairwise (· < ·) ∧ (∀ s, s ∈ steps ↔ s ∈ stepsOnDisk files' dir) ∧
      c.list files' = .ok (steps.map fun s => (s, pathFor dir s))) ∧
    (stepsOnDisk files' dir = ∅ → c.latest files' = .error (.empty dir)) ∧
    (∀ s, IsGreatest (stepsOnDisk files' dir) s → c.latest files' = .ok (s, pathFor dir s)) ∧
    (∀ s ∈ stepsOnDisk files' dir, ∀ template : Network α ι ο,
      match lastSaved s calls with
      | some params => template.params.length = params.length →
          load template (pathFor dir s) files' = .ok { template with params := params }
      | none => load template (pathFor dir s) files' = load template (pathFor dir s) files₁) ∧
    ∀ params step path c' after, step < Count.limit →
      c.save params step files' = (.ok path, c', after) →
        path = pathFor dir step ∧ stepsOnDisk after dir =
          largest (limitOf keep calls) (insert step (stepsOnDisk files' dir)) := by
  obtain ⟨rfl, rfl, l, hstart⟩ := exists_mirrors_of_openAt hopen hnamed
  obtain ⟨hmirrors, hdir, hkeep, hcontent⟩ := husage.mirrors hstart
  rw [← hdir] at hcontent ⊢
  have hdisk := hmirrors.stepsOnDisk_eq
  rw [hdisk]
  refine ⟨⟨c.steps, hmirrors.sorted, fun s => Iff.rfl, hmirrors.list_eq⟩, fun hnone => ?_,
    fun s hs => hmirrors.latest_eq hs.1 fun r hr => hs.2 hr, fun s hs template => ?_, ?_⟩
  · exact hmirrors.latest_eq_empty (List.eq_nil_iff_forall_not_mem.2 fun s hs =>
      (hnone ▸ hs : s ∈ (∅ : Set Nat)))
  · have hlimit : s < Count.limit := hmirrors.lt_limit hs
    have hheld := hcontent s hs
    cases hlast : lastSaved s calls with
    | some params =>
        rw [hlast] at hheld
        exact load_pathFor template hlimit hheld
    | none =>
        rw [hlast] at hheld
        simp only [load, withExtension_pathFor _ hlimit, hheld, Option.elim_none]
  · intro params step path c' after hstep hsave
    obtain ⟨hpath, rfl, hsaved, -⟩ := hmirrors.saved hstep hsave
    have hinsert : {s | s ∈ insertStep step c.steps} = insert step {s | s ∈ c.steps} :=
      Set.ext fun _ => mem_insertStep
    rw [← hkeep, ← hinsert]
    exact ⟨hpath, hsaved.stepsOnDisk_eq.trans (Set.ext fun _ =>
      mem_kept (pairwise_insertStep step hmirrors.sorted))⟩

namespace Sample

def runs : Path := ⟨["", "runs"]⟩

def weights (n : Nat) : List (Param Nat) := [⟨0, ⟨[1], [n], rfl⟩⟩]

/-- What an earlier process has left. -/
def earlier : Files Nat :=
  ⟨[(["runs"], .directory), (["runs", "model_00000007.bin"], .file 0 (.record (weights 7)))], 1⟩

theorem directoryAt_earlier : earlier.DirectoryAt runs ["runs"] := ⟨rfl, rfl⟩

theorem openAt_earlier : openAt runs 2 earlier = (.ok ⟨runs, 2, [7]⟩, earlier) := by
  simp only [openAt, directoryAt_earlier.makeDirs]
  rfl

/-- The files after a second save. -/
def later : Files Nat :=
  ⟨earlier.nodes ++ [(["runs", "model_00000003.bin"], .file 1 (.record (weights 3)))], 2⟩

theorem directoryAt_later : later.DirectoryAt runs ["runs"] := ⟨rfl, rfl⟩

theorem save_earlier : save ⟨runs, 2, [7]⟩ (weights 3) 3 earlier =
    (.ok (pathFor runs 3), ⟨runs, 2, [3, 7]⟩, later) := by
  have hname : Path.IsName (fileName 3) := isName_fileName (by decide)
  simp only [save, pathFor, directoryAt_earlier.place_child hname]
  rfl

theorem usage_later :
    Usage ⟨runs, 2, [7]⟩ earlier [.reopen 1, .save (weights 3) 3] ⟨runs, 1, [3, 7]⟩ later := by
  refine .reopen (.save .start (by decide) save_earlier) ?_
  simp only [openAt, directoryAt_later.makeDirs]
  rfl

end Sample

/-- A checkpointer that keeps one checkpoint finds two, and the next save removes all but the
largest, its own included. -/
theorem largest_checkpoints_retained_over_limit :
    let c : Checkpointer := ⟨Sample.runs, 1, [3, 7]⟩
    openAt Sample.runs 2 Sample.earlier = (.ok ⟨Sample.runs, 2, [7]⟩, Sample.earlier) ∧
    WellNamed Sample.earlier Sample.runs ∧
    Usage ⟨Sample.runs, 2, [7]⟩ Sample.earlier [.reopen 1, .save (Sample.weights 3) 3] c
      Sample.later ∧
    c.list Sample.later = .ok [(3, pathFor Sample.runs 3), (7, pathFor Sample.runs 7)] ∧
    ∃ path c' after, c.save (Sample.weights 5) 5 Sample.later = (.ok path, c', after) ∧
      c'.list after = .ok [(7, pathFor Sample.runs 7)] ∧
      stepsOnDisk after Sample.runs =
        largest 1 (insert 5 (stepsOnDisk Sample.later Sample.runs)) := by
  have hnamed : WellNamed Sample.earlier Sample.runs := by
    intro names hnames name hname s hs
    obtain rfl : names = ["model_00000007.bin"] := (Option.some.inj hnames).symm
    obtain rfl := List.mem_singleton.1 hname
    obtain rfl : s = 7 := (Option.some.inj hs).symm
    rfl
  obtain ⟨-, -, -, -, hsaves⟩ := largest_checkpoints_retained (ι := Unit) (ο := Unit)
    Sample.openAt_earlier hnamed Sample.usage_later
  have hsave : ∃ path c' after, save ⟨Sample.runs, 1, [3, 7]⟩ (Sample.weights 5) 5 Sample.later =
      (.ok path, c', after) ∧ c'.list after = .ok [(7, pathFor Sample.runs 7)] := by
    have hname : Path.IsName (fileName 5) := isName_fileName (by decide)
    simp only [save, pathFor, Sample.directoryAt_later.place_child hname]
    exact ⟨_, _, _, rfl, rfl⟩
  obtain ⟨path, c', after, hsave, hlist⟩ := hsave
  exact ⟨Sample.openAt_earlier, hnamed, Sample.usage_later, rfl, path, c', after, hsave, hlist,
    (hsaves _ _ _ _ _ (by decide) hsave).2⟩

end Checkpointer
end ActorCritic
