import Mathlib.Data.List.Basic
import ActorCritic.Proofs.Checkpoint.Name

/-!
What a save does. It writes the file of one step, and then removes those of the smallest steps as
long as more are held than the limit allows. It may fail before it writes; and a directory in the
place of a file stops the removal, after the files of smaller steps are gone already and its own
step is dropped.
-/

namespace ActorCritic

namespace Checkpoint

theorem mem_insertStep {s r : Nat} {ts : List Nat} : r ∈ insertStep s ts ↔ r = s ∨ r ∈ ts := by
  induction ts with
  | nil => simp [insertStep]
  | cons t ts ih =>
      simp only [insertStep]
      split
      · exact List.mem_cons
      split
      · next hst => simp [hst]
      · simp only [List.mem_cons, ih]
        exact or_left_comm

theorem pairwise_insertStep (s : Nat) {ts : List Nat} (h : ts.Pairwise (· < ·)) :
    (insertStep s ts).Pairwise (· < ·) := by
  induction ts with
  | nil => exact List.pairwise_singleton _ _
  | cons t ts ih =>
      obtain ⟨ht, hts⟩ := List.pairwise_cons.1 h
      simp only [insertStep]
      split
      · next hlt =>
          refine List.pairwise_cons.2 ⟨fun r hr => ?_, h⟩
          obtain rfl | hr := List.mem_cons.1 hr
          · exact hlt
          · exact Nat.lt_trans hlt (ht r hr)
      split
      · exact h
      · refine List.pairwise_cons.2 ⟨fun r hr => ?_, ih hts⟩
        obtain rfl | hr := mem_insertStep.1 hr
        · omega
        · exact ht r hr

theorem mem_foldr_insertStep {s : Nat} {ts : List Nat} :
    s ∈ ts.foldr insertStep [] ↔ s ∈ ts := by
  induction ts with
  | nil => rfl
  | cons t ts ih => rw [List.foldr_cons, mem_insertStep, ih, List.mem_cons]

theorem pairwise_foldr_insertStep (ts : List Nat) :
    (ts.foldr insertStep []).Pairwise (· < ·) := by
  induction ts with
  | nil => exact List.Pairwise.nil
  | cons t ts ih => exact pairwise_insertStep t ih

/-- How many of so many checkpoints are removed. -/
def excess (keep count : Nat) : Nat := if keep = 0 then 0 else count - keep

theorem excess_eq_zero {keep count : Nat} (h : keep = 0 ∨ count ≤ keep) :
    excess keep count = 0 := by
  unfold excess
  split <;> omega

theorem excess_succ {keep count : Nat} (h : ¬(keep = 0 ∨ count < keep)) :
    excess keep (count + 1) = excess keep count + 1 := by
  unfold excess
  rw [if_neg (by omega), if_neg (by omega)]
  omega

/-- The steps that stay of a list in increasing order. -/
def kept (keep : Nat) (steps : List Nat) : List Nat := steps.drop (excess keep steps.length)

def removed (keep : Nat) (steps : List Nat) : List Nat := steps.take (excess keep steps.length)

theorem removed_cons {keep s : Nat} {steps : List Nat} (h : ¬(keep = 0 ∨ steps.length < keep)) :
    removed keep (s :: steps) = s :: removed keep steps := by
  simp [removed, excess_succ h]

theorem kept_cons {keep s : Nat} {steps : List Nat} (h : ¬(keep = 0 ∨ steps.length < keep)) :
    kept keep (s :: steps) = kept keep steps := by
  simp [kept, excess_succ h]

theorem removed_append_kept (keep : Nat) (steps : List Nat) :
    removed keep steps ++ kept keep steps = steps := List.take_append_drop _ _

/-- No step of a list in increasing order is both removed and kept. -/
theorem mem_kept_iff_not_mem_removed {keep s : Nat} {steps : List Nat}
    (hsorted : steps.Pairwise (· < ·)) :
    s ∈ kept keep steps ↔ s ∈ steps ∧ s ∉ removed keep steps := by
  have hsplit : removed keep steps ++ kept keep steps = steps := removed_append_kept _ _
  rw [← hsplit, List.pairwise_append] at hsorted
  have hmem : s ∈ steps ↔ s ∈ removed keep steps ∨ s ∈ kept keep steps := by
    rw [← List.mem_append, hsplit]
  rw [hmem]
  constructor
  · exact fun hs => ⟨.inr hs, fun hgone => absurd (hsorted.2.2 s hgone s hs) (Nat.lt_irrefl s)⟩
  · exact fun ⟨hs, hstays⟩ => hs.resolve_left hstays

theorem length_kept_le {keep : Nat} (h : keep ≠ 0) (steps : List Nat) :
    (kept keep steps).length ≤ keep := by
  rw [kept, List.length_drop, excess, if_neg h]
  omega

/-- Nothing is removed unless the limit is reached by what stays. -/
theorem le_length_kept {keep s : Nat} {steps : List Nat} (h : s ∈ removed keep steps) :
    keep ≠ 0 ∧ keep ≤ (kept keep steps).length := by
  have hpos : 0 < (removed keep steps).length := List.length_pos_of_mem h
  rw [removed, List.length_take] at hpos
  rw [kept, List.length_drop]
  by_cases hkeep : keep = 0
  · simp [excess, hkeep] at hpos
  · rw [excess, if_neg hkeep] at hpos ⊢
    omega

end Checkpoint

namespace Checkpointer

open Checkpoint

variable {α : Type} {c c' : Checkpointer} {dir path : Path} {l : Location}
  {files files' : Files α} {gone steps rest : List Nat} {step keep : Nat} {params : List (Param α)}

/-- The location of the checkpoint of a step in the directory at `l`. -/
def place (l : Location) (step : Nat) : Location := l ++ [fileName step]

theorem place_injective {s r : Nat} (hs : s < Count.limit) (hr : r < Count.limit)
    (h : place l s = place l r) : s = r :=
  fileName_injective hs hr (List.singleton_injective (List.append_cancel_left h))

/-- The files of some steps are gone, and nothing else has changed. -/
structure Pruned (l : Location) (gone : List Nat) (files files' : Files α) : Prop where
  directories : files.KeepsDirectories files'
  find?_eq : ∀ m, files'.find? m = if ∃ s ∈ gone, m = place l s then none else files.find? m

theorem Pruned.none (l : Location) (files : Files α) : Pruned l [] files files :=
  ⟨FileTree.KeepsDirectories.refl files, fun _ => (if_neg (by simp)).symm⟩

theorem Pruned.cons {between : Files α} {s : Nat} {gone : List Nat}
    (hfirst : Pruned l [s] files between) (hrest : Pruned l gone between files') :
    Pruned l (s :: gone) files files' := by
  refine ⟨hfirst.directories.trans hrest.directories, fun m => ?_⟩
  rw [hrest.find?_eq, hfirst.find?_eq]
  by_cases hm : ∃ r ∈ gone, m = place l r
  · simp [hm]
  · simp [hm]

theorem pruned_of_removed (hdir : files.DirectoryAt dir l) (hfile : files.isFile l = false)
    (hstep : step < Count.limit) (h : files.removeFile (pathFor dir step) = .removed files') :
    Pruned l [step] files files' := by
  rw [pathFor, hdir.removeFile_child (isName_fileName hstep) hfile, ← place] at h
  split at h
  · next hthere =>
      cases h
      have hnone : files.isDirectory (place l step) = false :=
        FileTree.isDirectory_eq_false_of_isFile (by simp [place]) hthere
      have hothers : ∀ m, m ≠ place l step →
          (files.erase (place l step)).find? m = files.find? m :=
        fun m hm => files.find?_erase_of_ne hm
      refine ⟨FileTree.keepsDirectories_of_change hnone hothers, fun m => ?_⟩
      by_cases hm : m = place l step
      · simp [hm]
      · simp [hm, hothers m hm]
  · split at h <;> cases h

theorem pruned_of_missing (hdir : files.DirectoryAt dir l) (hfile : files.isFile l = false)
    (hstep : step < Count.limit) (h : files.removeFile (pathFor dir step) = .missing) :
    Pruned l [step] files files := by
  rw [pathFor, hdir.removeFile_child (isName_fileName hstep) hfile, ← place] at h
  split at h
  · cases h
  next hnoFile =>
    split at h
    · cases h
    next hnoDirectory =>
      refine ⟨FileTree.KeepsDirectories.refl files, fun m => ?_⟩
      split
      · next hm =>
          obtain rfl : m = place l step := by simpa using hm
          exact FileTree.find?_eq_none_of_neither (Bool.not_eq_true _ ▸ hnoFile)
            (Bool.not_eq_true _ ▸ hnoDirectory)
      · rfl

theorem isDirectory_of_refused (hdir : files.DirectoryAt dir l) (hfile : files.isFile l = false)
    (hstep : step < Count.limit) (h : files.removeFile (pathFor dir step) = .refused) :
    files.isDirectory (place l step) = true := by
  rw [pathFor, hdir.removeFile_child (isName_fileName hstep) hfile] at h
  split at h
  · cases h
  · split at h
    · next hdirectory => exact hdirectory
    · cases h

theorem place_ne_nil (l : Location) (step : Nat) : place l step ≠ [] := by simp [place]

/-- Nothing is a directory that was none before. -/
theorem Pruned.isDirectory_of {gone : List Nat} (h : Pruned l gone files files') {m : Location}
    (hm : m ≠ []) (hdirectory : files'.isDirectory m = true) : files.isDirectory m = true := by
  rw [FileTree.isDirectory_iff hm] at hdirectory ⊢
  rw [h.find?_eq] at hdirectory
  split at hdirectory
  · cases hdirectory
  · exact hdirectory

/-- How the removal of files ends: nothing is left to be removed, or a directory stands in the
place of a file, whose step is dropped all the same. -/
inductive PruneEnds (dir : Path) (l : Location) (keep : Nat) (steps : List Nat) (files : Files α) :
    Except CheckpointError Unit × List Nat × Files α → Prop where
  | done {files' : Files α} (pruned : Pruned l (removed keep steps) files files') :
      PruneEnds dir l keep steps files (.ok (), kept keep steps, files')
  | refused {gone rest : List Nat} {s : Nat} {files' : Files α}
      (split : steps = gone ++ s :: rest) (dropped : gone ++ [s] <+: removed keep steps)
      (pruned : Pruned l gone files files') (directory : files.isDirectory (place l s) = true) :
      PruneEnds dir l keep steps files (.error (.prune (pathFor dir s)), rest, files')

theorem PruneEnds.none (h : excess keep steps.length = 0) :
    PruneEnds dir l keep steps files (.ok (), steps, files) := by
  have hremoved : removed keep steps = [] := by simp [removed, h]
  have hkept : kept keep steps = steps := by simp [kept, h]
  have hends : PruneEnds dir l keep steps files (.ok (), kept keep steps, files) :=
    .done (hremoved ▸ Pruned.none l files)
  rwa [hkept] at hends

theorem PruneEnds.cons {between : Files α} {s : Nat}
    {r : Except CheckpointError Unit × List Nat × Files α}
    (hkeep : ¬(keep = 0 ∨ steps.length < keep)) (hfirst : Pruned l [s] files between)
    (h : PruneEnds dir l keep steps between r) : PruneEnds dir l keep (s :: steps) files r := by
  cases h with
  | done pruned =>
      rw [← kept_cons hkeep]
      exact .done (removed_cons hkeep ▸ hfirst.cons pruned)
  | @refused gone rest t files' split dropped pruned directory =>
      have hsplit : s :: steps = (s :: gone) ++ t :: rest := congrArg (List.cons s) split
      have hdropped : (s :: gone) ++ [t] <+: removed keep (s :: steps) := by
        rw [removed_cons hkeep]
        exact List.cons_prefix_cons.2 ⟨rfl, dropped⟩
      exact .refused hsplit hdropped (hfirst.cons pruned)
        (hfirst.isDirectory_of (place_ne_nil l t) directory)

theorem prune_ends (hdir : files.DirectoryAt dir l) (hfile : files.isFile l = false)
    (hsteps : ∀ s ∈ steps, s < Count.limit) :
    PruneEnds dir l keep steps files (prune dir keep steps files) := by
  induction steps generalizing files with
  | nil => exact .none (by simp [excess])
  | cons s steps ih =>
      simp only [prune]
      split
      · next hkeep => exact .none (excess_eq_zero (hkeep.imp_right Nat.succ_le_of_lt))
      next hkeep =>
        have hrest : ∀ r ∈ steps, r < Count.limit := fun r hr =>
          hsteps r (List.mem_cons_of_mem s hr)
        have hlimit := hsteps s List.mem_cons_self
        -- The directory itself stays, so what is said of it holds after the removal as well.
        have hlater {between : Files α} (hs : Pruned l [s] files between) :
            PruneEnds dir l keep (s :: steps) files (prune dir keep steps between) := by
          have hopen : between.isFile l = false := (hs.directories l hdir.directory).2.trans hfile
          exact (ih (hdir.of_keepsDirectories hs.directories) hopen hrest).cons hkeep hs
        split
        · next hremove => exact hlater (pruned_of_removed hdir hfile hlimit hremove)
        · next hremove => exact hlater (pruned_of_missing hdir hfile hlimit hremove)
        · next hremove =>
            have hdirectory := isDirectory_of_refused hdir hfile hlimit hremove
            have hdropped : [] ++ [s] <+: removed keep (s :: steps) := by
              rw [removed_cons hkeep]
              exact List.cons_prefix_cons.2 ⟨rfl, List.nil_prefix⟩
            exact .refused rfl hdropped (Pruned.none l files) hdirectory

theorem save_eq_ok (hsave : c.save params step files = (.ok path, c', files')) :
    ∃ placed steps, files.place (pathFor c.dir step) (.record params) = (true, placed) ∧
      prune c.dir c.keep (insertStep step c.steps) placed = (.ok (), steps, files') ∧
        path = pathFor c.dir step ∧ c' = { c with steps := steps } := by
  unfold save at hsave
  dsimp only at hsave
  cases hplace : files.place (pathFor c.dir step) (.record params) with
  | mk done placed =>
  rw [hplace] at hsave
  cases done with
  | false => cases hsave
  | true =>
  simp only [if_true] at hsave
  cases hprune : prune c.dir c.keep (insertStep step c.steps) placed with
  | mk result after =>
  rw [hprune] at hsave
  cases result with
  | error e => cases hsave
  | ok done =>
      cases hsave
      exact ⟨placed, after.1, rfl, hprune, rfl, rfl⟩

/-- A checkpointer whose directory is there, with the steps that it holds in increasing order. -/
structure Opened (c : Checkpointer) (files : Files α) (l : Location) : Prop where
  directory : files.DirectoryAt c.dir l
  sorted : c.steps.Pairwise (· < ·)
  lt_limit : ∀ s ∈ c.steps, s < Count.limit

/-- The checkpoint of a step is written, and then the files of some steps are gone. -/
structure Stored (l : Location) (params : List (Param α)) (step : Nat) (gone : List Nat)
    (files files' : Files α) : Prop where
  directories : files.KeepsDirectories files'
  notFile : files.isFile l = false
  find?_eq : ∃ id, ∀ m, files'.find? m =
    if ∃ s ∈ gone, m = place l s then none
    else if m = place l step then some (.file id (.record params))
    else files.find? m

/-- How a save ends: it fails before it writes, or it writes and the removal of the smallest steps
ends well, or the removal stops at a directory. -/
inductive SaveEnds (c : Checkpointer) (l : Location) (params : List (Param α)) (step : Nat)
    (files : Files α) : Except CheckpointError Path × Checkpointer × Files α → Prop where
  | unwritten : SaveEnds c l params step files (.error (.save step), c, files)
  | saved {files' : Files α}
      (stored : Stored l params step (removed c.keep (insertStep step c.steps)) files files') :
      SaveEnds c l params step files (.ok (pathFor c.dir step),
        { c with steps := kept c.keep (insertStep step c.steps) }, files')
  | refused {gone rest : List Nat} {s : Nat} {files' : Files α}
      (split : insertStep step c.steps = gone ++ s :: rest)
      (dropped : gone ++ [s] <+: removed c.keep (insertStep step c.steps))
      (stored : Stored l params step gone files files')
      (directory : files.isDirectory (place l s) = true) :
      SaveEnds c l params step files
        (.error (.prune (pathFor c.dir s)), { c with steps := rest }, files')

theorem Pruned.stored {placed : Files α} {id : Nat} (hpruned : Pruned l gone placed files')
    (hfile : files.isFile l = false) (hnone : files.isDirectory (place l step) = false)
    (hfound : placed.find? (place l step) = some (.file id (.record params)))
    (hothers : ∀ m, m ≠ place l step → placed.find? m = files.find? m) :
    Stored l params step gone files files' := by
  have hkeeps := FileTree.keepsDirectories_of_change hnone hothers
  refine ⟨hkeeps.trans hpruned.directories, hfile, id, fun m => ?_⟩
  rw [hpruned.find?_eq]
  by_cases hm : m = place l step
  · rw [hm, hfound, if_pos rfl]
  · rw [hothers m hm, if_neg hm]

theorem Opened.lt_limit_insertStep (h : c.Opened files l) (hstep : step < Count.limit) :
    ∀ s ∈ insertStep step c.steps, s < Count.limit := by
  intro s hs
  obtain rfl | hs := mem_insertStep.1 hs
  · exact hstep
  · exact h.lt_limit s hs

theorem Opened.lt_limit_removed (h : c.Opened files l) (hstep : step < Count.limit) :
    ∀ s ∈ removed c.keep (insertStep step c.steps), s < Count.limit := fun s hs =>
  h.lt_limit_insertStep hstep s (List.take_subset _ _ hs)

theorem Opened.save_ends (h : c.Opened files l) (hstep : step < Count.limit)
    (params : List (Param α)) :
    SaveEnds c l params step files (c.save params step files) := by
  have hname := isName_fileName hstep
  unfold save
  dsimp only
  rw [pathFor, h.directory.place_child hname]
  cases hwrite : files.write? (c.dir.child (fileName step)) (.record params) with
  | none => exact .unwritten
  | some written =>
      obtain ⟨id, placed⟩ := written
      obtain ⟨hfile, hnone, hfound, hothers⟩ := h.directory.write?_child hname hwrite
      have hkeeps : files.KeepsDirectories placed :=
        FileTree.keepsDirectories_of_change hnone hothers
      have hends : PruneEnds c.dir l c.keep (insertStep step c.steps) placed
          (prune c.dir c.keep (insertStep step c.steps) placed) :=
        prune_ends (h.directory.of_keepsDirectories hkeeps)
          ((hkeeps l h.directory.directory).2.trans hfile) (h.lt_limit_insertStep hstep)
      simp only [Option.elim_some, if_true]
      generalize prune c.dir c.keep (insertStep step c.steps) placed = result at hends ⊢
      cases hends with
      | done pruned => exact .saved (pruned.stored hfile hnone hfound hothers)
      | @refused gone rest s files' split dropped pruned directory =>
          refine .refused split dropped (pruned.stored hfile hnone hfound hothers) ?_
          have hs : place l s ≠ place l step := by
            intro heq
            rw [heq, FileTree.isDirectory_iff (place_ne_nil l step), place, hfound] at directory
            cases directory
          rw [FileTree.isDirectory_iff (place_ne_nil l s)] at directory ⊢
          rw [← hothers _ hs, directory]

section Stored

variable (h : Stored l params step gone files files') (hstep : step < Count.limit)
  (hgone : ∀ r ∈ gone, r < Count.limit)

include h in
theorem Stored.isFile_eq_false (hdir : files.DirectoryAt dir l) : files'.isFile l = false :=
  (h.directories l hdir.directory).2.trans h.notFile

include h hstep hgone

/-- The file of a step stands unless it is among what is gone, and holds what was written last. -/
theorem Stored.find?_place {s : Nat} (hs : s < Count.limit) :
    ∃ id, files'.find? (place l s) =
      if s ∈ gone then none
      else if s = step then some (.file id (.record params))
      else files.find? (place l s) := by
  obtain ⟨id, hfind⟩ := h.find?_eq
  have hmem : (∃ r ∈ gone, place l s = place l r) ↔ s ∈ gone :=
    ⟨fun ⟨r, hr, heq⟩ => place_injective hs (hgone r hr) heq ▸ hr, fun hr => ⟨s, hr, rfl⟩⟩
  have hsame : place l s = place l step ↔ s = step :=
    ⟨place_injective hs hstep, congrArg (place l)⟩
  exact ⟨id, by simp only [hfind, hmem, hsame]⟩

theorem Stored.find?_of_ne {m : Location} (hm : ∀ s, s < Count.limit → m ≠ place l s) :
    files'.find? m = files.find? m := by
  obtain ⟨id, hfind⟩ := h.find?_eq
  rw [hfind, if_neg fun ⟨r, hr, heq⟩ => hm r (hgone r hr) heq, if_neg (hm step hstep)]

/-- A save touches no checkpoint under a name that is not its own. -/
theorem Stored.find?_of_spelled {name : String} {s : Nat} (hother : name ≠ fileName s)
    (hname : stepOfName? name = some s) :
    files'.find? (l ++ [name]) = files.find? (l ++ [name]) := by
  refine h.find?_of_ne hstep hgone fun r hr heq => hother ?_
  obtain rfl : name = fileName r := List.singleton_injective (List.append_cancel_left heq)
  rw [stepOfName?_fileName hr] at hname
  exact congrArg fileName (Option.some.inj hname)

end Stored

/-- A call leaves the directory open, and the steps that are held in increasing order. -/
theorem SaveEnds.opened (h : c.Opened files l) (hstep : step < Count.limit)
    {result : Except CheckpointError Path}
    (hends : SaveEnds c l params step files (result, c', files')) :
    c'.dir = c.dir ∧ c'.Opened files' l := by
  have hsorted := pairwise_insertStep step h.sorted
  have hlimit := h.lt_limit_insertStep hstep
  cases hends with
  | unwritten => exact ⟨rfl, h⟩
  | saved stored =>
      refine ⟨rfl, h.directory.of_keepsDirectories stored.directories, ?_, fun s hs => ?_⟩
      · exact hsorted.sublist (List.drop_sublist _ _)
      · exact hlimit s (List.drop_subset _ _ hs)
  | @refused gone rest s files' split dropped stored directory =>
      have hrest : rest.Sublist (insertStep step c.steps) := by
        rw [split]
        exact (List.sublist_cons_self s rest).trans (List.sublist_append_right _ _)
      refine ⟨rfl, h.directory.of_keepsDirectories stored.directories, ?_, fun s hs => ?_⟩
      · exact hsorted.sublist hrest
      · exact hlimit s (hrest.subset hs)

end Checkpointer
end ActorCritic
