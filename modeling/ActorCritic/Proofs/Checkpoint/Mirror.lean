import ActorCritic.Proofs.Checkpoint.Calls

/-!
What a checkpointer holds in memory beside what a scan of its directory finds. A directory in the
place of a checkpoint, and a checkpoint under a name that is not its own, are found by a scan, but
a save that drops their steps from memory does not remove them. So what is found is what is held
together with what cannot be removed, and the two part for good once such a step is dropped: no
later save tries it again.
-/

namespace ActorCritic

namespace Checkpoint

theorem length_le_insertStep (s : Nat) (ts : List Nat) : ts.length ≤ (insertStep s ts).length := by
  induction ts with
  | nil => exact Nat.zero_le _
  | cons t ts ih =>
      simp only [insertStep]
      split
      · exact Nat.le_succ _
      split
      · exact Nat.le_refl _
      · exact Nat.succ_le_succ ih

theorem le_length_kept_of_le {keep : Nat} {steps : List Nat} (h : keep ≤ steps.length) :
    keep ≤ (kept keep steps).length := by
  rw [kept, List.length_drop, excess]
  split <;> omega

/-- Where the removal stops early, the limit is reached by what is left. -/
theorem le_length_of_dropped {keep t : Nat} {gone rest steps : List Nat}
    (hsplit : steps = gone ++ t :: rest) (hdropped : gone ++ [t] <+: removed keep steps) :
    keep ≠ 0 ∧ keep ≤ rest.length := by
  obtain ⟨more, hmore⟩ := hdropped
  obtain ⟨hkeep, hfull⟩ : keep ≠ 0 ∧ keep ≤ (kept keep steps).length :=
    le_length_kept (s := t) (hmore ▸ by simp)
  have hlength := congrArg List.length (removed_append_kept keep steps)
  rw [← hmore, hsplit] at hlength
  simp only [List.length_append, List.length_cons, List.length_nil] at hlength
  rw [← hsplit] at hlength
  exact ⟨hkeep, by omega⟩

end Checkpoint

namespace Checkpointer

open Checkpoint

variable {α : Type} {c c' : Checkpointer} {dir path : Path} {l : Location}
  {files files' : Files α} {gone steps : List Nat} {keep step s : Nat} {params : List (Param α)}

/-- What is read as the checkpoint of the step stays when the file of the step is removed: it is a
directory, or it has another name. -/
def Unremovable (files : Files α) (dir : Path) (step : Nat) : Prop :=
  step < Count.limit ∧ ∃ l, files.DirectoryAt dir l ∧
    (files.isDirectory (place l step) = true ∨
      ∃ name, name ≠ fileName step ∧ stepOfName? name = some step ∧
        files.find? (l ++ [name]) ≠ none)

theorem unremovable_iff_find? (hdir : files.DirectoryAt dir l) :
    Unremovable files dir step ↔ step < Count.limit ∧
      (files.isDirectory (place l step) = true ∨
        ∃ name, name ≠ fileName step ∧ stepOfName? name = some step ∧
          files.find? (l ++ [name]) ≠ none) := by
  refine and_congr_right fun _ => ⟨fun ⟨m, hm, h⟩ => ?_, fun h => ⟨l, hdir, h⟩⟩
  obtain rfl : l = m := Except.ok.inj (hdir.follow.symm.trans hm.follow)
  exact h

theorem recognised_iff_find? (hdir : files.DirectoryAt dir l) :
    Recognised files dir step ↔ step < Count.limit ∧
      (files.find? (place l step) ≠ none ∨
        ∃ name, name ≠ fileName step ∧ stepOfName? name = some step ∧
          files.find? (l ++ [name]) ≠ none) := by
  obtain ⟨names, hnames⟩ := hdir.exists_names?
  simp only [recognised_iff hnames, hdir.mem_names? hnames]
  constructor
  · rintro ⟨name, hthere, hname⟩
    refine ⟨lt_of_stepOfName? hname, ?_⟩
    by_cases hown : name = fileName step
    · exact .inl (by rwa [place, ← hown])
    · exact .inr ⟨name, hown, hname, hthere⟩
  · rintro ⟨hlimit, hthere | ⟨name, -, hname, hthere⟩⟩
    · exact ⟨fileName step, hthere, stepOfName?_fileName hlimit⟩
    · exact ⟨name, hthere, hname⟩

theorem find?_ne_none_of_isDirectory (h : files.isDirectory (place l step) = true) :
    files.find? (place l step) ≠ none := by
  rw [FileTree.isDirectory_iff (place_ne_nil l step)] at h
  rw [h]
  nofun

theorem Unremovable.recognised (h : Unremovable files dir step) : Recognised files dir step := by
  obtain ⟨hlimit, l, hdir, hstuck⟩ := h
  exact (recognised_iff_find? hdir).2 ⟨hlimit, hstuck.imp_left find?_ne_none_of_isDirectory⟩

section Stored

variable (h : Stored l params step gone files files') (hdir : files.DirectoryAt dir l)
  (hstep : step < Count.limit) (hgone : ∀ r ∈ gone, r < Count.limit)

include h in
theorem Stored.isDirectory_iff {m : Location} (hm : m ≠ []) :
    files'.isDirectory m = true ↔ files.isDirectory m = true := by
  refine ⟨fun hdirectory => ?_, fun hdirectory => (h.directories m hdirectory).1⟩
  obtain ⟨id, hfind⟩ := h.find?_eq
  rw [FileTree.isDirectory_iff hm] at hdirectory ⊢
  rw [hfind] at hdirectory
  split at hdirectory
  · cases hdirectory
  · split at hdirectory
    · cases hdirectory
    · exact hdirectory

include h hdir hstep hgone

theorem Stored.unremovable_iff : Unremovable files' dir s ↔ Unremovable files dir s := by
  rw [unremovable_iff_find? hdir,
    unremovable_iff_find? (hdir.of_keepsDirectories h.directories),
    h.isDirectory_iff (place_ne_nil l s)]
  refine and_congr_right fun _ => or_congr_right <| exists_congr fun name =>
    and_congr_right fun hother => and_congr_right fun hname => ?_
  rw [h.find?_of_spelled hstep hgone hother hname]

theorem Stored.recognised_iff : Recognised files' dir s ↔
    Unremovable files dir s ∨ s ∉ gone ∧ (s = step ∨ Recognised files dir s) := by
  have hafter := hdir.of_keepsDirectories h.directories
  have hstuck : Unremovable files' dir s ↔ Unremovable files dir s :=
    h.unremovable_iff hdir hstep hgone
  -- A step is found by its own name, which a save may touch, or by another one, which stays.
  constructor
  · intro hs
    obtain ⟨hlimit, hthere | hspelled⟩ := (recognised_iff_find? hafter).1 hs
    · obtain ⟨id, hfind⟩ := h.find?_place hstep hgone hlimit
      rw [hfind] at hthere
      split at hthere
      · exact absurd rfl hthere
      next hstays =>
        split at hthere
        · next heq => exact .inr ⟨hstays, .inl heq⟩
        · exact .inr ⟨hstays, .inr ((recognised_iff_find? hdir).2 ⟨hlimit, .inl hthere⟩)⟩
    · exact .inl (hstuck.1 ((unremovable_iff_find? hafter).2 ⟨hlimit, .inr hspelled⟩))
  · rintro (hs | ⟨hstays, hs⟩)
    · exact (hstuck.2 hs).recognised
    have hlimit : s < Count.limit := hs.elim (fun heq => heq ▸ hstep) Recognised.lt_limit
    obtain ⟨id, hfind⟩ := h.find?_place hstep hgone hlimit
    rw [if_neg hstays] at hfind
    by_cases heq : s = step
    · rw [if_pos heq] at hfind
      exact (recognised_iff_find? hafter).2 ⟨hlimit, .inl (by rw [hfind]; nofun)⟩
    · rw [if_neg heq] at hfind
      obtain ⟨-, hthere | hspelled⟩ := (recognised_iff_find? hdir).1 (hs.resolve_left heq)
      · exact (recognised_iff_find? hafter).2 ⟨hlimit, .inl (by rwa [hfind])⟩
      · exact (hstuck.2 ((unremovable_iff_find? hdir).2 ⟨hlimit, .inr hspelled⟩)).recognised

end Stored

/-- What is found is what is held and what cannot be removed. If some of the latter is not held,
the limit is reached by what is. -/
structure Tracks (stuck : Set Nat) (c : Checkpointer) (files : Files α) : Prop where
  unremovable_iff : ∀ s, Unremovable files c.dir s ↔ s ∈ stuck
  recognised_iff : ∀ s, Recognised files c.dir s ↔ s ∈ c.steps ∨ s ∈ stuck
  full : ∀ s ∈ stuck, s ∉ c.steps → c.keep ≠ 0 ∧ c.keep ≤ c.steps.length

variable {stuck : Set Nat}

theorem tracks_of_scan (hscan : scan files c.dir = .ok c.steps)
    (hstuck : ∀ s, Unremovable files c.dir s ↔ s ∈ stuck) : Tracks stuck c files := by
  have hheld {s : Nat} (hs : s ∈ stuck) : s ∈ c.steps :=
    (mem_of_scan hscan).2 ((hstuck s).2 hs).recognised
  refine ⟨hstuck, fun s => ?_, fun s hs hlost => absurd (hheld hs) hlost⟩
  rw [← mem_of_scan hscan]
  exact (or_iff_left_of_imp hheld).symm

/-- What is found after a save that ends well: what is held, what could not be removed, and what
was found but not held before. -/
theorem Stored.recognised_iff_kept
    (h : Stored l params step (removed c.keep (insertStep step c.steps)) files files')
    (hopened : c.Opened files l) (hstep : step < Count.limit)
    (hfound : ∀ s, Recognised files c.dir s ↔ s ∈ c.steps ∨ s ∈ stuck) :
    Recognised files' c.dir s ↔ s ∈ kept c.keep (insertStep step c.steps) ∨
      Unremovable files c.dir s ∨ s ∈ stuck ∧ s ∉ c.steps ∧ s ≠ step := by
  have hinsert : s ∈ removed c.keep (insertStep step c.steps) → s = step ∨ s ∈ c.steps :=
    fun hs => mem_insertStep.1 (List.take_subset _ _ hs)
  rw [h.recognised_iff hopened.directory hstep (hopened.lt_limit_removed hstep), hfound,
    mem_kept_iff_not_mem_removed (pairwise_insertStep step hopened.sorted), mem_insertStep]
  constructor
  · rintro (hs | ⟨hstays, hs⟩)
    · exact .inr (.inl hs)
    by_cases hheld : s = step ∨ s ∈ c.steps
    · exact .inl ⟨hheld, hstays⟩
    · rw [not_or] at hheld
      exact .inr (.inr ⟨(hs.resolve_left hheld.1).resolve_left hheld.2, hheld.2, hheld.1⟩)
  · rintro (⟨hheld, hstays⟩ | hs | ⟨hs, hlost, hne⟩)
    · exact .inr ⟨hstays, hheld.imp_right .inl⟩
    · exact .inl hs
    · exact .inr ⟨fun hgone => (hinsert hgone).elim hne hlost, .inr (.inr hs)⟩

/-- What is not held any more, though it cannot be removed, has been dropped for the limit. -/
theorem Tracks.full_insertStep (h : Tracks stuck c files) (hsorted : c.steps.Pairwise (· < ·))
    (hs : s = step ∨ s ∈ c.steps ∨ s ∈ stuck)
    (hlost : s ∉ kept c.keep (insertStep step c.steps)) :
    c.keep ≠ 0 ∧ c.keep ≤ (kept c.keep (insertStep step c.steps)).length := by
  by_cases hmem : s ∈ insertStep step c.steps
  · rw [mem_kept_iff_not_mem_removed (pairwise_insertStep step hsorted)] at hlost
    exact le_length_kept (not_not.1 fun hstays => hlost ⟨hmem, hstays⟩)
  · rw [mem_insertStep, not_or] at hmem
    obtain ⟨hkeep, hfull⟩ := h.full s ((hs.resolve_left hmem.1).resolve_left hmem.2) hmem.2
    exact ⟨hkeep, le_length_kept_of_le (hfull.trans (length_le_insertStep step c.steps))⟩

theorem SaveEnds.tracks (hopened : c.Opened files l) (hstep : step < Count.limit)
    (h : Tracks stuck c files) {result : Except CheckpointError Path}
    (hends : SaveEnds c l params step files (result, c', files')) : Tracks stuck c' files' := by
  have hdir := hopened.directory
  cases hends with
  | unwritten => exact h
  | saved stored =>
      have hgone := hopened.lt_limit_removed hstep
      refine ⟨fun s => ?_, fun s => ?_, fun s hs hlost => ?_⟩
      · exact (stored.unremovable_iff hdir hstep hgone).trans (h.unremovable_iff s)
      · rw [stored.recognised_iff_kept hopened hstep h.recognised_iff, h.unremovable_iff]
        exact or_congr_right (or_iff_left_of_imp And.left)
      · exact h.full_insertStep hopened.sorted (.inr (.inr hs)) hlost
  | @refused gone rest t files' split dropped stored directory =>
      have hlimit := hopened.lt_limit_insertStep hstep
      have hgone : ∀ r ∈ gone, r < Count.limit := fun r hr =>
        hlimit r (split ▸ List.mem_append_left _ hr)
      have ht : t ∈ stuck := (h.unremovable_iff t).1
        ((unremovable_iff_find? hdir).2 ⟨hlimit t (by simp [split]), .inl directory⟩)
      refine ⟨fun s => ?_, fun s => ?_, fun _ _ _ => le_length_of_dropped split dropped⟩
      · exact (stored.unremovable_iff hdir hstep hgone).trans (h.unremovable_iff s)
      · have hmem : s = step ∨ s ∈ c.steps ↔ s ∈ gone ∨ s = t ∨ s ∈ rest := by
          rw [← mem_insertStep, split, List.mem_append, List.mem_cons]
        have hcut : s ∈ rest → s ∉ gone := by
          have hsorted := pairwise_insertStep step hopened.sorted
          rw [split, List.pairwise_append] at hsorted
          exact fun hs hgone => absurd (hsorted.2.2 s hgone s (List.mem_cons_of_mem t hs))
            (Nat.lt_irrefl s)
        rw [stored.recognised_iff hdir hstep hgone, h.unremovable_iff, h.recognised_iff,
          ← or_assoc, hmem]
        constructor
        · rintro (hs | ⟨hstays, (hs | rfl | hs) | hs⟩)
          · exact .inr hs
          · exact absurd hs hstays
          · exact .inr ht
          · exact .inl hs
          · exact .inr hs
        · rintro (hs | hs)
          · exact .inr ⟨hcut hs, .inl (.inr (.inr hs))⟩
          · exact .inl hs

theorem CallEnds.tracks {call : Call α} (hopened : c.Opened files l) (h : Tracks stuck c files)
    (hends : CallEnds c l files call (c', files')) : Tracks stuck c' files' := by
  cases hends with
  | reopened found => exact tracks_of_scan found h.unremovable_iff
  | saved lt_limit ends => exact ends.tracks hopened lt_limit h

/-- What is found with the steps held goes beyond the limit as soon as it goes beyond them. -/
theorem length_le_iff_of_subset {held found : List Nat} (hheld : held.Pairwise (· < ·))
    (hfound : found.Pairwise (· < ·)) (hsub : held ⊆ found) (hlength : held.length ≤ keep)
    (hfull : ∀ s ∈ found, s ∉ held → keep ≤ held.length) :
    found.length ≤ keep ↔ found = held := by
  constructor
  · intro hfew
    refine hfound.eq_of_mem_iff hheld fun s => ⟨fun hs => ?_, fun hs => hsub hs⟩
    by_contra hlost
    have hsubperm : List.Subperm held found := List.subperm_of_subset (hheld.imp Nat.ne_of_lt) hsub
    have hperm := hsubperm.perm_of_length_le (hfew.trans (hfull s hs hlost))
    exact hlost (hperm.mem_iff.2 hs)
  · rintro rfl
    exact hlength

/-- A save that ends well where the steps found are those that were found before: what has been
dropped from memory is found again, whether or not it could be removed by now. -/
theorem Tracks.saved {after later final : Files α} (h : Tracks stuck c after)
    (hopened : c.Opened after l) (hsame : scan later c.dir = scan after c.dir)
    (hstep : step < Count.limit) (hsave : c.save params step later = (.ok path, c', final)) :
    ∃ found, scan final c.dir = .ok found ∧
      (∀ s, s ∈ found ↔ s ∈ c'.steps ∨ Unremovable later c.dir s ∨
        s ∈ stuck ∧ s ∉ c.steps ∧ s ≠ step) ∧
      (c.keep ≠ 0 → (found.length ≤ c.keep ↔ found = c'.steps)) := by
  obtain ⟨steps, hscan⟩ := exists_scan_of_directoryAt hopened.directory
  have hrecognised (s : Nat) : Recognised later c.dir s ↔ s ∈ c.steps ∨ s ∈ stuck := by
    rw [← mem_of_scan (hsame.trans hscan), mem_of_scan hscan, h.recognised_iff]
  obtain ⟨l', hdir⟩ := exists_directoryAt_of_scan (hsame.trans hscan)
  have hlater : c.Opened later l' := ⟨hdir, hopened.sorted, hopened.lt_limit⟩
  have hends := hlater.save_ends hstep params
  rw [hsave] at hends
  cases hends with
  | saved stored =>
      have hsorted := pairwise_insertStep step hopened.sorted
      have hafter := hdir.of_keepsDirectories stored.directories
      obtain ⟨found, hfound⟩ := exists_scan_of_directoryAt hafter
      have hmem (s : Nat) : s ∈ found ↔ s ∈ kept c.keep (insertStep step c.steps) ∨
          Unremovable later c.dir s ∨ s ∈ stuck ∧ s ∉ c.steps ∧ s ≠ step :=
        (mem_of_scan hfound).trans (stored.recognised_iff_kept hlater hstep hrecognised)
      refine ⟨found, hfound, hmem, fun hkeep => length_le_iff_of_subset
        (hsorted.sublist (List.drop_sublist _ _)) (pairwise_of_scan hfound)
        (fun s hs => (hmem s).2 (.inl hs)) (length_kept_le hkeep _) fun s hs hlost => ?_⟩
      refine (h.full_insertStep hopened.sorted ?_ hlost).2
      obtain hkept | hstuck | hs := (hmem s).1 hs
      · exact absurd hkept hlost
      · exact .inr ((hrecognised s).1 hstuck.recognised)
      · exact .inr (.inr hs.1)

/-- Whatever is saved, and however it ends, all steps that are held are found in the directory,
and they are all that is found exactly if every step that cannot be removed is still held. A save
whose removal fails drops such a step. From then on it is found and not held, so the next save that
ends well leaves more checkpoints than the limit, even if by then the step could be removed. -/
theorem found_steps_held_iff {c₁ : Checkpointer} {files₁ after : Files α}
    (hopen : openAt dir keep files = (.ok c₁, files₁)) {calls : List (Call α)}
    (hcalls : ∀ call ∈ calls, call.InRange) (hruns : afterCalls calls (c₁, files₁) = (c, after)) :
    (∃ found, scan after dir = .ok found ∧
      ∀ s, s ∈ found ↔ s ∈ c.steps ∨ Unremovable files₁ dir s) ∧
    (scan after dir = .ok c.steps ↔ ∀ s, Unremovable files₁ dir s → s ∈ c.steps) ∧
    (∀ params step path c' final, step < Count.limit →
      c.save params step after = (.error (.prune path), c', final) →
        ∃ s found, path = pathFor dir s ∧ Unremovable files₁ dir s ∧
          scan final dir = .ok found ∧ s ∈ found ∧ s ∉ c'.steps) ∧
    ∀ later : Files α, scan later dir = scan after dir →
      ∀ params step path c' final, step < Count.limit →
        c.save params step later = (.ok path, c', final) →
          ∃ found, scan final dir = .ok found ∧
            (∀ s, s ∈ found ↔ s ∈ c'.steps ∨ Unremovable later dir s ∨
              Unremovable files₁ dir s ∧ s ∉ c.steps ∧ s ≠ step) ∧
            (c.keep ≠ 0 → (found.length ≤ c.keep ↔ found = c'.steps)) := by
  obtain ⟨rfl, hscan, l, hstart⟩ := exists_opened_of_openAt hopen
  obtain ⟨hdir, hopened, htracks⟩ := hstart.afterCalls_induction
    (P := Tracks {s | Unremovable files₁ c₁.dir s})
    (fun _ _ _ _ _ hopened htracks hends => hends.tracks hopened htracks)
    (tracks_of_scan hscan fun _ => Iff.rfl) hcalls hruns
  rw [← hdir] at htracks ⊢
  obtain ⟨found, hfound⟩ := exists_scan_of_directoryAt hopened.directory
  have hmem (s : Nat) : s ∈ found ↔ s ∈ c.steps ∨ Unremovable files₁ c.dir s :=
    (mem_of_scan hfound).trans (htracks.recognised_iff s)
  refine ⟨⟨found, hfound, hmem⟩, ?_, ?_, ?_⟩
  · rw [hfound, Except.ok.injEq]
    constructor
    · rintro rfl s hs
      exact (hmem s).2 (.inr hs)
    · intro hheld
      exact (pairwise_of_scan hfound).eq_of_mem_iff hopened.sorted fun s =>
        (hmem s).trans (or_iff_left_of_imp (hheld s))
  · intro params step path c' final hstep hsave
    have hends := hopened.save_ends hstep params
    rw [hsave] at hends
    have hlater := hends.tracks hopened hstep htracks
    cases hends with
    | @refused gone rest s files' split dropped stored directory =>
        have hlimit : s < Count.limit :=
          hopened.lt_limit_insertStep hstep s (by simp [split])
        have hstuck : Unremovable files₁ c.dir s := (htracks.unremovable_iff s).1
          ((unremovable_iff_find? hopened.directory).2 ⟨hlimit, .inl directory⟩)
        have hlost : s ∉ rest := by
          have hsorted := pairwise_insertStep step hopened.sorted
          rw [split, List.pairwise_append, List.pairwise_cons] at hsorted
          exact fun hs => absurd (hsorted.2.1.1 s hs) (Nat.lt_irrefl s)
        have hafter := hopened.directory.of_keepsDirectories stored.directories
        obtain ⟨found, hfound⟩ := exists_scan_of_directoryAt hafter
        have hs : Recognised final c.dir s := (hlater.recognised_iff s).2 (.inr hstuck)
        exact ⟨s, found, rfl, hstuck, hfound, (mem_of_scan hfound).2 hs, hlost⟩
  · intro later hsame params step path c' final hstep hsave
    exact htracks.saved hopened hsame hstep hsave

namespace Sample

/-- A directory stands in the place of the checkpoint of step 1. -/
def blocked : Files Nat :=
  ⟨[(["runs"], .directory), (["runs", "model_00000001.bin"], .directory)], 0⟩

theorem directoryAt_blocked : blocked.DirectoryAt runs ["runs"] := ⟨rfl, rfl⟩

theorem openAt_blocked : openAt runs 1 blocked = (.ok ⟨runs, 1, [1]⟩, blocked) := by
  simp only [openAt, directoryAt_blocked.makeDirs]
  rfl

/-- The files after step 2 has been saved. -/
def dropped : Files Nat :=
  ⟨blocked.nodes ++ [(["runs", "model_00000002.bin"], .file 0 (.record (weights 2)))], 1⟩

theorem save_blocked : save ⟨runs, 1, [1]⟩ (weights 2) 2 blocked =
    (.error (.prune (pathFor runs 1)), ⟨runs, 1, [2]⟩, dropped) := by
  have hname : Path.IsName (fileName 2) := isName_fileName (by decide)
  simp only [save, pathFor, directoryAt_blocked.place_child hname]
  rfl

/-- The directory has made way for a file. -/
def cleared : Files Nat :=
  ⟨[(["runs"], .directory), (["runs", "model_00000001.bin"], .file 1 (.bytes [])),
    (["runs", "model_00000002.bin"], .file 0 (.record (weights 2)))], 2⟩

theorem directoryAt_cleared : cleared.DirectoryAt runs ["runs"] := ⟨rfl, rfl⟩

/-- The files after step 3 has been saved as well. -/
def crowded : Files Nat :=
  ⟨[(["runs"], .directory), (["runs", "model_00000001.bin"], .file 1 (.bytes [])),
    (["runs", "model_00000003.bin"], .file 2 (.record (weights 3)))], 3⟩

theorem save_cleared : save ⟨runs, 1, [2]⟩ (weights 3) 3 cleared =
    (.ok (pathFor runs 3), ⟨runs, 1, [3]⟩, crowded) := by
  have hname : Path.IsName (fileName 3) := isName_fileName (by decide)
  simp only [save, pathFor, directoryAt_cleared.place_child hname]
  rfl

end Sample

/-- The first save drops step 1, which stands in its way. The second one could remove it, and
leaves it, so there are two checkpoints where one is the limit. -/
theorem found_steps_held_iff_dropped :
    let c₁ : Checkpointer := ⟨Sample.runs, 1, [1]⟩
    let calls : List (Call Nat) := [.save (Sample.weights 2) 2]
    let c : Checkpointer := ⟨Sample.runs, 1, [2]⟩
    openAt Sample.runs 1 Sample.blocked = (.ok c₁, Sample.blocked) ∧
    (∀ call ∈ calls, call.InRange) ∧ afterCalls calls (c₁, Sample.blocked) = (c, Sample.dropped) ∧
    c₁.save (Sample.weights 2) 2 Sample.blocked =
      (.error (.prune (pathFor Sample.runs 1)), c, Sample.dropped) ∧
    (∃ s found, Unremovable Sample.blocked Sample.runs s ∧
      scan Sample.dropped Sample.runs = .ok found ∧ s ∈ found ∧ s ∉ c.steps) ∧
    scan Sample.dropped Sample.runs ≠ .ok c.steps ∧
    scan Sample.cleared Sample.runs = scan Sample.dropped Sample.runs ∧
    (∃ c', c.save (Sample.weights 3) 3 Sample.cleared =
      (.ok (pathFor Sample.runs 3), c', Sample.crowded)) ∧
    ∃ found, scan Sample.crowded Sample.runs = .ok found ∧ 1 ∈ found ∧ ¬found.length ≤ 1 := by
  intro c₁ calls c
  have hcalls : ∀ call ∈ calls, call.InRange := by
    intro call hcall
    rw [List.mem_singleton.1 hcall]
    exact (by decide : 2 < Count.limit)
  have hruns : afterCalls calls (c₁, Sample.blocked) = (c, Sample.dropped) := by
    simp only [calls, c₁, c, afterCalls, List.foldl_cons, List.foldl_nil, afterCall,
      Sample.save_blocked]
  have hstuck : Unremovable Sample.blocked Sample.runs 1 :=
    (unremovable_iff_find? Sample.directoryAt_blocked).2 ⟨by decide, .inl rfl⟩
  have hnone : ∀ call ∈ ([] : List (Call Nat)), call.InRange := List.forall_mem_nil _
  obtain ⟨-, -, hrefused, -⟩ := found_steps_held_iff Sample.openAt_blocked hnone rfl
  obtain ⟨-, hmirror, -, hsaved⟩ := found_steps_held_iff Sample.openAt_blocked hcalls hruns
  obtain ⟨s, found, -, hs, hdropped⟩ := hrefused _ _ _ _ _ (by decide) Sample.save_blocked
  have hsame : scan Sample.cleared Sample.runs = scan Sample.dropped Sample.runs := rfl
  obtain ⟨found', hfound', hmem, hlimit⟩ := hsaved _ hsame _ _ _ _ _ (by decide) Sample.save_cleared
  have hone : 1 ∈ found' := (hmem 1).2 (.inr (.inr ⟨hstuck, by decide, by decide⟩))
  refine ⟨Sample.openAt_blocked, hcalls, hruns, Sample.save_blocked, ⟨s, found, hs, hdropped⟩,
    fun hscan => ?_, hsame, ⟨_, Sample.save_cleared⟩, found', hfound', hone, fun hfew => ?_⟩
  · exact absurd (hmirror.1 hscan 1 hstuck) (by decide)
  · rw [(hlimit Nat.one_ne_zero).1 hfew] at hone
    exact absurd hone (by decide)

/-- After a save whose removal has failed, one step is held and two are found; and when the file
that was in the way can be removed, the next save leaves two although one is the limit. -/
theorem failed_removal_is_forgotten :
    openAt Sample.runs 1 Sample.blocked = (.ok ⟨Sample.runs, 1, [1]⟩, Sample.blocked) ∧
    save ⟨Sample.runs, 1, [1]⟩ (Sample.weights 2) 2 Sample.blocked =
      (.error (.prune (pathFor Sample.runs 1)), ⟨Sample.runs, 1, [2]⟩, Sample.dropped) ∧
    scan Sample.dropped Sample.runs = .ok [1, 2] ∧
    save ⟨Sample.runs, 1, [2]⟩ (Sample.weights 3) 3 Sample.cleared =
      (.ok (pathFor Sample.runs 3), ⟨Sample.runs, 1, [3]⟩, Sample.crowded) ∧
    scan Sample.crowded Sample.runs = .ok [1, 3] :=
  ⟨Sample.openAt_blocked, Sample.save_blocked, rfl, Sample.save_cleared, rfl⟩

end Checkpointer
end ActorCritic
