import Mathlib.Data.List.Sort
import ActorCritic.Proofs.Checkpoint.Save

/-!
A checkpointer and its directory. What a checkpointer has in memory is the list of the steps whose
files stand in the directory, in increasing order. Opening the directory reads the list off the
names, and saving writes the file of one step and removes those of the smallest steps, so the list
and the directory stay together.
-/

namespace ActorCritic
namespace Checkpointer

open Checkpoint

variable {α : Type} {c c' : Checkpointer} {dir path : Path} {l : Location}
  {files files' : Files α} {steps : List Nat} {step keep : Nat} {params : List (Param α)}

theorem scan_eq_ok :
    scan files dir = .ok steps ↔
      ∃ names, files.names? dir = some names ∧
        (names.filterMap stepOfName?).foldr insertStep [] = steps := by
  unfold scan
  split
  · next hnames => simp [hnames]
  · next names hnames => simp [hnames]

/-- The steps in memory are those in the directory at `l`, and no checkpoint in the directory has
another name than the one it would be given. -/
structure Mirrors (c : Checkpointer) (files : Files α) (l : Location) : Prop where
  directory : files.DirectoryAt c.dir l
  sorted : c.steps.Pairwise (· < ·)
  mem_steps : ∀ s, s ∈ c.steps ↔ s < Count.limit ∧ files.find? (place l s) ≠ none
  named : ∀ name s, files.find? (l ++ [name]) ≠ none → stepOfName? name = some s →
    name = fileName s

/-- Every entry of the directory that is read as a checkpoint has the name of its step. -/
def WellNamed (files : Files α) (dir : Path) : Prop :=
  ∀ names, files.names? dir = some names →
    ∀ name ∈ names, ∀ s, stepOfName? name = some s → name = fileName s

theorem mem_filterMap_stepOfName? (hdir : files.DirectoryAt dir l) {names : List String}
    (hnames : files.names? dir = some names)
    (hnamed : ∀ name s, files.find? (l ++ [name]) ≠ none → stepOfName? name = some s →
      name = fileName s) {s : Nat} :
    s ∈ names.filterMap stepOfName? ↔ s < Count.limit ∧ files.find? (place l s) ≠ none := by
  rw [List.mem_filterMap]
  constructor
  · rintro ⟨name, hname, hs⟩
    have hthere := (hdir.mem_names? hnames).1 hname
    rw [hnamed name s hthere hs] at hthere
    exact ⟨lt_of_stepOfName? hs, hthere⟩
  · rintro ⟨hs, hthere⟩
    exact ⟨fileName s, (hdir.mem_names? hnames).2 hthere, stepOfName?_fileName hs⟩

theorem exists_mirrors_of_scan (hscan : scan files c.dir = .ok c.steps)
    (hnamed : WellNamed files c.dir) : ∃ l, c.Mirrors files l := by
  obtain ⟨names, hnames, hsteps⟩ := scan_eq_ok.1 hscan
  obtain ⟨l, hdir⟩ := FileTree.exists_directoryAt hnames
  have howned : ∀ name s, files.find? (l ++ [name]) ≠ none → stepOfName? name = some s →
      name = fileName s := fun name s hname =>
    hnamed names hnames name ((hdir.mem_names? hnames).2 hname) s
  refine ⟨l, hdir, hsteps ▸ pairwise_foldr_insertStep _, fun s => ?_, howned⟩
  rw [← hsteps, mem_foldr_insertStep, mem_filterMap_stepOfName? hdir hnames howned]

theorem openAt_eq_ok (hopen : openAt dir keep files = (.ok c, files')) :
    c.dir = dir ∧ c.keep = keep ∧ scan files' dir = .ok c.steps := by
  unfold openAt at hopen
  split at hopen
  next there made hmake =>
    split at hopen
    · obtain ⟨hscan, rfl⟩ := Prod.mk.inj hopen
      cases hsteps : scan made dir with
      | error e =>
          rw [hsteps] at hscan
          cases hscan
      | ok steps =>
          rw [hsteps] at hscan
          cases hscan
          exact ⟨rfl, rfl, rfl⟩
    · cases (Prod.mk.inj hopen).1

theorem exists_mirrors_of_openAt (hopen : openAt dir keep files = (.ok c, files'))
    (hnamed : WellNamed files' dir) : c.dir = dir ∧ c.keep = keep ∧ ∃ l, c.Mirrors files' l := by
  obtain ⟨rfl, rfl, hscan⟩ := openAt_eq_ok hopen
  exact ⟨rfl, rfl, exists_mirrors_of_scan hscan hnamed⟩

namespace Mirrors

variable (h : c.Mirrors files l)
include h

theorem lt_limit {s : Nat} (hs : s ∈ c.steps) : s < Count.limit := ((h.mem_steps s).1 hs).1

theorem scan_eq : scan files c.dir = .ok c.steps := by
  obtain ⟨names, hnames⟩ := h.directory.exists_names?
  refine scan_eq_ok.2 ⟨names, hnames, ?_⟩
  refine (pairwise_foldr_insertStep _).eq_of_mem_iff h.sorted fun s => ?_
  rw [mem_foldr_insertStep, mem_filterMap_stepOfName? h.directory hnames h.named, h.mem_steps]

theorem list_eq : c.list files = .ok (c.steps.map fun s => (s, pathFor c.dir s)) := by
  rw [list, h.scan_eq]
  rfl

theorem latest_eq_empty (hsteps : c.steps = []) : c.latest files = .error (.empty c.dir) := by
  rw [latest, h.list_eq, Attempt.ok_bind, hsteps]
  rfl

theorem latest_eq {s : Nat} (hs : s ∈ c.steps) (hlargest : ∀ r ∈ c.steps, r ≤ s) :
    c.latest files = .ok (s, pathFor c.dir s) := by
  have hlast : c.steps.getLast? = some s := by
    obtain ⟨before, after, hsteps⟩ := List.append_of_mem hs
    have hsorted := h.sorted
    rw [hsteps] at hsorted hlargest ⊢
    cases after with
    | nil => exact List.getLast?_concat
    | cons r after =>
        have hlt : s < r :=
          (List.pairwise_cons.1 (List.pairwise_append.1 hsorted).2.1).1 r List.mem_cons_self
        exact absurd hlt (Nat.not_lt.2 (hlargest r (by simp)))
  rw [latest, h.list_eq, Attempt.ok_bind, List.getLast?_map, hlast]
  rfl

theorem openAt_eq (keep : Nat) :
    openAt c.dir keep files = (.ok ⟨c.dir, keep, c.steps⟩, files) := by
  simp only [openAt, h.directory.makeDirs, if_true, h.scan_eq]
  rfl

theorem reopened (keep : Nat) : (⟨c.dir, keep, c.steps⟩ : Checkpointer).Mirrors files l :=
  ⟨h.directory, h.sorted, h.mem_steps, h.named⟩

/-- Changes to what is no checkpoint. -/
theorem of_unrelated (hkeeps : files.KeepsDirectories files')
    (hrest : ∀ name s, stepOfName? name = some s →
      (files'.find? (l ++ [name]) ≠ none ↔ files.find? (l ++ [name]) ≠ none)) :
    c.Mirrors files' l where
  directory := h.directory.of_keepsDirectories hkeeps
  sorted := h.sorted
  mem_steps s := by
    rw [h.mem_steps]
    exact and_congr_right fun hs => (hrest _ s (stepOfName?_fileName hs)).symm
  named name s hthere hs := h.named name s ((hrest name s hs).1 hthere) hs

theorem isFile_of_keepsDirectories (hkeeps : files.KeepsDirectories files') :
    files'.isFile l = files.isFile l :=
  (hkeeps l h.directory.directory).2

theorem content?_pathFor (hfile : files.isFile l = false) {s : Nat} (hs : s < Count.limit) :
    files.content? (pathFor c.dir s) = (files.find? (place l s)).bind FileNode.content? :=
  h.directory.content?_child (isName_fileName hs) hfile

theorem opened : c.Opened files l := ⟨h.directory, h.sorted, fun _ hs => h.lt_limit hs⟩

theorem stored (hstep : step < Count.limit)
    (hstored : Stored l params step (removed c.keep (insertStep step c.steps)) files files') :
    ({ c with steps := kept c.keep (insertStep step c.steps) } : Checkpointer).Mirrors files'
      l := by
  have hsorted := pairwise_insertStep step h.sorted
  have hgone := h.opened.lt_limit_removed hstep
  refine ⟨h.directory.of_keepsDirectories hstored.directories,
    hsorted.sublist (List.drop_sublist _ _), fun s => ?_, fun name s hthere hs => ?_⟩
  · rw [mem_kept_iff_not_mem_removed hsorted]
    by_cases hs : s < Count.limit
    · obtain ⟨id, hfind⟩ := hstored.find?_place hstep hgone hs
      rw [hfind, mem_insertStep, h.mem_steps]
      split
      · next hremoved => simp [hremoved]
      · next hstays =>
          split
          · next heq => exact iff_of_true ⟨.inl heq, hstays⟩ ⟨hs, Option.some_ne_none _⟩
          · next hne => simp [hs, hstays, hne]
    · have hinsert : s ∉ insertStep step c.steps :=
        fun hmem => hs (h.opened.lt_limit_insertStep hstep s hmem)
      exact iff_of_false (fun hmem => hinsert hmem.1) fun hthere => hs hthere.1
  · by_contra hother
    rw [hstored.find?_of_spelled hstep hgone hother hs] at hthere
    exact hother (h.named name s hthere hs)

/-- A save that ends well adds its step, drops the smallest ones and keeps what else is there. -/
theorem saved (hstep : step < Count.limit)
    (hsave : c.save params step files = (.ok path, c', files')) :
    path = pathFor c.dir step ∧
      c' = { c with steps := kept c.keep (insertStep step c.steps) } ∧ c'.Mirrors files' l ∧
        (∀ s ∈ c'.steps, files'.content? (pathFor c.dir s) =
          if s = step then some (.record params) else files.content? (pathFor c.dir s)) ∧
        ∀ m, (∀ s, s < Count.limit → m ≠ place l s) → files'.find? m = files.find? m := by
  have hends := h.opened.save_ends hstep params
  rw [hsave] at hends
  cases hends with
  | saved stored =>
      have hmirrors := h.stored hstep stored
      have hgone := h.opened.lt_limit_removed hstep
      refine ⟨rfl, rfl, hmirrors, fun s hs => ?_, fun m => stored.find?_of_ne hstep hgone⟩
      have hlimit := hmirrors.lt_limit hs
      have hstays : s ∉ removed c.keep (insertStep step c.steps) :=
        ((mem_kept_iff_not_mem_removed (pairwise_insertStep step h.sorted)).1 hs).2
      obtain ⟨id, hfind⟩ := stored.find?_place hstep hgone hlimit
      have hcontent := hmirrors.content?_pathFor (stored.isFile_eq_false h.directory) hlimit
      rw [hcontent, h.content?_pathFor stored.notFile hlimit, hfind, if_neg hstays]
      split
      · rfl
      · rfl

end Mirrors

theorem load_pathFor {ι ο : Type} (template : Network α ι ο) (hstep : step < Count.limit)
    (hcontent : files.content? (pathFor dir step) = some (.record params))
    (hlength : template.params.length = params.length) :
    load template (pathFor dir step) files = .ok { template with params := params } := by
  unfold load
  rw [withExtension_pathFor dir hstep, hcontent]
  dsimp only
  rw [if_neg (by omega), hlength, List.take_length]

end Checkpointer
end ActorCritic
