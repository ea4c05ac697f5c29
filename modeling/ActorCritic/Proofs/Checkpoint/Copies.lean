import ActorCritic.Proofs.Checkpoint.Calls

/-!
What a restore depends on. It reads the names that spell steps, and the file of the latest one; of
the network that it restores into, it keeps all but the parameters, and asks only for their number.
So it gives the same in a copy of the directory, whatever other files stand there, and into a
network with other weights.
-/

namespace ActorCritic
namespace Checkpointer

open Checkpoint

variable {α ι ο : Type} {c c' : Checkpointer} {dir path : Path} {l : Location}
  {files files' : Files α} {template network : Network α ι ο} {step : Nat}

/-- What is restored does not depend on the parameters that it replaces. -/
theorem restoreLatest_withParams {params : List (Param α)}
    (hlength : params.length = template.params.length) :
    c.restoreLatest { template with params := params } files = c.restoreLatest template files := by
  simp only [restoreLatest, load, hlength]

theorem load_eq_ok (h : load template path files = .ok network) :
    ∃ params, params.length = template.params.length ∧
      network = { template with params := params } := by
  unfold load at h
  split at h
  · next params _ =>
      split at h
      · cases h
      · next hlength =>
          cases h
          exact ⟨_, List.length_take_of_le (Nat.not_lt.1 hlength), rfl⟩
  · cases h

theorem restoreLatest_eq_ok (h : c.restoreLatest template files = .ok (network, step)) :
    (∃ entries, c.list files = .ok entries ∧ entries.isEmpty = false) ∧
      ∃ params, params.length = template.params.length ∧
        network = { template with params := params } := by
  obtain ⟨⟨s, path⟩, hlatest, h⟩ := Attempt.bind_eq_ok.1 h
  obtain ⟨restored, hload, h⟩ := Attempt.bind_eq_ok.1 h
  cases h
  obtain ⟨entries, hlist, hlast⟩ := Attempt.bind_eq_ok.1 hlatest
  refine ⟨⟨entries, hlist, ?_⟩, load_eq_ok hload⟩
  cases entries with
  | nil => cases hlast
  | cons entry entries => rfl

/-- The same steps are found in both, and the same is read as the checkpoint of a step. -/
structure SameCheckpoints (dir : Path) (files files' : Files α) : Prop where
  scan_eq : scan files' dir = scan files dir
  content?_eq : ∀ s, s < Count.limit →
    files'.content? (pathFor dir s) = files.content? (pathFor dir s)

/-- Changes to what is no checkpoint. -/
theorem sameCheckpoints_of_unrelated (hdir : files.DirectoryAt dir l)
    (hfile : files.isFile l = false) (hkeeps : files.KeepsDirectories files')
    (hrest : ∀ name s, stepOfName? name = some s →
      files'.find? (l ++ [name]) = files.find? (l ++ [name])) :
    SameCheckpoints dir files files' := by
  have hdir' := hdir.of_keepsDirectories hkeeps
  have hplace {s : Nat} (hs : s < Count.limit) :
      files'.find? (place l s) = files.find? (place l s) :=
    hrest _ s (stepOfName?_fileName hs)
  refine ⟨?_, fun s hs => ?_⟩
  · obtain ⟨steps, hscan⟩ := exists_scan_of_directoryAt hdir
    obtain ⟨steps', hscan'⟩ := exists_scan_of_directoryAt hdir'
    rw [hscan, hscan']
    refine congrArg Except.ok <| (pairwise_of_scan hscan').eq_of_mem_iff (pairwise_of_scan hscan)
      fun s => ?_
    obtain ⟨names, hnames⟩ := hdir.exists_names?
    obtain ⟨names', hnames'⟩ := hdir'.exists_names?
    rw [mem_of_scan hscan', mem_of_scan hscan, recognised_iff hnames', recognised_iff hnames]
    refine exists_congr fun name => and_congr_left fun hname => ?_
    rw [hdir'.mem_names? hnames', hdir.mem_names? hnames, hrest name s hname]
  · rw [pathFor, hdir.content?_child (isName_fileName hs) hfile,
      hdir'.content?_child (isName_fileName hs) ((hkeeps l hdir.directory).2.trans hfile)]
    exact congrArg (Option.bind · FileNode.content?) (hplace hs)

theorem SameCheckpoints.restoreLatest_eq (h : SameCheckpoints c.dir files files')
    (hdir : c'.dir = c.dir) :
    c'.restoreLatest template files' = c.restoreLatest template files := by
  have hlatest : c'.latest files' = c.latest files := by
    simp only [latest, list, hdir, h.scan_eq]
  rw [restoreLatest, restoreLatest, hlatest]
  refine Attempt.bind_congr fun entry hfound => ?_
  obtain ⟨s, path⟩ := entry
  obtain ⟨rfl, hrecognised⟩ := latest_eq_ok hfound
  have hlimit := hrecognised.lt_limit
  simp only [load, withExtension_pathFor c.dir hlimit, h.content?_eq s hlimit]

end Checkpointer
end ActorCritic
