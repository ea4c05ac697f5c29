import Mathlib.Tactic.SplitIfs
import ActorCritic.FileTree
import ActorCritic.Proofs.Attempt

/-!
Directories and what stands in them. A path that leads to a directory leads there as long as no
directory is touched, and the paths of the entries of the directory lead to the locations right
below it. So whatever is done to files in a directory can be told location by location.
-/

namespace ActorCritic

namespace Path

/-- A text that names an entry of a directory where it is a part of a path. -/
structure IsName (name : String) : Prop where
  notIdle : isIdle name = false
  notParent : name ≠ ".."
  short : name.utf8ByteSize ≤ FileTree.nameLimit
  noNul : name.toList.contains '\x00' = false

theorem parts_child (p : Path) (name : String) :
    (p.child name).parts =
      (if p.parts.getLast? = some "" then p.parts.dropLast else p.parts) ++ [name] := by
  simp only [child, join, isAbsolute]
  split
  · next h => simp at h
  · split <;> rfl

theorem parts_eq_trimmed_append (p : Path) :
    ∃ idle, p.parts = p.trimmed.parts ++ idle ∧ ∀ part ∈ idle, isIdle part = true := by
  refine ⟨(p.parts.reverse.takeWhile isIdle).reverse, ?_, ?_⟩
  · rw [trimmed, ← List.reverse_append, List.takeWhile_append_dropWhile, List.reverse_reverse]
  · intro part hpart
    exact List.all_eq_true.1 List.all_takeWhile part (List.mem_reverse.1 hpart)

theorem trimmed_snoc_idle (parts : List String) {part : String} (h : isIdle part = true) :
    trimmed ⟨parts ++ [part]⟩ = trimmed ⟨parts⟩ := by
  simp only [trimmed, List.reverse_append, List.reverse_singleton, List.singleton_append,
    List.dropWhile_cons, h, if_true]

theorem trimmed_snoc_name (parts : List String) {name : String} (h : isIdle name = false) :
    trimmed ⟨parts ++ [name]⟩ = ⟨parts ++ [name]⟩ := by
  simp [trimmed, h]

theorem trimmed_child (p : Path) {name : String} (h : isIdle name = false) :
    (p.child name).trimmed = p.child name := by
  obtain ⟨parts, hparts⟩ : ∃ parts, p.child name = ⟨parts ++ [name]⟩ :=
    ⟨_, congrArg Path.mk (parts_child p name)⟩
  rw [hparts]
  exact trimmed_snoc_name parts h

theorem parent?_child (p : Path) {name : String} (h : isIdle name = false) :
    (p.child name).parent? = some p.trimmed := by
  rw [parent?, trimmed_child p h, parts_child, List.dropLast_concat, if_neg (by simp)]
  -- A slash at the end of the path is idle, so it does not matter that it is not doubled.
  split
  · next hslash =>
      obtain ⟨parts, hparts⟩ := List.getLast?_eq_some_iff.1 hslash
      have hp : p = ⟨parts ++ [""]⟩ := congrArg Path.mk hparts
      rw [hparts, List.dropLast_concat, hp, trimmed_snoc_idle parts rfl]
  · rfl

end Path

/-- What a file holds. -/
def FileNode.content? {κ : Type} : FileNode κ → Option κ
  | .directory => none
  | .file _ content => some content

namespace FileTree

variable {κ : Type} {t t' : FileTree κ}

theorem follow_eq_ok {p : Path} {l : Location} :
    t.follow p = .ok l ↔
      (∀ part ∈ p.parts, part.toList.contains '\x00' = false) ∧
        t.followFrom [] p.parts = .ok l := by
  unfold follow
  split
  · next h =>
      obtain ⟨part, hpart, hnul⟩ := List.any_eq_true.1 h
      refine ⟨nofun, fun ⟨hnone, _⟩ => ?_⟩
      rw [hnone part hpart] at hnul
      cases hnul
  · next h =>
      have hnone : ∀ part ∈ p.parts, part.toList.contains '\x00' = false := by simpa using h
      exact ⟨fun hl => ⟨hnone, hl⟩, fun hl => hl.2⟩

theorem followFrom_append (l : Location) (ps qs : List String) :
    t.followFrom l (ps ++ qs) = t.followFrom l ps >>= fun m => t.followFrom m qs := by
  induction ps generalizing l with
  | nil => rfl
  | cons part ps ih =>
      simp only [List.cons_append, followFrom]
      split
      · rfl
      split
      · exact ih l
      split
      · rfl
      split
      · exact ih l
      split
      · exact ih l.dropLast
      split
      · rfl
      · exact ih (l ++ [part])

theorem followFrom_idle {l m : Location} {parts : List String}
    (hidle : ∀ part ∈ parts, Path.isIdle part = true) (h : t.followFrom l parts = .ok m) :
    l = m := by
  induction parts with
  | nil => exact Except.ok.inj h
  | cons part parts ih =>
      have hpart : part = "" ∨ part = "." := by
        simpa [Path.isIdle] using hidle part List.mem_cons_self
      have hrest := ih fun q hq => hidle q (List.mem_cons_of_mem part hq)
      simp only [followFrom] at h
      split at h
      · cases h
      obtain rfl | rfl := hpart
      · exact hrest h
      · rw [if_neg (by decide)] at h
        split at h
        · cases h
        · exact hrest h

/-- Only directories lie on the way to a directory. -/
theorem isDirectory_of_followFrom {l m : Location} {parts : List String}
    (h : t.followFrom l parts = .ok m) (hm : t.isDirectory m = true) : t.isDirectory l = true := by
  induction parts with
  | nil => exact Except.ok.inj h ▸ hm
  | cons part parts ih =>
      simp only [followFrom] at h
      split at h
      · cases h
      split at h
      · exact ih h
      split at h
      · cases h
      · next hdirectory => simpa using hdirectory

/-- The directories of the first tree stand in the second one as well, and no file takes the place
of one. -/
def KeepsDirectories (t t' : FileTree κ) : Prop :=
  ∀ l, t.isDirectory l = true → t'.isDirectory l = true ∧ t'.isFile l = t.isFile l

theorem KeepsDirectories.refl (t : FileTree κ) : t.KeepsDirectories t := fun _ hl => ⟨hl, rfl⟩

theorem KeepsDirectories.trans {t'' : FileTree κ} (h : t.KeepsDirectories t')
    (h' : t'.KeepsDirectories t'') : t.KeepsDirectories t'' := by
  intro l hl
  obtain ⟨hdirectory, hfile⟩ := h l hl
  obtain ⟨hdirectory', hfile'⟩ := h' l hdirectory
  exact ⟨hdirectory', hfile'.trans hfile⟩

/-- A change at one location that is no directory. -/
theorem keepsDirectories_of_change {l : Location} (hl : t.isDirectory l = false)
    (h : ∀ m, m ≠ l → t'.find? m = t.find? m) : t.KeepsDirectories t' := by
  intro m hm
  have hsame : t'.find? m = t.find? m := h m (by rintro rfl; rw [hl] at hm; cases hm)
  rw [isDirectory, isFile, hsame]
  exact ⟨hm, rfl⟩

theorem followFrom_of_keepsDirectories (hkeeps : t.KeepsDirectories t') {l m : Location}
    {parts : List String} (h : t.followFrom l parts = .ok m) (hm : t.isDirectory m = true) :
    t'.followFrom l parts = .ok m := by
  induction parts generalizing l with
  | nil => exact h
  | cons part parts ih =>
      have hl := isDirectory_of_followFrom h hm
      obtain ⟨hstays, hfile⟩ := hkeeps l hl
      simp only [followFrom, hfile, hl, hstays, Bool.not_true, Bool.false_eq_true,
        if_false] at h ⊢
      -- Both trees are asked the same at this part of the path.
      split_ifs at h ⊢
      · exact ih h
      · exact ih h
      · exact ih h
      · exact ih h

theorem find?_revise (t : FileTree κ) (id : Nat) (f : κ → κ) (l : Location) :
    (t.revise id f).find? l = (t.find? l).map fun node =>
      match node with
      | .directory => .directory
      | .file i content => .file i (if i = id then f content else content) := by
  obtain ⟨nodes, made⟩ := t
  simp only [find?, revise]
  induction nodes with
  | nil => rfl
  | cons node nodes ih =>
      obtain ⟨m, node⟩ := node
      by_cases hl : (l == m) = true
      · cases node <;> simp [List.lookup_cons, hl]
      · cases node <;> simpa [List.lookup_cons, hl] using ih

@[simp] theorem isDirectory_revise (t : FileTree κ) (id : Nat) (f : κ → κ) (l : Location) :
    (t.revise id f).isDirectory l = t.isDirectory l := by
  unfold isDirectory
  rw [find?_revise]
  match t.find? l with
  | none => rfl
  | some .directory => rfl
  | some (.file _ _) => rfl

@[simp] theorem isFile_revise (t : FileTree κ) (id : Nat) (f : κ → κ) (l : Location) :
    (t.revise id f).isFile l = t.isFile l := by
  unfold isFile
  rw [find?_revise]
  match t.find? l with
  | none => rfl
  | some .directory => rfl
  | some (.file _ _) => rfl

theorem keepsDirectories_revise (t : FileTree κ) (id : Nat) (f : κ → κ) :
    t.KeepsDirectories (t.revise id f) := fun l hl =>
  ⟨(isDirectory_revise t id f l).trans hl, isFile_revise t id f l⟩

theorem follow_revise (t : FileTree κ) (id : Nat) (f : κ → κ) (p : Path) :
    (t.revise id f).follow p = t.follow p := by
  have hfrom (l : Location) (parts : List String) :
      (t.revise id f).followFrom l parts = t.followFrom l parts := by
    induction parts generalizing l with
    | nil => rfl
    | cons part parts ih => simp only [followFrom, isFile_revise, isDirectory_revise, ih]
  rw [follow, follow, hfrom]

/-- A path whose last part names something leads to the same place as long as no directory goes. -/
theorem follow_of_keepsDirectories (hkeeps : t.KeepsDirectories t') {p : Path} {l : Location}
    (hlast : p.parts.getLast? ≠ some "") (h : t.follow p = .ok l) : t'.follow p = .ok l := by
  obtain ⟨hnul, hfollow⟩ := follow_eq_ok.1 h
  refine follow_eq_ok.2 ⟨hnul, ?_⟩
  obtain hnone | ⟨parts, last, hparts⟩ := List.eq_nil_or_concat p.parts
  · rw [hnone] at hfollow ⊢
    exact hfollow
  · rw [List.concat_eq_append] at hparts
    have hne : last ≠ "" := by
      rintro rfl
      exact hlast (by rw [hparts, List.getLast?_concat])
    rw [hparts, followFrom_append] at hfollow ⊢
    obtain ⟨m, hm, hrest⟩ := Attempt.bind_eq_ok.1 hfollow
    have hdirectory : t.isDirectory m = true := by
      refine Bool.of_not_eq_false fun hnot => ?_
      simp only [followFrom, hne, hnot, if_false, Bool.not_false, if_true] at hrest
      split at hrest <;> cases hrest
    obtain ⟨hstays, hfile⟩ := hkeeps m hdirectory
    refine Attempt.bind_eq_ok.2 ⟨m, followFrom_of_keepsDirectories hkeeps hm hdirectory, ?_⟩
    simpa only [followFrom, hfile, hstays, hdirectory] using hrest

theorem write?_eq_some {p : Path} {content : κ} {id : Nat}
    (hwrite : t.write? p content = some (id, t')) :
    ∃ l, t.follow p = .ok l ∧ t.isDirectory l = false ∧ p.parts.getLast? ≠ some "" ∧
      t'.find? l = some (.file id content) ∧ ∀ m, m ≠ l → t'.find? m = t.find? m := by
  unfold write? at hwrite
  split at hwrite
  · cases hwrite
  next l hl =>
    split at hwrite
    · cases hwrite
    next hplace =>
      simp only [Bool.or_eq_true, not_or, Bool.not_eq_true, decide_eq_true_eq] at hplace
      refine ⟨l, hl, hplace.1, hplace.2, ?_⟩
      split at hwrite <;> cases hwrite
      · exact ⟨find?_insert_self t l _, fun m hm => find?_insert_of_ne t hm _⟩
      · exact ⟨find?_insert_self t l _, fun m hm => find?_insert_of_ne t hm _⟩

/-- The path leads to the file that was written. -/
theorem follow_of_write? {p : Path} {content : κ} {id : Nat}
    (hwrite : t.write? p content = some (id, t')) :
    ∃ l, t'.follow p = .ok l ∧ t'.find? l = some (.file id content) := by
  obtain ⟨l, hl, hdirectory, hlast, hfile, hrest⟩ := write?_eq_some hwrite
  have hkeeps : t.KeepsDirectories t' := keepsDirectories_of_change hdirectory hrest
  exact ⟨l, follow_of_keepsDirectories hkeeps hlast hl, hfile⟩

/-- The path leads to a directory, which is at the location. -/
structure DirectoryAt (t : FileTree κ) (p : Path) (l : Location) : Prop where
  follow : t.follow p = .ok l
  directory : t.isDirectory l = true

theorem DirectoryAt.of_keepsDirectories {p : Path} {l : Location} (h : t.DirectoryAt p l)
    (hkeeps : t.KeepsDirectories t') : t'.DirectoryAt p l := by
  obtain ⟨hnul, hfollow⟩ := follow_eq_ok.1 h.follow
  refine ⟨follow_eq_ok.2 ⟨hnul, ?_⟩, (hkeeps l h.directory).1⟩
  exact followFrom_of_keepsDirectories hkeeps hfollow h.directory

theorem exists_directoryAt {p : Path} {names : List String} (h : t.names? p = some names) :
    ∃ l, t.DirectoryAt p l := by
  unfold names? at h
  split at h
  · cases h
  · next l hl =>
      split at h
      · next hdirectory => exact ⟨l, hl, hdirectory⟩
      · cases h

theorem DirectoryAt.exists_names? {p : Path} {l : Location} (h : t.DirectoryAt p l) :
    ∃ names, t.names? p = some names := by
  simp only [names?, h.follow, h.directory, if_true]
  exact ⟨_, rfl⟩

theorem isDirectory_eq_false_of_isFile {l : Location} (hl : l ≠ []) (h : t.isFile l = true) :
    t.isDirectory l = false := by
  unfold isFile at h
  split at h
  · next hnode =>
      rw [isDirectory, hnode]
      simp [hl]
  · cases h

theorem isDirectory_iff {l : Location} (hl : l ≠ []) :
    t.isDirectory l = true ↔ t.find? l = some .directory := by
  rw [isDirectory, List.isEmpty_eq_false_iff.2 hl, Bool.false_or]
  split
  · next hnode => simp [hnode]
  · next hnode => exact ⟨nofun, fun h => absurd h hnode⟩

theorem find?_eq_none_of_neither {l : Location} (hfile : t.isFile l = false)
    (hdirectory : t.isDirectory l = false) : t.find? l = none := by
  cases hnode : t.find? l with
  | none => rfl
  | some node =>
      cases node with
      | directory => simp [isDirectory, hnode] at hdirectory
      | file id content => simp [isFile, hnode] at hfile

theorem find?_ne_none_iff {l : Location} : t.find? l ≠ none ↔ ∃ node, (l, node) ∈ t.nodes := by
  rw [← Option.isSome_iff_ne_none, find?, List.lookup_isSome_iff]
  constructor
  · rintro ⟨⟨m, node⟩, hnode, hl⟩
    obtain rfl : l = m := by simpa using hl
    exact ⟨node, hnode⟩
  · rintro ⟨node, hnode⟩
    exact ⟨_, hnode, by simp⟩

section DirectoryAt

variable {p : Path} {l : Location} (h : t.DirectoryAt p l)
include h

theorem DirectoryAt.mem_names? {names : List String} (hnames : t.names? p = some names)
    {name : String} : name ∈ names ↔ t.find? (l ++ [name]) ≠ none := by
  simp only [names?, h.follow, h.directory, if_true, Option.some.injEq] at hnames
  subst hnames
  rw [find?_ne_none_iff, List.mem_filterMap]
  constructor
  · rintro ⟨⟨m, node⟩, hnode, hm⟩
    split at hm
    · next hbelow =>
        obtain ⟨parent, rfl⟩ := List.getLast?_eq_some_iff.1 hm
        rw [List.dropLast_concat] at hbelow
        exact ⟨node, hbelow.1 ▸ hnode⟩
    · cases hm
  · rintro ⟨node, hnode⟩
    exact ⟨_, hnode, by simp⟩

theorem DirectoryAt.makeDirs : t.makeDirs p = (true, t) := by
  have hoccupied : t.makeDir p = .error .occupied := by
    simp only [makeDir, h.follow, h.directory, Attempt.ok_bind, Bool.true_or, if_true]
    rfl
  have hthere : t.isDirectoryAt p = true := by
    simp only [isDirectoryAt, h.follow]
    exact h.directory
  rw [FileTree.makeDirs, hoccupied]
  exact Prod.ext hthere rfl

theorem DirectoryAt.trimmed : t.DirectoryAt p.trimmed l := by
  obtain ⟨idle, hparts, hidle⟩ := p.parts_eq_trimmed_append
  obtain ⟨hnul, hfollow⟩ := follow_eq_ok.1 h.follow
  rw [hparts] at hnul hfollow
  rw [followFrom_append] at hfollow
  obtain ⟨m, hm, hrest⟩ := Attempt.bind_eq_ok.1 hfollow
  obtain rfl := followFrom_idle hidle hrest
  exact ⟨follow_eq_ok.2 ⟨fun part hpart => hnul part (List.mem_append_left _ hpart), hm⟩,
    h.directory⟩

/-- The path without the slash that it may end in. -/
theorem DirectoryAt.followFrom_base :
    t.followFrom [] (if p.parts.getLast? = some "" then p.parts.dropLast else p.parts) = .ok l := by
  obtain ⟨-, hfollow⟩ := follow_eq_ok.1 h.follow
  split
  · next hslash =>
      obtain ⟨parts, hparts⟩ := List.getLast?_eq_some_iff.1 hslash
      rw [hparts, followFrom_append] at hfollow
      obtain ⟨m, hm, hrest⟩ := Attempt.bind_eq_ok.1 hfollow
      obtain rfl := followFrom_idle (by simp [Path.isIdle]) hrest
      rw [hparts, List.dropLast_concat, hm]
  · exact hfollow

variable {name : String} (hname : Path.IsName name)
include hname

theorem DirectoryAt.follow_child :
    t.follow (p.child name) = if t.isFile l then .error .blocked else .ok (l ++ [name]) := by
  obtain ⟨hnul, -⟩ := follow_eq_ok.1 h.follow
  have hparts := p.parts_child name
  have hclean : ¬ (p.child name).parts.any (fun part => part.toList.contains '\x00') = true := by
    rw [List.any_eq_true]
    rintro ⟨part, hpart, hpartNul⟩
    rw [hparts] at hpart
    obtain hpart | hpart := List.mem_append.1 hpart
    · have hmem : part ∈ p.parts := by
        split at hpart
        · exact List.dropLast_subset _ hpart
        · exact hpart
      exact absurd hpartNul (by rw [hnul part hmem]; decide)
    · obtain rfl := List.mem_singleton.1 hpart
      exact absurd hpartNul (by rw [hname.noNul]; decide)
  have hidle : name ≠ "" ∧ name ≠ "." := by simpa [Path.isIdle] using hname.notIdle
  rw [FileTree.follow, if_neg hclean, hparts, followFrom_append, h.followFrom_base, Attempt.ok_bind]
  simp [followFrom, hidle.1, hidle.2, hname.notParent, h.directory, Nat.not_lt.2 hname.short]

/-- Where an entry is reached, no file stands in the place of the directory. -/
theorem DirectoryAt.isFile_eq_false {m : Location} (hm : t.follow (p.child name) = .ok m) :
    t.isFile l = false ∧ m = l ++ [name] := by
  rw [h.follow_child hname] at hm
  split at hm
  · cases hm
  · next hfile => exact ⟨by simpa using hfile, (Except.ok.inj hm).symm⟩

theorem DirectoryAt.content?_child_of_absent (habsent : t.find? (l ++ [name]) = none) :
    t.content? (p.child name) = none := by
  rw [content?, h.follow_child hname]
  split
  · rfl
  · next m hm =>
      split at hm
      · cases hm
      · rw [← Except.ok.inj hm, habsent]

theorem DirectoryAt.write?_child {content : κ} {id : Nat}
    (hwrite : t.write? (p.child name) content = some (id, t')) :
    t.isFile l = false ∧ t.isDirectory (l ++ [name]) = false ∧
      t'.find? (l ++ [name]) = some (.file id content) ∧
      ∀ m, m ≠ l ++ [name] → t'.find? m = t.find? m := by
  obtain ⟨m, hm, hdirectory, -, hthere⟩ := write?_eq_some hwrite
  obtain ⟨hfile, rfl⟩ := h.isFile_eq_false hname hm
  exact ⟨hfile, hdirectory, hthere⟩

theorem DirectoryAt.place_child (content : κ) :
    t.place (p.child name) content =
      (t.write? (p.child name) content).elim (false, t) fun written => (true, written.2) := by
  unfold place
  rw [Path.parent?_child p hname.notIdle, Option.elim_some, h.trimmed.makeDirs]
  dsimp only
  split
  · next hwrite => rw [hwrite, Option.elim_some]
  · next hwrite => rw [hwrite, Option.elim_none]

variable (hfile : t.isFile l = false)
include hfile

theorem DirectoryAt.exists_write?_child (hdirectory : t.isDirectory (l ++ [name]) = false)
    (content : κ) : ∃ id t', t.write? (p.child name) content = some (id, t') := by
  have hlast : (p.child name).parts.getLast? ≠ some "" := by
    rw [p.parts_child name, List.getLast?_concat]
    rintro hempty
    have hnotIdle := hname.notIdle
    rw [Option.some.inj hempty] at hnotIdle
    cases hnotIdle
  simp only [write?, h.follow_child hname, hfile, Bool.false_eq_true, if_false, hdirectory, hlast,
    decide_false, Bool.or_self]
  split <;> exact ⟨_, _, rfl⟩

theorem DirectoryAt.removeFile_child :
    t.removeFile (p.child name) =
      if t.isFile (l ++ [name]) then .removed (t.erase (l ++ [name]))
      else if t.isDirectory (l ++ [name]) then .refused
      else .missing := by
  simp [removeFile, h.follow_child hname, hfile]

theorem DirectoryAt.content?_child :
    t.content? (p.child name) = (t.find? (l ++ [name])).bind FileNode.content? := by
  simp only [content?, h.follow_child hname, hfile, Bool.false_eq_true, if_false]
  match t.find? (l ++ [name]) with
  | none => rfl
  | some .directory => rfl
  | some (.file _ _) => rfl

end DirectoryAt

end FileTree
end ActorCritic
