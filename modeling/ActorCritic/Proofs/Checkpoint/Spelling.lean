import ActorCritic.Proofs.Checkpoint.Directory

/-!
Which names are read as checkpoints, and which paths are told for them. A step is read from every
spelling of it, with a plus sign or with zeros in front, while the path that is told is always that
of the step's own file. So a told path leads to an entry exactly where the directory has an entry
of the step's own name, and a restore may look for a file that was never there.
-/

namespace ActorCritic

namespace Checkpoint

variable {name : String} {cs ds sign : List Char} {step : Nat}

/-- A name like that of a checkpoint, with digits in the place of the step and perhaps a sign. -/
structure Spelled (name : String) (sign ds : List Char) : Prop where
  sign_eq : sign = [] ∨ sign = ['+']
  ne_nil : ds ≠ []
  isDigit : ∀ c ∈ ds, c.isDigit = true
  toList_eq : name.toList = fileStart ++ (sign ++ ds ++ fileEnd)

theorem dropStart?_eq_some {start rest : List Char} :
    dropStart? start cs = some rest ↔ cs = start ++ rest := by
  constructor
  · intro h
    induction start generalizing cs with
    | nil => exact Option.some.inj h
    | cons a start ih =>
        cases cs with
        | nil => cases h
        | cons c cs =>
            simp only [dropStart?] at h
            split at h
            · next hac => rw [hac, ih h, List.cons_append]
            · cases h
  · rintro rfl
    exact dropStart?_append start rest

theorem dropEnd?_eq_some {ending rest : List Char} :
    dropEnd? ending cs = some rest ↔ cs = rest ++ ending := by
  constructor
  · intro h
    obtain ⟨back, hback, hrest⟩ := Option.map_eq_some_iff.1 h
    rw [dropStart?_eq_some] at hback
    rw [← List.reverse_reverse cs, hback, List.reverse_append, List.reverse_reverse, hrest]
  · rintro rfl
    exact dropEnd?_append rest ending

theorem digitsToStep?_eq_some :
    digitsToStep? ds = some step ↔
      ds ≠ [] ∧ (∀ c ∈ ds, c.isDigit = true) ∧ Nat.ofDigitChars 10 ds 0 = step ∧
        step < Count.limit := by
  simp only [digitsToStep?, Decimal.foldl_digits_eq]
  split
  · next hbad =>
      constructor
      · intro h
        cases h
      · rintro ⟨hne, hall, -⟩
        simp [hne, List.all_eq_true.2 hall] at hbad
  next hgood =>
    have hdigits : ds ≠ [] ∧ ∀ c ∈ ds, c.isDigit = true := by simpa using hgood
    split
    · next hlt =>
        constructor
        · intro h
          obtain rfl := Option.some.inj h
          exact ⟨hdigits.1, hdigits.2, rfl, hlt⟩
        · rintro ⟨-, -, rfl, -⟩
          rfl
    · next hlt =>
        constructor
        · intro h
          cases h
        · rintro ⟨-, -, hvalue, hlimit⟩
          exact absurd (hvalue ▸ hlimit) hlt

theorem readStep?_eq_some :
    readStep? cs = some step ↔
      ∃ sign ds, (sign = [] ∨ sign = ['+']) ∧ cs = sign ++ ds ∧ digitsToStep? ds = some step := by
  unfold readStep?
  split
  · next cs =>
      constructor
      · exact fun h => ⟨['+'], cs, .inr rfl, rfl, h⟩
      · rintro ⟨sign, ds, rfl | rfl, hcs, h⟩
        · -- A plus sign is no digit.
          have hmem : '+' ∈ ds := hcs.subst List.mem_cons_self
          have hplus := (digitsToStep?_eq_some.1 h).2.1 '+' hmem
          cases hplus
        · exact (List.cons.inj hcs).2 ▸ h
  · next hplus =>
      constructor
      · exact fun h => ⟨[], cs, .inl rfl, rfl, h⟩
      · rintro ⟨sign, ds, rfl | rfl, rfl, h⟩
        · exact h
        · exact absurd rfl (hplus ds)

theorem stepOfName?_eq_some :
    stepOfName? name = some step ↔
      step < Count.limit ∧ ∃ sign ds, Spelled name sign ds ∧ Nat.ofDigitChars 10 ds 0 = step := by
  simp only [stepOfName?, Option.bind_eq_bind, Option.bind_eq_some_iff, dropStart?_eq_some,
    dropEnd?_eq_some, readStep?_eq_some, digitsToStep?_eq_some]
  constructor
  · rintro ⟨_, hname, _, rfl, sign, ds, hsign, rfl, hne, hall, hvalue, hlimit⟩
    exact ⟨hlimit, sign, ds, ⟨hsign, hne, hall, hname⟩, hvalue⟩
  · rintro ⟨hlimit, sign, ds, h, hvalue⟩
    exact ⟨_, h.toList_eq, _, rfl, sign, ds, h.sign_eq, rfl, h.ne_nil, h.isDigit, hvalue, hlimit⟩

/-- Zeros are put in front of a step up to eight digits, and none beyond. -/
theorem eq_digits_iff (hne : ds ≠ []) (h : ∀ c ∈ ds, c.isDigit = true) :
    ds = digits (Nat.ofDigitChars 10 ds 0) ↔
      ds.length = 8 ∨ 8 < ds.length ∧ ds.head? ≠ some '0' := by
  obtain ⟨zeros, hzeros⟩ := Decimal.exists_zeros_append_toDigits hne h
  generalize hstep : Nat.ofDigitChars 10 ds 0 = step at hzeros
  have hlength : ds.length = zeros + (Nat.toDigits 10 step).length := by
    rw [hzeros, List.length_append, List.length_replicate]
  calc ds = digits step
    _ ↔ zeros = 8 - (Nat.toDigits 10 step).length := by
      rw [hzeros, digits, List.append_left_inj, List.replicate_inj]
      simp
    _ ↔ ds.length = 8 ∨ 8 < ds.length ∧ ds.head? ≠ some '0' := by
      constructor
      · intro hpadded
        by_cases height : ds.length = 8
        · exact .inl height
        refine .inr ⟨by omega, fun hhead => ?_⟩
        obtain rfl : zeros = 0 := by omega
        have hzero : step = 0 := Decimal.eq_zero_of_head?_toDigits (by rw [← hhead, hzeros]; rfl)
        rw [hzero, Nat.toDigits_zero, List.length_singleton] at hpadded
        omega
      · rintro (height | ⟨hlong, hhead⟩)
        · omega
        · cases zeros with
          | zero => omega
          | succ zeros => exact absurd (by rw [hzeros]; rfl) hhead

theorem Spelled.eq_fileName_iff (h : Spelled name sign ds) :
    name = fileName (Nat.ofDigitChars 10 ds 0) ↔
      sign = [] ∧ (ds.length = 8 ∨ 8 < ds.length ∧ ds.head? ≠ some '0') := by
  rw [← eq_digits_iff h.ne_nil h.isDigit, ← String.toList_inj, h.toList_eq, toList_fileName,
    List.append_right_inj, List.append_left_inj]
  constructor
  · intro hdigits
    obtain hsign | hsign := h.sign_eq
    · exact ⟨hsign, by rwa [hsign] at hdigits⟩
    · -- No sign is written for a step of its own.
      rw [hsign] at hdigits
      have hmem : '+' ∈ digits (Nat.ofDigitChars 10 ds 0) := hdigits.subst List.mem_cons_self
      have hplus := mem_digits hmem
      cases hplus
  · rintro ⟨rfl, hdigits⟩
    exact hdigits

end Checkpoint

namespace Checkpointer

open Checkpoint

variable {α ι ο : Type} {c : Checkpointer} {files : Files α} {dir path : Path} {l : Location}
  {names : List String} {steps : List Nat} {step : Nat}

/-- The path is that of an entry in the directory. -/
def HasEntry (files : Files α) (dir path : Path) : Prop :=
  ∃ names, files.names? dir = some names ∧ ∃ name ∈ names, dir.child name = path

/-- Some name in the directory is read as the checkpoint of the step. -/
def Recognised (files : Files α) (dir : Path) (step : Nat) : Prop :=
  ∃ names, files.names? dir = some names ∧ ∃ name ∈ names, stepOfName? name = some step

theorem hasEntry_pathFor (hnames : files.names? dir = some names) :
    HasEntry files dir (pathFor dir step) ↔ fileName step ∈ names := by
  constructor
  · rintro ⟨names', hnames', name, hmem, hchild⟩
    obtain rfl := Option.some.inj (hnames.symm.trans hnames')
    have hparts := congrArg Path.parts hchild
    rw [pathFor, Path.parts_child, Path.parts_child] at hparts
    exact List.singleton_injective (List.append_cancel_left hparts) ▸ hmem
  · exact fun hmem => ⟨names, hnames, fileName step, hmem, rfl⟩

theorem recognised_iff (hnames : files.names? dir = some names) :
    Recognised files dir step ↔ ∃ name ∈ names, stepOfName? name = some step := by
  constructor
  · rintro ⟨names', hnames', h⟩
    exact Option.some.inj (hnames.symm.trans hnames') ▸ h
  · exact fun h => ⟨names, hnames, h⟩

theorem Recognised.lt_limit (h : Recognised files dir step) : step < Count.limit := by
  obtain ⟨-, -, name, -, hname⟩ := h
  exact lt_of_stepOfName? hname

theorem exists_scan (hnames : files.names? dir = some names) :
    ∃ steps, scan files dir = .ok steps :=
  ⟨_, scan_eq_ok.2 ⟨names, hnames, rfl⟩⟩

/-- A scan finds the recognised steps, in increasing order. -/
theorem mem_of_scan (hscan : scan files dir = .ok steps) :
    step ∈ steps ↔ Recognised files dir step := by
  obtain ⟨names, hnames, rfl⟩ := scan_eq_ok.1 hscan
  rw [mem_foldr_insertStep, List.mem_filterMap, recognised_iff hnames]

theorem list_eq_ok (hscan : scan files c.dir = .ok steps) :
    c.list files = .ok (steps.map fun s => (s, pathFor c.dir s)) := by
  rw [list, hscan]
  rfl

theorem latest_eq_ok (hlatest : c.latest files = .ok (step, path)) :
    path = pathFor c.dir step ∧ Recognised files c.dir step := by
  obtain ⟨entries, hlist, hlast⟩ := Attempt.bind_eq_ok.1 hlatest
  cases hscan : scan files c.dir with
  | error e =>
      rw [list, hscan] at hlist
      cases hlist
  | ok steps =>
      obtain rfl := Except.ok.inj ((list_eq_ok hscan).symm.trans hlist)
      split at hlast
      · next entry hentry =>
          obtain rfl := Except.ok.inj hlast
          obtain ⟨s, hs, heq⟩ := List.mem_map.1 (List.mem_of_getLast? hentry)
          obtain ⟨rfl, rfl⟩ := Prod.mk.inj heq
          exact ⟨rfl, (mem_of_scan hscan).1 hs⟩
      · cases hlast

theorem load_of_absent {template : Network α ι ο} (hstep : step < Count.limit)
    (hcontent : files.content? (pathFor dir step) = none) :
    load template (pathFor dir step) files = .error (.load (pathFor dir step)) := by
  rw [load, withExtension_pathFor dir hstep, hcontent]

theorem content?_of_not_mem (hnames : files.names? dir = some names) (hstep : step < Count.limit)
    (habsent : fileName step ∉ names) : files.content? (pathFor dir step) = none := by
  obtain ⟨l, hdir⟩ := FileTree.exists_directoryAt hnames
  refine hdir.content?_child_of_absent (isName_fileName hstep) ?_
  exact Classical.not_not.1 fun hthere => habsent ((hdir.mem_names? hnames).2 hthere)

/-- A name is read as a step exactly if it spells the step, and it is the step's own name if no
sign and no needless zero stands in it. All paths that are told lead to entries exactly if every
step that a name in the directory spells has its own name there too; where the latest step has
not, there is nothing to restore. -/
theorem paths_of_spelled_steps (hnames : files.names? c.dir = some names) :
    (∀ name step, stepOfName? name = some step ↔
      step < Count.limit ∧ ∃ sign ds, Spelled name sign ds ∧ Nat.ofDigitChars 10 ds 0 = step) ∧
    (∀ name sign ds, Spelled name sign ds →
      (name = fileName (Nat.ofDigitChars 10 ds 0) ↔
        sign = [] ∧ (ds.length = 8 ∨ 8 < ds.length ∧ ds.head? ≠ some '0'))) ∧
    (∃ entries, c.list files = .ok entries ∧
      ((∀ entry ∈ entries, HasEntry files c.dir entry.2) ↔
        ∀ name ∈ names, ∀ step, stepOfName? name = some step → fileName step ∈ names)) ∧
    ∀ step path, c.latest files = .ok (step, path) →
      (HasEntry files c.dir path ↔ fileName step ∈ names) ∧
      (fileName step ∉ names → ∀ template : Network α ι ο,
        c.restoreLatest template files = .error (.load path)) := by
  refine ⟨fun _ _ => stepOfName?_eq_some, fun _ _ _ h => h.eq_fileName_iff, ?_, ?_⟩
  · obtain ⟨steps, hscan⟩ := exists_scan hnames
    refine ⟨_, list_eq_ok hscan, ?_⟩
    simp only [List.forall_mem_map, hasEntry_pathFor hnames, mem_of_scan hscan,
      recognised_iff hnames]
    exact ⟨fun h name hname step hstep => h step ⟨name, hname, hstep⟩,
      fun h step ⟨name, hname, hstep⟩ => h name hname step hstep⟩
  · intro step path hlatest
    obtain ⟨rfl, hrecognised⟩ := latest_eq_ok hlatest
    refine ⟨hasEntry_pathFor hnames, fun habsent template => ?_⟩
    have hlimit := hrecognised.lt_limit
    rw [restoreLatest, hlatest, Attempt.ok_bind]
    dsimp only
    rw [load_of_absent hlimit (content?_of_not_mem hnames hlimit habsent), Attempt.error_bind]

namespace Sample

def copies : Path := ⟨["", "copies"]⟩

/-- One checkpoint has its own name, and a later one has been given another. -/
def renamed : Files Nat :=
  ⟨[(["copies"], .directory), (["copies", "model_00000003.bin"], .file 0 (.record [])),
    (["copies", "model_+5.bin"], .file 1 (.record []))], 2⟩

/-- A foreign file with the name of no checkpoint that is written here. -/
def unpadded : Files Nat :=
  ⟨[(["copies"], .directory), (["copies", "model_7.bin"], .file 0 (.bytes []))], 1⟩

end Sample

/-- The checkpoint of step 5 is listed and found to be the latest, but no file has its path. -/
theorem paths_of_spelled_steps_renamed :
    let c : Checkpointer := ⟨Sample.copies, 0, []⟩
    Sample.renamed.names? c.dir = some ["model_00000003.bin", "model_+5.bin"] ∧
    (stepOfName? "model_+5.bin" = some 5 ∧ "model_+5.bin" ≠ fileName 5) ∧
    (∃ entries, c.list Sample.renamed = .ok entries ∧
      ¬∀ entry ∈ entries, HasEntry Sample.renamed c.dir entry.2) ∧
    c.latest Sample.renamed = .ok (5, pathFor c.dir 5) ∧
    ¬HasEntry Sample.renamed c.dir (pathFor c.dir 5) ∧
    ∀ template : Network Nat Unit Unit,
      c.restoreLatest template Sample.renamed = .error (.load (pathFor c.dir 5)) := by
  intro c
  have hnames : Sample.renamed.names? c.dir = some ["model_00000003.bin", "model_+5.bin"] := rfl
  have hlatest : c.latest Sample.renamed = .ok (5, pathFor c.dir 5) := rfl
  have habsent : fileName 5 ∉ ["model_00000003.bin", "model_+5.bin"] := by decide
  obtain ⟨hread, hown, ⟨entries, hlist, hentries⟩, hrestore⟩ :=
    paths_of_spelled_steps (c := c) (ι := Unit) (ο := Unit) hnames
  have hspelled : Spelled "model_+5.bin" ['+'] ['5'] :=
    ⟨.inr rfl, by decide, List.forall_mem_singleton.2 rfl, by decide⟩
  have hfive : stepOfName? "model_+5.bin" = some 5 :=
    (hread _ _).2 ⟨by decide, _, _, hspelled, by decide⟩
  refine ⟨hnames, ⟨hfive, fun heq => ?_⟩, ⟨entries, hlist, fun hall => ?_⟩, hlatest, ?_, ?_⟩
  · exact absurd ((hown _ _ _ hspelled).1 heq).1 (by decide)
  · exact habsent (hentries.1 hall _ (by decide) _ hfive)
  · exact fun hentry => habsent ((hrestore _ _ hlatest).1.1 hentry)
  · exact (hrestore _ _ hlatest).2 habsent

/-- A file that no save has written is taken for a checkpoint, and told under a path where nothing
stands. -/
theorem unpadded_name_is_listed :
    let c : Checkpointer := ⟨Sample.copies, 5, [7]⟩
    openAt Sample.copies 5 Sample.unpadded = (.ok c, Sample.unpadded) ∧
    stepOfName? "model_7.bin" = some 7 ∧ "model_7.bin" ≠ fileName 7 ∧
    c.list Sample.unpadded = .ok [(7, pathFor Sample.copies 7)] ∧
    ¬HasEntry Sample.unpadded Sample.copies (pathFor Sample.copies 7) ∧
    ∀ template : Network Nat Unit Unit,
      c.restoreLatest template Sample.unpadded = .error (.load (pathFor Sample.copies 7)) := by
  have hnames : Sample.unpadded.names? Sample.copies = some ["model_7.bin"] := rfl
  have habsent : fileName 7 ∉ ["model_7.bin"] := by decide
  have hdir : Sample.unpadded.DirectoryAt Sample.copies ["copies"] := ⟨rfl, rfl⟩
  refine ⟨?_, rfl, by decide, rfl, fun hentry => habsent ((hasEntry_pathFor hnames).1 hentry), ?_⟩
  · simp only [openAt, hdir.makeDirs]
    rfl
  · intro template
    have hgone : Sample.unpadded.content? (pathFor Sample.copies 7) = none :=
      content?_of_not_mem hnames (by decide) habsent
    rw [restoreLatest, show latest _ _ = .ok (7, pathFor Sample.copies 7) from rfl, Attempt.ok_bind]
    dsimp only
    rw [load_of_absent (by decide) hgone, Attempt.error_bind]

end Checkpointer
end ActorCritic
