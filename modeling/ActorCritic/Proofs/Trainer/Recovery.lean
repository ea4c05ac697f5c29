import ActorCritic.LearningRate
import ActorCritic.Proofs.Checkpoint.Retention
import ActorCritic.Proofs.Trainer.Round

/-!
Recovery from checkpoints. A trainer's directory holds what the trainer was at the end of its last
completed round, whatever rounds have failed at a batch since and whatever weights have been put
in. Steps are never counted down, so the latest round is the one with the largest step, and the
checkpoint with the largest step is never removed; a round without training steps writes over the
one before it.
-/

namespace ActorCritic

open Checkpoint Checkpointer

variable {α : Type} {c : Checkpointer} {dir : Path} {l : Location} {count : Nat}
  {last : Option (Nat × List (Param α))} {files files' : Files α}

/-- The directory at `l` holds its last checkpoint, if it holds any, as the one of the largest step,
and the table of the reports. -/
structure HoldsLast (c : Checkpointer) (files : Files α) (l : Location) (count : Nat)
    (last : Option (Nat × List (Param α))) : Prop where
  mirrors : c.Mirrors files l
  notFile : files.isFile l = false
  table : files.isFile (l ++ [GradientTrainer.tableName]) = true
  latest : match last with
    | none => c.steps = []
    | some (step, params) => IsGreatest {s | s ∈ c.steps} step ∧
        (files.find? (place l step)).bind FileNode.content? = some (.record params) ∧
          params.length = count

theorem isName_tableName : Path.IsName GradientTrainer.tableName := by
  refine ⟨?_, ?_, ?_, ?_⟩ <;> decide

theorem ne_tableName {name : String} {s : Nat} (h : stepOfName? name = some s) :
    l ++ [name] ≠ l ++ [GradientTrainer.tableName] := by
  intro heq
  have hnone : stepOfName? GradientTrainer.tableName = none := by decide
  rw [List.singleton_injective (List.append_cancel_left heq), hnone] at h
  cases h

/-- Creating the table, anew or not, is nothing to the checkpoints. -/
theorem Checkpointer.Mirrors.tableCreated (h : c.Mirrors files l) {content : Content α} {id : Nat}
    (hwrite : files.write? (c.dir.child GradientTrainer.tableName) content = some (id, files')) :
    c.Mirrors files' l ∧ files'.isFile l = false ∧
      files'.isFile (l ++ [GradientTrainer.tableName]) = true ∧
        ∀ name s, stepOfName? name = some s →
          files'.find? (l ++ [name]) = files.find? (l ++ [name]) := by
  obtain ⟨hnotFile, hnone, hfound, hothers⟩ :=
    h.directory.write?_child isName_tableName hwrite
  have hkeeps := FileTree.keepsDirectories_of_change hnone hothers
  have hsame : ∀ name s, stepOfName? name = some s →
      files'.find? (l ++ [name]) = files.find? (l ++ [name]) :=
    fun name s hs => hothers _ (ne_tableName hs)
  refine ⟨h.of_unrelated hkeeps fun name s hs => by rw [hsame name s hs],
    (h.isFile_of_keepsDirectories hkeeps).trans hnotFile, ?_, hsame⟩
  rw [FileTree.isFile, hfound]

namespace HoldsLast

/-- Whatever bytes are written to files that are there, the checkpoints stay. -/
theorem revised (h : HoldsLast c files l count last) (id offset : Nat) (bytes : List UInt8) :
    HoldsLast c (files.revise id (Content.writeAt offset bytes)) l count last := by
  have hkeeps := files.keepsDirectories_revise id (Content.writeAt offset bytes)
  refine ⟨h.mirrors.of_unrelated hkeeps fun name s _ => ?_,
    (h.mirrors.isFile_of_keepsDirectories hkeeps).trans h.notFile, ?_, ?_⟩
  · rw [FileTree.find?_revise, ne_eq, Option.map_eq_none_iff]
  · have htable := h.table
    unfold FileTree.isFile at htable ⊢
    rw [FileTree.find?_revise]
    split at htable
    · next hnode => rw [hnode, Option.map_some]
    · cases htable
  · have hlatest := h.latest
    cases last with
    | none => exact hlatest
    | some entry =>
        obtain ⟨hgreatest, hcontent, hcount⟩ := hlatest
        refine ⟨hgreatest, ?_, hcount⟩
        rw [FileTree.find?_revise]
        match files.find? (place l entry.1), hcontent with
        | some (.file i _), rfl =>
            change some (if i = id then _ else _) = _
            split <;> rfl

theorem flushed (h : HoldsLast c files l count last) (loggers : List Logger) :
    HoldsLast c (Logger.flushAll loggers files).2 l count last := by
  induction loggers generalizing files with
  | nil => exact h
  | cons logger loggers ih =>
      refine ih ?_
      cases logger with
      | lines written => exact h
      | csv file flushed table => exact h.revised _ _ _
      | calls noted => exact h

/-- The directory can be opened once more, with the same limit or another. -/
theorem exists_reopened (h : HoldsLast c files l count last) (keep : Nat) :
    ∃ id files', openAt c.dir keep files = (.ok ⟨c.dir, keep, c.steps⟩, files) ∧
      files.write? (c.dir.child GradientTrainer.tableName) (.ofText "") = some (id, files') ∧
      HoldsLast ⟨c.dir, keep, c.steps⟩ files' l count last := by
  have hnone := FileTree.isDirectory_eq_false_of_isFile (by simp) h.table
  obtain ⟨id, files', hwrite⟩ := h.mirrors.directory.exists_write?_child isName_tableName h.notFile
    hnone (.ofText "")
  obtain ⟨hmirrors, hnotFile, htable, hsame⟩ := (h.mirrors.reopened keep).tableCreated hwrite
  refine ⟨id, files', h.mirrors.openAt_eq keep, hwrite, hmirrors, hnotFile, htable, ?_⟩
  have hlatest := h.latest
  cases last with
  | none => exact hlatest
  | some entry =>
      obtain ⟨hgreatest, hcontent, hcount⟩ := hlatest
      have hlimit := h.mirrors.lt_limit hgreatest.1
      refine ⟨hgreatest, ?_, hcount⟩
      rw [place, hsame _ _ (stepOfName?_fileName hlimit)]
      exact hcontent

/-- A save under a step that is not less than any before. -/
theorem saved (h : HoldsLast c files l count last) (hkeep : c.keep ≠ 0) {step : Nat}
    (hsteps : ∀ s ∈ c.steps, s ≤ step) (hstep : step < Count.limit) {params : List (Param α)}
    (hcount : params.length = count) {path : Path} {c' : Checkpointer}
    (hsave : c.save params step files = (.ok path, c', files')) :
    c'.dir = c.dir ∧ c'.keep = c.keep ∧ (∀ s ∈ c'.steps, s ≤ step) ∧
      HoldsLast c' files' l count (some (step, params)) := by
  obtain ⟨-, rfl, hmirrors, hcontent, hothers⟩ := h.mirrors.saved hstep hsave
  have hle : ∀ s ∈ insertStep step c.steps, s ≤ step := by
    intro s hs
    obtain rfl | hs := mem_insertStep.1 hs
    · exact Nat.le_refl s
    · exact hsteps s hs
  have hmem : step ∈ kept c.keep (insertStep step c.steps) :=
    greatest_mem_kept (pairwise_insertStep step h.mirrors.sorted) hkeep
      ⟨mem_insertStep.2 (.inl rfl), fun s hs => hle s hs⟩
  have hkept : ∀ s ∈ kept c.keep (insertStep step c.steps), s ≤ step :=
    fun s hs => hle s (List.drop_subset _ _ hs)
  have hnotFile : files'.isFile l = false := by
    have hplace : ∀ s, s < Count.limit → l ≠ place l s := fun s _ => by simp [place]
    rw [FileTree.isFile, hothers l hplace]
    exact h.notFile
  refine ⟨rfl, rfl, hkept, hmirrors, hnotFile, ?_, ⟨hmem, fun s hs => hkept s hs⟩, ?_, hcount⟩
  · have hplace : ∀ s, s < Count.limit → l ++ [GradientTrainer.tableName] ≠ place l s :=
      fun s hs => (ne_tableName (stepOfName?_fileName hs)).symm
    rw [FileTree.isFile, hothers _ hplace]
    exact h.table
  · rw [← hmirrors.content?_pathFor hnotFile hstep]
    exact (hcontent step hmem).trans (if_pos rfl)

/-- What is restored into a network with as many parameters. -/
theorem restoreLatest_eq {ι ο : Type} {step : Nat} {params : List (Param α)}
    (h : HoldsLast c files l count (some (step, params))) (template : Network α ι ο)
    (hcount : template.params.length = count) :
    c.restoreLatest template files = .ok ({ template with params := params }, step) := by
  obtain ⟨hgreatest, hcontent, hlength⟩ := h.latest
  have hlimit := h.mirrors.lt_limit hgreatest.1
  rw [← h.mirrors.content?_pathFor h.notFile hlimit] at hcontent
  rw [Checkpointer.restoreLatest, h.mirrors.latest_eq hgreatest.1 fun r hr => hgreatest.2 hr,
    Attempt.ok_bind]
  dsimp only
  rw [load_pathFor template hlimit hcontent (hcount.trans hlength.symm)]
  rfl

end HoldsLast

namespace GradientTrainer

variable {σ κ β ι ο μ : Type}

/-- A trainer that can be recovered from its directory, where its last completed round is. -/
structure Recoverable (dir : Path) (l : Location) (count : Nat)
    (last : Option (Nat × List (Param Float32)))
    (x : GradientTrainer σ κ β ι ο μ × World Float32 σ) : Prop where
  held : ∃ c, x.1.checkpointer = some c ∧ c.dir = dir ∧ c.keep ≠ 0 ∧
    (∀ s ∈ c.steps, s ≤ x.1.step) ∧ HoldsLast c x.2.files l count last
  count : x.1.network.params.length = count
  step_lt : x.1.step < Count.limit

variable {last : Option (Nat × List (Param Float32))}
  {x y z : GradientTrainer σ κ β ι ο μ × World Float32 σ}

theorem Recoverable.onward (h : Recoverable dir l count last x) (honward : Onward x y) :
    Recoverable dir l count last y := by
  obtain ⟨c, hc, hdir, hkeep, hsteps, hholds⟩ := h.held
  refine ⟨⟨c, honward.checkpointer.trans hc, hdir, hkeep, fun s hs => ?_, ?_⟩,
    honward.count.trans h.count, honward.step_lt h.step_lt⟩
  · exact Nat.le_trans (hsteps s hs) honward.step_le
  · rw [honward.files]
    exact hholds

theorem saveCheckpoint_eq_ok (hc : x.1.checkpointer = some c) :
    saveCheckpoint x = (.ok (), y) ↔
      ∃ path c' files, c.save x.1.network.params x.1.step x.2.files = (.ok path, c', files) ∧
        ({ x.1 with checkpointer := some c' }, { x.2 with files := files }) = y := by
  obtain ⟨t, w⟩ := x
  replace hc : t.checkpointer = some c := hc
  simp only [saveCheckpoint, hc]
  cases hsave : c.save t.network.params t.step w.files with
  | mk result after =>
  cases result with
  | error e =>
      constructor
      · intro h
        cases (Prod.mk.inj h).1
      · rintro ⟨path, c', files, h, -⟩
        cases h
  | ok path =>
      constructor
      · intro h
        exact ⟨path, after.1, after.2, rfl, (Prod.mk.inj h).2⟩
      · rintro ⟨path, c', files, h, rfl⟩
        cases h
        rfl

theorem Recoverable.round (h : Recoverable dir l count last x) {steps evalSteps : Nat}
    (hround : trainRound steps evalSteps x = (.ok (), y)) :
    Recoverable dir l count (some (y.1.step, y.1.network.params)) y := by
  rw [trainRound_eq] at hround
  obtain ⟨⟨⟩, trained, htrained, hsaved⟩ := Action.bind_eq_ok.1 hround
  have honward := h.onward ((goesOn_beforeSave x steps evalSteps).keeps htrained (.refl x))
  obtain ⟨c, hc, hdir, hkeep, hsteps, hholds⟩ := honward.held
  obtain ⟨path, c', files, hsave, rfl⟩ := (saveCheckpoint_eq_ok hc).1 hsaved
  obtain ⟨hdir', hkeep', hsteps', hholds'⟩ :=
    hholds.saved hkeep hsteps honward.step_lt honward.count hsave
  exact ⟨⟨c', rfl, hdir'.trans hdir, hkeep' ▸ hkeep, hsteps', hholds'⟩, honward.count,
    honward.step_lt⟩

/-- What may happen to a trainer, with the step and the parameters that it had at the end of its
last completed round. A failed round has left the directory alone; that is so unless the failure is
one of its checkpoint. Others may use the world, but they leave the files alone. -/
inductive History (x : GradientTrainer σ κ β ι ο μ × World Float32 σ) :
    Option (Nat × List (Param Float32)) →
      GradientTrainer σ κ β ι ο μ × World Float32 σ → Prop where
  | start : History x none x
  | round {last : Option (Nat × List (Param Float32))}
      {y z : GradientTrainer σ κ β ι ο μ × World Float32 σ} {steps evalSteps : Nat}
      (before : History x last y) (ends : trainRound steps evalSteps y = (.ok (), z)) :
      History x (some (z.1.step, z.1.network.params)) z
  | failedRound {last : Option (Nat × List (Param Float32))}
      {y z : GradientTrainer σ κ β ι ο μ × World Float32 σ} {steps evalSteps : Nat}
      {e : Failure (Error Float32)} (before : History x last y)
      (fails : trainRound steps evalSteps y = (.error e, z))
      (checkpointer : z.1.checkpointer = y.1.checkpointer) (files : z.2.files = y.2.files) :
      History x last z
  | setWeights {last : Option (Nat × List (Param Float32))}
      {y : GradientTrainer σ κ β ι ο μ × World Float32 σ} (s : Snapshot Float32)
      (before : History x last y) : History x last (Trainer.setWeights s y).2
  | setState {last : Option (Nat × List (Param Float32))}
      {y : GradientTrainer σ κ β ι ο μ × World Float32 σ} (s : Snapshot Float32)
      (before : History x last y) : History x last (Trainer.setState s y).2
  | close {last : Option (Nat × List (Param Float32))}
      {y : GradientTrainer σ κ β ι ο μ × World Float32 σ} (before : History x last y) :
      History x last (GradientTrainer.close y).2
  | others {last : Option (Nat × List (Param Float32))}
      {y : GradientTrainer σ κ β ι ο μ × World Float32 σ} {w : World Float32 σ}
      (before : History x last y) (files : w.files = y.2.files) : History x last (y.1, w)

/-- A round that fails leads onward as far as the directory is left alone. -/
theorem onward_of_failed {steps evalSteps : Nat} {e : Failure (Error Float32)}
    (h : trainRound steps evalSteps y = (.error e, z))
    (hcheckpointer : z.1.checkpointer = y.1.checkpointer) (hfiles : z.2.files = y.2.files) :
    Onward y z := by
  have hkeeps := goesOn_beforeSave y steps evalSteps
  rw [trainRound_eq] at h
  obtain hbefore | ⟨⟨⟩, trained, htrained, hsave⟩ := Action.bind_eq_error.1 h
  · exact hkeeps.keeps hbefore (.refl y)
  · have honward := hkeeps.keeps htrained (.refl y)
    obtain ⟨⟨_, _, rfl⟩, -⟩ := saveCheckpoint_cases hsave
    exact ⟨hfiles, hcheckpointer, honward.count, honward.step_le, honward.step_lt⟩

/-- A round that fails, but not because of its checkpoint, is a failed round. -/
theorem History.failed {steps evalSteps : Nat} {e : Failure (Error Float32)}
    (before : History x last y) (fails : trainRound steps evalSteps y = (.error e, z))
    (hcause : ∀ cause, e ≠ .error (.checkpoint cause)) : History x last z := by
  have hends := fails
  rw [trainRound_eq] at hends
  obtain hbefore | ⟨⟨⟩, trained, -, hsave⟩ := Action.bind_eq_error.1 hends
  · have honward := (goesOn_beforeSave y steps evalSteps).keeps hbefore (.refl y)
    exact before.failedRound fails honward.checkpointer honward.files
  · obtain ⟨-, -, hnotSaved⟩ := saveCheckpoint_cases hsave
    obtain ⟨_, cause, -, rfl, -⟩ := hnotSaved e rfl
    exact absurd rfl (hcause cause)

theorem History.recoverable (h : History x last y) (hstart : Recoverable dir l count none x) :
    Recoverable dir l count last y := by
  induction h with
  | start => exact hstart
  | round before ends ih => exact ih.round ends
  | failedRound before fails checkpointer files ih =>
      exact ih.onward (onward_of_failed fails checkpointer files)
  | setWeights s before ih =>
      exact ih.onward (goesOn_setWeights _ s _ (.refl _)).1
  | setState s before ih =>
      exact ih.onward (goesOn_setState _ s _ (.refl _)).1
  | close before ih =>
      obtain ⟨c, hc, hdir, hkeep, hsteps, hholds⟩ := ih.held
      exact ⟨⟨c, hc, hdir, hkeep, hsteps, hholds.flushed _⟩, ih.count, ih.step_lt⟩
  | others before files ih =>
      obtain ⟨c, hc, hdir, hkeep, hsteps, hholds⟩ := ih.held
      exact ⟨⟨c, hc, hdir, hkeep, hsteps, files ▸ hholds⟩, ih.count, ih.step_lt⟩

/-- The trainer goes on from a step with the parameters of that step, if it is given any. -/
def resumedAt (x : GradientTrainer σ κ β ι ο μ × World Float32 σ) :
    Option (Nat × List (Param Float32)) →
      Run Float32 (Option Nat) × (GradientTrainer σ κ β ι ο μ × World Float32 σ)
  | none => (.ok none, x)
  | some (step, params) =>
      (.ok (some step),
        ({ x.1 with network := { x.1.network with params := params }, step := step }, x.2))

theorem restoreLatest_eq (hc : x.1.checkpointer = some c)
    (h : HoldsLast c x.2.files l count last) (hcount : x.1.network.params.length = count) :
    restoreLatest x = resumedAt x last := by
  obtain ⟨t, w⟩ := x
  replace hc : t.checkpointer = some c := hc
  have hlist : (Action.ofRun (Run.ofCheckpoint (c.list w.files)) : TrainerAction σ κ β ι ο μ _)
      (t, w) = (.ok (c.steps.map fun s => (s, pathFor c.dir s)), (t, w)) := by
    rw [h.mirrors.list_eq]
    rfl
  refine Action.read_bind_eq.2 ?_
  simp only [hc]
  refine (Action.bind_of_ok hlist).trans ?_
  cases last with
  | none =>
      have hnone : c.steps = [] := h.latest
      rw [hnone]
      rfl
  | some entry =>
      obtain ⟨step, params⟩ := entry
      have hsome : ¬(c.steps.map fun s => (s, pathFor c.dir s)).isEmpty = true := by
        rw [List.isEmpty_iff, List.map_eq_nil_iff]
        exact List.ne_nil_of_mem h.latest.1.1
      rw [if_neg hsome, h.restoreLatest_eq t.network hcount]
      rfl

section Restart

variable {σ' κ' β' μ' : Type} {name name' : String} {network other : Network Float32 ι ο}
  {optimizer : Optimizer Float32 μ} {optimizer' : Optimizer Float32 μ'}
  {schedule schedule' : Nat → Float} {score : Network Float32 ι ο → β → Run Float32 (Score Float32)}
  {score' : Network Float32 ι ο → β' → Run Float32 (Score Float32)}
  {source : BatchSource Float32 σ κ β} {source' : BatchSource Float32 σ' κ' β'}
  {t : GradientTrainer σ κ β ι ο μ} {w₀ w : World Float32 σ} {v : World Float32 σ'}

theorem exists_recoverable_of_make
    (hmake : make name network optimizer schedule score ⟨source, some dir⟩ w₀ = (.ok t, w))
    (hempty : scan w.files dir = .ok []) :
    ∃ l, Recoverable dir l network.params.length none (t, w) := by
  obtain ⟨c, files, id, tree, hopen, hwrite, rfl, rfl⟩ := make_eq_ok.1 hmake
  obtain ⟨names, hnames, hsteps⟩ := scan_eq_ok.1 hempty
  -- The table is no checkpoint, so there was none before it was created either.
  have hnone {l : Location} (hdir : files.DirectoryAt dir l) {name : String} {s : Nat}
      (hthere : files.find? (l ++ [name]) ≠ none) : stepOfName? name ≠ some s := by
    intro hs
    obtain ⟨-, hnone, -, hothers⟩ := hdir.write?_child isName_tableName hwrite
    rw [← hothers _ (ne_tableName hs)] at hthere
    have hdir' := hdir.of_keepsDirectories (FileTree.keepsDirectories_of_change hnone hothers)
    have hmem : s ∈ (names.filterMap stepOfName?).foldr insertStep [] :=
      mem_foldr_insertStep.2 (List.mem_filterMap.2 ⟨name, (hdir'.mem_names? hnames).2 hthere, hs⟩)
    rw [hsteps] at hmem
    cases hmem
  have hnamed : WellNamed files dir := by
    intro names hnames name hname s hs
    obtain ⟨l, hdir⟩ := FileTree.exists_directoryAt hnames
    exact absurd hs (hnone hdir ((hdir.mem_names? hnames).1 hname))
  obtain ⟨rfl, hkeep, l, hmirrors⟩ := exists_mirrors_of_openAt hopen hnamed
  have hstart : c.steps = [] := List.eq_nil_iff_forall_not_mem.2 fun s hs =>
    hnone hmirrors.directory ((hmirrors.mem_steps s).1 hs).2
      (stepOfName?_fileName (hmirrors.lt_limit hs))
  obtain ⟨hcreated, hnotFile, htable, -⟩ := hmirrors.tableCreated hwrite
  refine ⟨l, ⟨c, rfl, rfl, ?_, ?_, hcreated, hnotFile, htable, hstart⟩, rfl, Nat.two_pow_pos 64⟩
  · rw [hkeep]
    decide
  · rw [hstart]
    exact nofun

/-- A second trainer of as many parameters, made on the directory of the first, is restored to the
step and the parameters that the first one had at the end of its last completed round, and to
nothing if there was none. -/
theorem restores_last_completed_round
    (hmake : make name network optimizer schedule score ⟨source, some dir⟩ w₀ = (.ok t, w))
    (hempty : scan w.files dir = .ok []) (hhistory : History (t, w) last y)
    (hcount : other.params.length = network.params.length) (hfiles : v.files = y.2.files) :
    ∃ t' v', make name' other optimizer' schedule' score' ⟨source', some dir⟩ v = (.ok t', v') ∧
      t'.network = other ∧ restoreLatest (t', v') = resumedAt (t', v') last := by
  obtain ⟨l, hstart⟩ := exists_recoverable_of_make hmake hempty
  obtain ⟨⟨c, -, rfl, -, -, hholds⟩, -, -⟩ := hhistory.recoverable hstart
  obtain ⟨id, files, hopen, hwrite, hreopened⟩ := hholds.exists_reopened defaultKeep
  rw [← hfiles] at hopen hwrite
  obtain ⟨t', hmade, hnetwork⟩ : ∃ t' : GradientTrainer σ' κ' β' ι ο μ',
      make name' other optimizer' schedule' score' ⟨source', some c.dir⟩ v =
        (.ok t', { v with files := files }) ∧
      t'.network = other ∧ t'.checkpointer = some ⟨c.dir, defaultKeep, c.steps⟩ :=
    ⟨_, make_eq_ok.2 ⟨_, _, _, _, hopen, hwrite, rfl, rfl⟩, rfl, rfl⟩
  exact ⟨t', _, hmade, hnetwork.1,
    restoreLatest_eq (x := (t', _)) hnetwork.2 hreopened (hnetwork.1 ▸ hcount)⟩

end Restart

namespace Sample

/-- A network of one parameter. -/
def network (weight : Float32) : Network Float32 Unit Unit :=
  ⟨[⟨0, .fill [1] weight⟩], [1], fun _ _ => .error .refused⟩

def optimizer : Optimizer Float32 Unit := .sgd

def schedule : Nat → Float := (LearningRate.constant 1).rate

def score (_ : Network Float32 Unit Unit) (_ : Unit) : Run Float32 (Score Float32) :=
  .ok ⟨0, [], .ok [.fill [1] 1]⟩

/-- One batch, and then one that cannot be built. -/
def source : BatchSource Float32 Nat (Stream (Run Float32 Unit)) Unit :=
  .ofLists [[.ok ()], [Run.fail .io]]

def runs : Path := ⟨["", "runs"]⟩

def world : World Float32 Nat := ⟨0, ⟨[(["runs"], .directory)], 0⟩, [], 0⟩

def opened :
    GradientTrainer Nat (Stream (Run Float32 Unit)) Unit Unit Unit Unit × World Float32 Nat :=
  ({ name := "value", network := network 0, optimizer := optimizer, memory := []
     schedule := schedule, score := score, source := source, trainStream := none
     evalStream := none, step := 0, checkpointer := some ⟨runs, 5, []⟩
     loggers := [.lines [], .csv 0 0 .empty], history := [] },
   { world with
     files := ⟨[(["runs"], .directory), (["runs", "metrics.csv"], .file 0 (.ofText ""))], 1⟩ })

theorem make_opened :
    make "value" (network 0) optimizer schedule score ⟨source, some runs⟩ world =
      (.ok opened.1, opened.2) := by
  have hdir : world.files.DirectoryAt runs ["runs"] := ⟨rfl, rfl⟩
  have hopen : openAt runs defaultKeep world.files = (.ok ⟨runs, 5, []⟩, world.files) := by
    simp only [openAt, hdir.makeDirs]
    rfl
  exact make_eq_ok.2 ⟨_, _, 0, _, hopen, rfl, rfl, rfl⟩

/-- After a round of one step, just before its checkpoint. -/
def trained :
    GradientTrainer Nat (Stream (Run Float32 Unit)) Unit Unit Unit Unit × World Float32 Nat :=
  (beforeSave 1 0 opened).2

theorem beforeSave_opened : beforeSave 1 0 opened = (.ok (), trained) :=
  Action.eq_of_toOption (by decide +kernel)

theorem step_trained : trained.1.step = 1 := by decide +kernel

/-- The round is completed, other weights are put in, and the next round fails at its batch. -/
theorem exists_history :
    ∃ y, History opened (some (trained.1.step, trained.1.network.params)) y := by
  have honward := (goesOn_beforeSave opened 1 0).keeps beforeSave_opened (.refl opened)
  obtain ⟨path, c, files, hsave⟩ : ∃ path c files, save ⟨runs, 5, []⟩
      trained.1.network.params 1 opened.2.files = (.ok path, c, files) := by
    have hdir : opened.2.files.DirectoryAt runs ["runs"] := ⟨rfl, rfl⟩
    have hname : Path.IsName (fileName 1) := isName_fileName (by decide)
    simp only [save, pathFor, hdir.place_child hname]
    exact ⟨_, _, _, rfl⟩
  rw [← step_trained, ← honward.files] at hsave
  have hsaved := (saveCheckpoint_eq_ok honward.checkpointer).2 ⟨path, c, files, hsave, rfl⟩
  have hround : trainRound 1 0 opened = (.ok (), ({ trained.1 with checkpointer := some c },
      { trained.2 with files := files })) := by
    rw [trainRound_eq]
    exact (Action.bind_of_ok beforeSave_opened).trans hsaved
  have hlater := (History.round .start hround).setWeights ⟨[[.fill [1] 7]]⟩
  refine ⟨_, hlater.failed (Action.eq_of_fst
    (?_ : (trainRound 1 0 _).1 = .error (.error .io))) ?_⟩
  · rfl
  · intro cause h
    cases h

end Sample

/-- What was put in after the completed round, and the round that failed then, are not seen. -/
theorem restores_last_completed_round_other_weights :
    make "value" (Sample.network 0) Sample.optimizer Sample.schedule Sample.score
        ⟨Sample.source, some Sample.runs⟩ Sample.world =
      (.ok Sample.opened.1, Sample.opened.2) ∧
    scan Sample.opened.2.files Sample.runs = .ok [] ∧
    ∃ y, History Sample.opened (some (1, Sample.trained.1.network.params)) y ∧
      ∃ t v, make "value" (Sample.network 5) Sample.optimizer Sample.schedule Sample.score
          ⟨Sample.source, some Sample.runs⟩ y.2 = (.ok t, v) ∧
        restoreLatest (t, v) = resumedAt (t, v) (some (1, Sample.trained.1.network.params)) := by
  have hempty : scan Sample.opened.2.files Sample.runs = .ok [] := rfl
  obtain ⟨y, hhistory⟩ := Sample.exists_history
  rw [Sample.step_trained] at hhistory
  have hrestores : ∃ t v, make "value" (Sample.network 5) Sample.optimizer Sample.schedule
        Sample.score ⟨Sample.source, some Sample.runs⟩ y.2 = (.ok t, v) ∧
      t.network = Sample.network 5 ∧
      restoreLatest (t, v) = resumedAt (t, v) (some (1, Sample.trained.1.network.params)) :=
    restores_last_completed_round Sample.make_opened hempty hhistory rfl rfl
  obtain ⟨t, v, hmade, -, hrestored⟩ := hrestores
  exact ⟨Sample.make_opened, hempty, y, hhistory, t, v, hmade, hrestored⟩

end GradientTrainer
end ActorCritic
