import ActorCritic.Proofs.Checkpoint.Copies
import ActorCritic.Proofs.Trainer.Memory
import ActorCritic.Proofs.Trainer.Recovery

/-!
Restoring in place beside restoring anew. A trainer that goes back to its latest checkpoint has the
weights and the step that a new trainer is restored to from a copy of the directory, but it keeps
its optimizer's memory, and checkpoints hold the ids by which that memory is looked up. So the two
learn the same from then on exactly if there are no moments for the restored parameters; where
there are, they go on counting from the updates before the restore.
-/

namespace ActorCritic

open Checkpointer

/-- However a save ends, it touches nothing but checkpoints. -/
theorem Checkpointer.SaveEnds.find?_of_ne {α : Type} {c c' : Checkpointer} {l m : Location}
    {files files' : Files α} {params : List (Param α)} {step : Nat}
    {result : Except CheckpointError Path} (hopened : c.Opened files l)
    (hstep : step < Count.limit) (h : SaveEnds c l params step files (result, c', files'))
    (hm : ∀ s, s < Count.limit → m ≠ Checkpointer.place l s) :
    files'.find? m = files.find? m := by
  cases h with
  | unwritten => rfl
  | saved stored => exact stored.find?_of_ne hstep (hopened.lt_limit_removed hstep) hm
  | @refused gone rest s files' split dropped stored directory =>
      have hgone : ∀ r ∈ gone, r < Count.limit := fun r hr =>
        hopened.lt_limit_insertStep hstep r (split ▸ List.mem_append_left _ hr)
      exact stored.find?_of_ne hstep hgone hm

namespace GradientTrainer

open OptimizerMemory

variable {σ κ β ι ο μ : Type} {dir : Path} {l : Location}
  {x x' : GradientTrainer σ κ β ι ο μ × World Float32 σ}

/-- A trainer whose directory is there with the table of its reports, so that it can be opened
once more. -/
structure Housed (dir : Path) (l : Location)
    (x : GradientTrainer σ κ β ι ο μ × World Float32 σ) : Prop where
  opened : ∃ c, x.1.checkpointer = some c ∧ c.dir = dir ∧ c.Opened x.2.files l
  notFile : x.2.files.isFile l = false
  table : x.2.files.isFile (l ++ [tableName]) = true
  step_lt : x.1.step < Count.limit

theorem Housed.onward (h : Housed dir l x) (honward : Onward x x') : Housed dir l x' := by
  obtain ⟨c, hc, hdir, hopened⟩ := h.opened
  refine ⟨⟨c, honward.checkpointer.trans hc, hdir, ?_⟩, ?_, ?_, honward.step_lt h.step_lt⟩
  · rw [honward.files]
    exact hopened
  · rw [honward.files]
    exact h.notFile
  · rw [honward.files]
    exact h.table

theorem Housed.saved (h : Housed dir l x) : Housed dir l (saveCheckpoint x).2 := by
  obtain ⟨t, w⟩ := x
  obtain ⟨⟨c, hc, hdir, hopened⟩, hnotFile, htable, hstep⟩ := h
  have hends := hopened.save_ends hstep t.network.params
  simp only at hc hends hnotFile htable hstep
  simp only [saveCheckpoint, hc]
  generalize c.save t.network.params t.step w.files = ended at hends ⊢
  obtain ⟨result, c', files⟩ := ended
  obtain ⟨hdir', hopened'⟩ := hends.opened hopened hstep
  have hplace : ∀ s, s < Count.limit → l ≠ place l s := fun s _ => by simp [place]
  have htablePlace : ∀ s, s < Count.limit → l ++ [tableName] ≠ place l s :=
    fun s hs => (ne_tableName (Checkpoint.stepOfName?_fileName hs)).symm
  refine ⟨⟨c', rfl, hdir'.trans hdir, hopened'⟩, ?_, ?_, hstep⟩
  · rwa [FileTree.isFile, hends.find?_of_ne hopened hstep hplace]
  · rwa [FileTree.isFile, hends.find?_of_ne hopened hstep htablePlace]

theorem Housed.round (h : Housed dir l x) (steps evalSteps : Nat) :
    Housed dir l (trainRound steps evalSteps x).2 := by
  have honward := (goesOn_beforeSave x steps evalSteps x (.refl x)).1
  rw [trainRound_eq, Action.bind_run]
  cases hbefore : beforeSave steps evalSteps x with
  | mk r z =>
  rw [hbefore] at honward
  cases r with
  | ok done => exact (h.onward honward).saved
  | error e => exact h.onward honward

/-- A restore reads the latest checkpoint and changes the network and the step. -/
theorem restoreLatest_eq_ok_some {step : Nat} :
    restoreLatest x = (.ok (some step), x') ↔
      ∃ c network, x.1.checkpointer = some c ∧
        c.restoreLatest x.1.network x.2.files = .ok (network, step) ∧
        ({ x.1 with network := network, step := step }, x.2) = x' := by
  obtain ⟨t, w⟩ := x
  constructor
  · intro h
    replace h := Action.read_bind_eq.1 h
    dsimp only at h
    cases hc : t.checkpointer with
    | none =>
        rw [hc] at h
        cases h
    | some c =>
        rw [hc] at h
        obtain ⟨entries, _, hlist, h⟩ := Action.bind_eq_ok.1 h
        obtain ⟨-, rfl⟩ := Action.lift_eq.1 hlist
        split at h
        · cases h
        obtain ⟨⟨network, s⟩, _, hrestored, h⟩ := Action.bind_eq_ok.1 h
        obtain ⟨hnetwork, rfl⟩ := Action.lift_eq.1 hrestored
        cases h
        exact ⟨c, network, rfl, Attempt.mapError_eq_ok.1 hnetwork, rfl⟩
  · rintro ⟨c, network, hc, hrestored, rfl⟩
    obtain ⟨⟨entries, hlist, hsome⟩, -⟩ := restoreLatest_eq_ok hrestored
    refine Action.read_bind_eq.2 ?_
    dsimp only at hc hrestored hlist ⊢
    conv_lhs => rw [hc]
    refine Action.bind_eq_ok.2 ⟨entries, _,
      Action.lift_eq.2 ⟨Attempt.mapError_eq_ok.2 hlist, rfl⟩, ?_⟩
    simp only [hsome, Bool.false_eq_true, if_false]
    exact Action.bind_eq_ok.2 ⟨(network, step), _,
      Action.lift_eq.2 ⟨Attempt.mapError_eq_ok.2 hrestored, rfl⟩, rfl⟩

section Restart

variable {batch : β} {Gives : κ → Prop} {name : String} {network : Network Float32 ι ο}
  {params : List (Param Float32)} {optimizer : Optimizer Float32 μ} {schedule : Nat → Float}
  {score : Network Float32 ι ο → β → Run Float32 (Score Float32)}
  {source : BatchSource Float32 σ κ β} {t : GradientTrainer σ κ β ι ο μ} {w₀ w v₀ : World Float32 σ}
  {before : List (Nat × Nat)} {step : Nat}

theorem exists_housed_of_make
    (hmake : make name network optimizer schedule score ⟨source, some dir⟩ w₀ = (.ok t, w)) :
    ∃ l, Housed dir l (t, w) := by
  obtain ⟨c, files, id, tree, hopen, hwrite, rfl, rfl⟩ := make_eq_ok.1 hmake
  obtain ⟨rfl, -, l, hopened⟩ := exists_opened_of_openAt hopen
  obtain ⟨hnotFile, hnone, hfound, hothers⟩ :=
    hopened.directory.write?_child isName_tableName hwrite
  have hkeeps := FileTree.keepsDirectories_of_change hnone hothers
  refine ⟨l, ⟨c, rfl, rfl, ?_⟩, (hkeeps l hopened.directory.directory).2.trans hnotFile, ?_,
    Nat.two_pow_pos 64⟩
  · exact ⟨hopened.directory.of_keepsDirectories hkeeps, hopened.sorted, hopened.lt_limit⟩
  · rw [FileTree.isFile, hfound]

/-- A trainer that has not made a step, and has drawn no batch. -/
structure Untrained (network : Network Float32 ι ο) (optimizer : Optimizer Float32 μ)
    (schedule : Nat → Float) (score : Network Float32 ι ο → β → Run Float32 (Score Float32))
    (source : BatchSource Float32 σ κ β) (t : GradientTrainer σ κ β ι ο μ) : Prop where
  network : t.network = network
  optimizer : t.optimizer = optimizer
  schedule : t.schedule = schedule
  score : t.score = score
  source : t.source = source
  memory : t.memory = []
  step : t.step = 0
  trainStream : t.trainStream = none
  evalStream : t.evalStream = none

theorem untrained_of_make
    (hmake : make name network optimizer schedule score ⟨source, some dir⟩ w₀ = (.ok t, w)) :
    t.Untrained network optimizer schedule score source := by
  obtain ⟨_, _, _, _, -, -, rfl, -⟩ := make_eq_ok.1 hmake
  exact ⟨rfl, rfl, rfl, rfl, rfl, rfl, rfl, rfl, rfl⟩

/-- The trainer learns in this way from one batch. -/
structure LearnsBy (optimizer : Optimizer Float32 μ) (schedule : Nat → Float)
    (score : Network Float32 ι ο → β → Run Float32 (Score Float32)) (batch : β) (Gives : κ → Prop)
    (t : GradientTrainer σ κ β ι ο μ) : Prop where
  optimizer : t.optimizer = optimizer
  schedule : t.schedule = schedule
  score : t.score = score
  repeats : t.Repeats batch Gives

theorem LearnsBy.alike (hx : x.1.LearnsBy optimizer schedule score batch Gives)
    (hx' : x'.1.LearnsBy optimizer schedule score batch Gives) (h : SameLearning x.1 x'.1) :
    Alike batch Gives x x' :=
  ⟨h, hx.optimizer.trans hx'.optimizer.symm, hx.schedule.trans hx'.schedule.symm,
    hx.score.trans hx'.score.symm, hx.repeats, hx'.repeats⟩

theorem LearnsBy.withLearned (h : t.LearnsBy optimizer schedule score batch Gives)
    (l : Learned ι ο μ) : (t.withLearned l).LearnsBy optimizer schedule score batch Gives :=
  { h with repeats := { h.repeats with } }

theorem LearnsBy.afterRounds (h : x.1.LearnsBy optimizer schedule score batch Gives)
    (rounds : List (Nat × Nat)) :
    (afterRounds rounds x).1.LearnsBy optimizer schedule score batch Gives := by
  have hkept := kept_afterRounds x rounds
  exact ⟨hkept.optimizer.trans h.optimizer, hkept.schedule.trans h.schedule,
    hkept.score.trans h.score, ((Alike.refl h.repeats).rounds rounds).left⟩

theorem Untrained.learnsBy (h : t.Untrained network optimizer schedule score source)
    (hrepeats : source.Repeats batch Gives) :
    t.LearnsBy optimizer schedule score batch Gives := by
  refine ⟨h.optimizer, h.schedule, h.score, h.source ▸ hrepeats, fun c hc => ?_, fun c hc => ?_⟩
  · cases h.trainStream.symm.trans hc
  · cases h.evalStream.symm.trans hc

theorem Untrained.updatesSince_eq (h : t.Untrained network optimizer schedule score source)
    (updates : μ → Nat) (w : World Float32 σ) (x : GradientTrainer σ κ β ι ο μ × World Float32 σ)
    (i : Nat) :
    updatesSince updates (t, w) x i = (network.params.map Param.id).count i * x.1.step := by
  simp [updatesSince, h.memory, h.step, h.network, updatesOf]

/-- A new trainer can be made where another one has its directory, and finds its checkpoints. -/
theorem Housed.exists_made (h : Housed dir l x) (hfiles : v₀.files = x.2.files)
    (name : String) (network : Network Float32 ι ο) (optimizer : Optimizer Float32 μ)
    (schedule : Nat → Float) (score : Network Float32 ι ο → β → Run Float32 (Score Float32))
    (source : BatchSource Float32 σ κ β) :
    ∃ (u : GradientTrainer σ κ β ι ο μ) (v : World Float32 σ) (c : Checkpointer),
      make name network optimizer schedule score ⟨source, some dir⟩ v₀ = (.ok u, v) ∧
        u.checkpointer = some c ∧ c.dir = dir ∧ SameCheckpoints dir x.2.files v.files := by
  obtain ⟨⟨c, -, rfl, hopened⟩, hnotFile, htable, -⟩ := h
  obtain ⟨steps, -, hopen⟩ := hopened.openAt_eq defaultKeep
  have hnone := FileTree.isDirectory_eq_false_of_isFile (by simp) htable
  obtain ⟨id, tree, hwrite⟩ :=
    hopened.directory.exists_write?_child isName_tableName hnotFile hnone (.ofText "")
  obtain ⟨-, -, -, hothers⟩ := hopened.directory.write?_child isName_tableName hwrite
  rw [← hfiles] at hopen hwrite
  refine ⟨_, _, _, make_eq_ok.2 ⟨_, _, id, tree, hopen, hwrite, rfl, rfl⟩, rfl, rfl, ?_⟩
  exact sameCheckpoints_of_unrelated hopened.directory hnotFile
    (FileTree.keepsDirectories_of_change hnone hothers)
    fun name s hs => hothers _ (ne_tableName hs)

/-- The optimizer remembers nothing of the parameters of the network. -/
def Forgotten (t : GradientTrainer σ κ β ι ο μ) : Prop :=
  ∀ p ∈ t.network.params, t.memory.lookup p.id = none

/-- Where there are gradients for all parameters, a rule that counts its updates remembers nothing
of a parameter only if no update was made, or none of that parameter. -/
theorem Untrained.lookup_eq_none_iff (h : t.Untrained network optimizer schedule score source)
    {updates : μ → Nat} (hcounts : optimizer.Counts updates) (hcovers : CoversParams score)
    (hkept : Kept (t, w) x) (i : Nat) :
    x.1.memory.lookup i = none ↔ x.1.step = 0 ∨ i ∉ network.params.map Param.id := by
  constructor
  · intro hnone
    by_contra hmoved
    rw [not_or, not_not] at hmoved
    have hleast := (hkept.updates updates (h.optimizer ▸ hcounts) (h.score ▸ hcovers) i).1
    have hpositive : 0 < (network.params.map Param.id).count i * x.1.step :=
      Nat.mul_pos (List.count_pos_iff.2 hmoved.2) (Nat.pos_of_ne_zero hmoved.1)
    rw [h.updatesSince_eq, updatesOf, hnone] at hleast
    exact absurd hleast (Nat.not_le.2 hpositive)
  · rintro (hzero | hother)
    · rw [hkept.untrained hzero, h.memory]
      rfl
    · rw [hkept.others i (by rwa [h.network]), h.memory]
      rfl

/-- So the restored parameters are forgotten only if none of them was ever moved. -/
theorem Untrained.forgotten_iff (h : t.Untrained network optimizer schedule score source)
    {updates : μ → Nat} (hcounts : optimizer.Counts updates) (hcovers : CoversParams score)
    (hkept : Kept (t, w) x) (restored : Network Float32 ι ο) (step : Nat) :
    Forgotten { x.1 with network := restored, step := step } ↔
      x.1.step = 0 ∨ ∀ p ∈ restored.params, p.id ∉ network.params.map Param.id := by
  simp only [Forgotten, h.lookup_eq_none_iff hcounts hcovers hkept]
  constructor
  · intro hforgotten
    by_cases hzero : x.1.step = 0
    · exact .inl hzero
    · exact .inr fun p hp => (hforgotten p hp).resolve_left hzero
  · rintro (hzero | hothers)
    · exact fun p hp => .inl hzero
    · exact fun p hp => .inr (hothers p hp)

/-- The updates of before a restore are counted together with those after it. -/
theorem Untrained.updatesOf_restored (h : t.Untrained network optimizer schedule score source)
    {updates : μ → Nat} (hcounts : optimizer.Counts updates) (hcovers : CoversParams score)
    (hkept : Kept (t, w) x) (hlimit : x.1.step + 1 < Count.limit)
    (restored : Network Float32 ι ο) (step : Nat)
    {y : GradientTrainer σ κ β ι ο μ × World Float32 σ}
    (hy : Kept ({ x.1 with network := restored, step := step }, x.2) y)
    (hcounted : y.1.step + 1 < Count.limit) (i : Nat) :
    y.1.memory.updatesOf updates i = (network.params.map Param.id).count i * x.1.step +
      (restored.params.map Param.id).count i * (y.1.step - step) := by
  have hbefore :=
    (hkept.updates updates (h.optimizer ▸ hcounts) (h.score ▸ hcovers) i).2 hlimit
  rw [h.updatesSince_eq] at hbefore
  have hoptimizer := hkept.optimizer.trans h.optimizer
  have hscore := hkept.score.trans h.score
  rw [(hy.updates updates (hoptimizer ▸ hcounts) (hscore ▸ hcovers) i).2 hcounted, updatesSince,
    hbefore]

/-- A trainer made on a copy of the files is restored to the same network and step. -/
theorem exists_restored_copy
    (hmake : make name network optimizer schedule score ⟨source, some dir⟩ w₀ = (.ok t, w))
    (htrained : afterRounds before (t, w) = x)
    (hrestore : restoreLatest x = (.ok (some step), x'))
    (hlength : params.length = network.params.length) (hfiles : v₀.files = x.2.files)
    (name' : String) :
    ∃ u v, make name' { network with params := params } optimizer schedule score
        ⟨source, some dir⟩ v₀ = (.ok u, v) ∧
      restoreLatest (u, v) =
        (.ok (some step), ({ u with network := x'.1.network, step := step }, v)) := by
  subst htrained
  obtain ⟨l, hhoused⟩ := exists_housed_of_make hmake
  replace hhoused : Housed dir l (afterRounds before (t, w)) :=
    afterRounds_induction (fun _ steps evalSteps h => h.round steps evalSteps) hhoused before
  have hkept := kept_afterRounds (t, w) before
  have huntrained := untrained_of_make hmake
  obtain ⟨c, restored, hc, hrestored, rfl⟩ := restoreLatest_eq_ok_some.1 hrestore
  obtain ⟨d, hd, hdir, -⟩ := hhoused.opened
  obtain rfl := Option.some.inj (hc.symm.trans hd)
  obtain ⟨u, v, c', hmade, hc', hdir', hsame⟩ := hhoused.exists_made hfiles name'
    { network with params := params } optimizer schedule score source
  refine ⟨u, v, hmade, restoreLatest_eq_ok_some.2 ⟨c', restored, hc', ?_, rfl⟩⟩
  -- Both are restored into the parts of the network that no round changes.
  rw [← hdir] at hsame hdir'
  rw [(untrained_of_make hmade).network, hsame.restoreLatest_eq hdir',
    restoreLatest_withParams hlength]
  have hparts := hkept.network
  rw [huntrained.network] at hparts
  have hcount := hkept.length_eq
  rw [huntrained.network] at hcount
  rw [hparts, restoreLatest_withParams hcount] at hrestored
  exact hrestored

theorem agreeOn_nil_iff_forgotten (t : GradientTrainer σ κ β ι ο μ) :
    AgreeOn (t.network.params.map Param.id) t.memory [] ↔ t.Forgotten := by
  simp only [AgreeOn, List.forall_mem_map, List.lookup_nil, Forgotten]

/-- A trainer that goes back to its latest checkpoint learns what a new trainer learns that is
restored from a copy of the directory, in any further rounds, exactly if its optimizer has no
moments for the restored parameters; with its memory, the new one would learn the same in any case.
Where there are gradients for all parameters, that is so only if it had not made a step before, or
if the checkpoint has other parameters than those it was trained on; else the moments of each
parameter go on counting from its steps before the restore. -/
theorem restored_in_place_as_anew_iff
    {t : GradientTrainer σ κ β ι ο (Moments Float32)}
    {x x' : GradientTrainer σ κ β ι ο (Moments Float32) × World Float32 σ}
    (hrepeats : source.Repeats batch Gives)
    (hmake : make name network .adam schedule score ⟨source, some dir⟩ w₀ = (.ok t, w))
    (htrained : afterRounds before (t, w) = x)
    (hrestore : restoreLatest x = (.ok (some step), x'))
    (hlength : params.length = network.params.length) (hfiles : v₀.files = x.2.files)
    (name' : String) :
    ∃ u v y', make name' { network with params := params } .adam schedule score
        ⟨source, some dir⟩ v₀ = (.ok u, v) ∧
      restoreLatest (u, v) = (.ok (some step), y') ∧
      x'.1.step = step ∧ y'.1.step = step ∧ x'.1.network = y'.1.network ∧
      ((∀ rounds, SameLearning (afterRounds rounds x').1 (afterRounds rounds y').1) ↔
        x'.1.Forgotten) ∧
      (∀ rounds, SameLearning (afterRounds rounds x').1
        (afterRounds rounds ({ y'.1 with memory := x'.1.memory }, y'.2)).1) ∧
      (CoversParams score →
        (x'.1.Forgotten ↔
          x.1.step = 0 ∨ ∀ p ∈ x'.1.network.params, p.id ∉ network.params.map Param.id) ∧
        (x.1.step + 1 < Count.limit → ∀ rounds i,
          (afterRounds rounds x').1.step = (afterRounds rounds y').1.step →
          (afterRounds rounds x').1.step + 1 < Count.limit →
          (afterRounds rounds x').1.memory.updatesOf Moments.updates i =
            (afterRounds rounds y').1.memory.updatesOf Moments.updates i +
              (network.params.map Param.id).count i * x.1.step)) := by
  obtain ⟨u, v, hmade, hrestored⟩ :=
    exists_restored_copy hmake htrained hrestore hlength hfiles name'
  obtain ⟨c, restored, -, -, rfl⟩ := restoreLatest_eq_ok_some.1 hrestore
  have ht := untrained_of_make hmake
  have hu := untrained_of_make hmade
  have hx : Kept (t, w) x := htrained ▸ kept_afterRounds (t, w) before
  have hlearns : x.1.LearnsBy .adam schedule score batch Gives :=
    htrained ▸ (ht.learnsBy hrepeats).afterRounds (x := (t, w)) before
  have halike (memory : OptimizerMemory (Moments Float32))
      (hmoments : AgreeOn (restored.params.map Param.id) x.1.memory memory) :
      Alike batch Gives ({ x.1 with network := restored, step := step }, x.2)
        ({ u with network := restored, step := step, memory := memory }, v) :=
    LearnsBy.alike (hlearns.withLearned ⟨restored, x.1.memory, step⟩)
      ((hu.learnsBy hrepeats).withLearned ⟨restored, memory, step⟩) ⟨rfl, rfl, hmoments⟩
  refine ⟨u, v, _, hmade, hrestored, rfl, rfl, rfl, ⟨fun hsame => ?_, fun hforgotten => ?_⟩, ?_,
    fun hcovers => ⟨?_, fun hlimit rounds i hsteps hcounted => ?_⟩⟩
  · have hmoments := (hsame []).memory
    rw [← agreeOn_nil_iff_forgotten, ← hu.memory]
    exact hmoments
  · rw [← agreeOn_nil_iff_forgotten, ← hu.memory] at hforgotten
    exact fun rounds => ((halike u.memory hforgotten).rounds rounds).learning
  · exact fun rounds => ((halike x.1.memory (.refl _ _)).rounds rounds).learning
  · exact ht.forgotten_iff Optimizer.counts_adam hcovers hx restored step
  · have hzero : u.step + 1 < Count.limit := by
      rw [hu.step]
      decide
    have hin := ht.updatesOf_restored Optimizer.counts_adam hcovers hx hlimit restored step
      (kept_afterRounds _ rounds) hcounted i
    have hanew := hu.updatesOf_restored Optimizer.counts_adam hcovers (.refl (u, v)) hzero
      restored step (kept_afterRounds _ rounds) (hsteps ▸ hcounted) i
    rw [hu.step, Nat.mul_zero, Nat.zero_add] at hanew
    rw [hin, hanew, hsteps, Nat.add_comm]

end Restart

/-- A trainer that goes back right after a completed round stays where it is. -/
theorem Recoverable.restoreLatest_of_round {count : Nat}
    {last : Option (Nat × List (Param Float32))} (h : Recoverable dir l count last x)
    {steps evalSteps : Nat} (hround : trainRound steps evalSteps x = (.ok (), x')) :
    restoreLatest x' = (.ok (some x'.1.step), x') := by
  have hafter := h.round hround
  obtain ⟨c, hc, -, -, -, hholds⟩ := hafter.held
  exact restoreLatest_eq hc hholds hafter.count

/-- A completed round of one step is one update. -/
theorem exists_update_of_round (h : trainRound 1 0 x = (.ok (), x')) :
    ∃ batch loss, x.1.update x.1.learned batch = .ok (loss, x'.1.learned) := by
  rw [trainRound_eq] at h
  obtain ⟨⟨⟩, z, hbefore, hsaved⟩ := Action.bind_eq_ok.1 h
  obtain ⟨⟨_, _, rfl⟩, -⟩ := saveCheckpoint_cases hsaved
  obtain ⟨losses, trained, scores, evaluated, report, htrains, hscores, -, rfl⟩ :=
    beforeSave_eq_ok hbefore
  obtain ⟨batches, y, l, hlength, -, hupdates, rfl⟩ := htrains
  obtain ⟨batch, rfl⟩ := List.length_eq_one_iff.1 hlength
  obtain ⟨⟨loss, l'⟩, hupdate, hrest⟩ := Attempt.bind_eq_ok.1 hupdates
  cases hrest
  exact ⟨batch, loss, hscores.aside.learned_eq ▸ hupdate⟩

namespace Decay

/-- The loss is half the square of the weights, so these are the gradients as well. -/
def score (network : Network Float32 Unit Unit) (_ : Unit) : Run Float32 (Score Float32) :=
  .ok ⟨0, [], .ok network.values⟩

/-- One batch at a time, in stream after stream. -/
def source : BatchSource Float32 Nat (Stream (Run Float32 Unit)) Unit := .ofLists [[.ok ()]]

/-- Its square is too small to be told from zero. -/
def weight : Float32 := 1e-30

def opened :
    GradientTrainer Nat (Stream (Run Float32 Unit)) Unit Unit Unit (Moments Float32) ×
      World Float32 Nat :=
  ({ Sample.opened.1 with
     network := Sample.network weight, optimizer := .adam, memory := [], score := score
     source := source },
   Sample.opened.2)

def Gives (stream : Stream (Run Float32 Unit)) : Prop := stream.items = fun i => [.ok ()][i]?

theorem repeats_source : source.Repeats () Gives where
  start started := by
    refine ⟨Stream.ofList [.ok ()], started + 1, ?_, rfl, rfl⟩
    simp [source, BatchSource.ofLists, Nat.mod_one]
  pull _ stream hitems := by
    simp only [source, BatchSource.ofLists, Stream.next, show stream.items = _ from hitems]
    cases stream.position <;> simp
  gives_pull _ stream hitems := by
    simp only [source, BatchSource.ofLists, Stream.next]
    split
    · exact hitems
    · exact hitems

theorem coversParams_score : CoversParams score := by
  rintro network batch s gradients hs hgradients
  cases hs
  cases hgradients
  simp [Network.values]

theorem make_opened :
    make "value" (Sample.network weight) .adam Sample.schedule score ⟨source, some Sample.runs⟩
      Sample.world = (.ok opened.1, opened.2) := by
  obtain ⟨c, files, id, tree, hopen, hwrite, ht, hv⟩ := make_eq_ok.1 Sample.make_opened
  refine make_eq_ok.2 ⟨c, files, id, tree, hopen, hwrite, ?_, hv⟩
  rw [opened, ← ht]

/-- After a round of one step, just before its checkpoint. -/
def trained :
    GradientTrainer Nat (Stream (Run Float32 Unit)) Unit Unit Unit (Moments Float32) ×
      World Float32 Nat :=
  (beforeSave 1 0 opened).2

theorem beforeSave_opened : beforeSave 1 0 opened = (.ok (), trained) :=
  Action.eq_of_toOption (by decide +kernel)

theorem step_trained : trained.1.step = 1 := by decide +kernel

theorem ids_trained : trained.1.network.params.map Param.id = [0] := by decide +kernel

theorem exists_round : ∃ c files, trainRound 1 0 opened =
    (.ok (), ({ trained.1 with checkpointer := some c }, { trained.2 with files := files })) := by
  have honward := (goesOn_beforeSave opened 1 0).keeps beforeSave_opened (.refl opened)
  obtain ⟨path, c, files, hsave⟩ : ∃ path c files, save ⟨Sample.runs, 5, []⟩
      trained.1.network.params 1 opened.2.files = (.ok path, c, files) := by
    have hdir : opened.2.files.DirectoryAt Sample.runs ["runs"] := ⟨rfl, rfl⟩
    have hname : Path.IsName (Checkpoint.fileName 1) := Checkpoint.isName_fileName (by decide)
    simp only [save, pathFor, hdir.place_child hname]
    exact ⟨_, _, _, rfl⟩
  rw [← step_trained, ← honward.files] at hsave
  have hsaved := (saveCheckpoint_eq_ok honward.checkpointer).2 ⟨path, c, files, hsave, rfl⟩
  refine ⟨c, files, ?_⟩
  rw [trainRound_eq]
  exact (Action.bind_of_ok beforeSave_opened).trans hsaved

/-- The trainer that goes on from the round with these moments, and keeps no files. -/
def learner (memory : OptimizerMemory (Moments Float32)) :
    GradientTrainer Nat (Stream (Run Float32 Unit)) Unit Unit Unit (Moments Float32) ×
      World Float32 Nat :=
  ({ opened.1 with
     checkpointer := none, network := trained.1.network, step := trained.1.step, memory },
   Sample.world)

/-- After one more round. -/
def again (memory : OptimizerMemory (Moments Float32)) :
    GradientTrainer Nat (Stream (Run Float32 Unit)) Unit Unit Unit (Moments Float32) ×
      World Float32 Nat :=
  (trainRound 1 0 (learner memory)).2

theorem round_learner :
    trainRound 1 0 (learner trained.1.memory) = (.ok (), again trained.1.memory) ∧
      trainRound 1 0 (learner []) = (.ok (), again []) :=
  ⟨Action.eq_of_toOption (by decide +kernel), Action.eq_of_toOption (by decide +kernel)⟩

/-- One step at the rate one. -/
def moved (memory : OptimizerMemory (Moments Float32)) (params : List (Param Float32)) :
    Except Abort (List (Param Float32) × OptimizerMemory (Moments Float32)) :=
  Optimizer.adam.update 1 params (params.map Param.value) memory

theorem moved_of_update
    {t : GradientTrainer Nat (Stream (Run Float32 Unit)) Unit Unit Unit (Moments Float32)}
    {l l' : Learned Unit Unit (Moments Float32)} {loss : Float32}
    (hrate : (1 : Float).toFloat32 = 1) (hoptimizer : t.optimizer = .adam)
    (hschedule : t.schedule = Sample.schedule) (hscore : t.score = score)
    (h : t.update l () = .ok (loss, l')) :
    moved l.memory l.network.params = .ok (l'.network.params, l'.memory) := by
  obtain ⟨s, hs, h⟩ := Attempt.bind_eq_ok.1 h
  rw [hscore] at hs
  cases hs
  obtain ⟨gradients, hgradients, h⟩ := Attempt.bind_eq_ok.1 h
  cases hgradients
  obtain ⟨⟨params, memory⟩, hmoved, h⟩ := Attempt.bind_eq_ok.1 h
  cases h
  replace hmoved := Attempt.lift_abort_eq_ok.1 hmoved
  rw [hoptimizer, hschedule] at hmoved
  change Optimizer.adam.update (1 : Float).toFloat32 _ _ _ = _ at hmoved
  rw [hrate] at hmoved
  exact hmoved

def bits (values : List (Tensor Float32)) : List (List UInt32) :=
  values.map fun v => v.entries.map Float32.toBits

/-- The step from where the first step has led, with the moments that it has left and without. -/
theorem bits_moved :
    let first := (moved [] [⟨0, .fill [1] weight⟩]).toOption.getD ([], [])
    (moved first.2 first.1).toOption.map (fun second => bits (second.1.map Param.value)) ≠
      (moved [] first.1).toOption.map fun second => bits (second.1.map Param.value) := by
  decide +kernel

theorem again_kept : (again trained.1.memory).1.step = 2 ∧
    (again trained.1.memory).1.network.params.map Param.id = [0] ∧
    (again trained.1.memory).1.memory.updatesOf Moments.updates 0 = 2 := by
  decide +kernel

theorem again_anew : (again []).1.step = 2 ∧ (again []).1.network.params.map Param.id = [0] ∧
    (again []).1.memory.updatesOf Moments.updates 0 = 1 := by
  decide +kernel

/-- The conversion of the rate is a primitive, of which no more is known here than is assumed. -/
theorem values_again (hrate : (1 : Float).toFloat32 = 1) :
    (again trained.1.memory).1.network.values ≠ (again []).1.network.values := by
  obtain ⟨c, files, hround⟩ := exists_round
  obtain ⟨⟨⟩, _, hfirst⟩ := exists_update_of_round hround
  obtain ⟨⟨⟩, _, hkept⟩ := exists_update_of_round round_learner.1
  obtain ⟨⟨⟩, _, hanew⟩ := exists_update_of_round round_learner.2
  replace hfirst := moved_of_update hrate rfl rfl rfl hfirst
  replace hkept := moved_of_update hrate rfl rfl rfl hkept
  replace hanew := moved_of_update hrate rfl rfl rfl hanew
  intro hvalues
  refine bits_moved ?_
  -- What the rounds have led to is known by the updates alone; it need not be computed.
  generalize again trained.1.memory = kept at hkept hvalues
  generalize again [] = anew at hanew hvalues
  change moved [] [⟨0, .fill [1] weight⟩] = _ at hfirst
  change moved trained.1.memory trained.1.network.params = _ at hkept
  change moved [] trained.1.network.params = _ at hanew
  rw [hfirst]
  change (moved trained.1.memory trained.1.network.params).toOption.map _ =
    (moved [] trained.1.network.params).toOption.map _
  rw [hkept, hanew]
  exact congrArg (fun values => some (bits values)) hvalues

theorem learnsBy_learner (memory : OptimizerMemory (Moments Float32)) :
    (learner memory).1.LearnsBy .adam Sample.schedule score () Gives :=
  have hopened := (untrained_of_make make_opened).learnsBy repeats_source
  { hopened with repeats := { hopened.repeats with } }

/-- The round is completed, and going back to its checkpoint changes nothing. -/
theorem exists_restored : ∃ c files x,
    ({ trained.1 with checkpointer := some c }, { trained.2 with files := files }) = x ∧
      trainRound 1 0 opened = (.ok (), x) ∧ restoreLatest x = (.ok (some 1), x) := by
  obtain ⟨c, files, hround⟩ := exists_round
  have hempty : scan opened.2.files Sample.runs = .ok [] := rfl
  obtain ⟨l, hrecoverable⟩ := exists_recoverable_of_make make_opened hempty
  refine ⟨c, files, _, rfl, hround, ?_⟩
  rw [← step_trained]
  exact hrecoverable.restoreLatest_of_round hround

end Decay

/-- A trainer that has made a step goes back to its checkpoint, and another one is made with other
weights and restored from a copy. -/
theorem restored_in_place_as_anew_iff_decay :
    Decay.source.Repeats () Decay.Gives ∧
    make "value" (Sample.network Decay.weight) .adam Sample.schedule Decay.score
        ⟨Decay.source, some Sample.runs⟩ Sample.world = (.ok Decay.opened.1, Decay.opened.2) ∧
    ∃ x, afterRounds [(1, 0)] Decay.opened = x ∧ restoreLatest x = (.ok (some 1), x) ∧
      ∃ u v y, make "other" { Sample.network Decay.weight with params := [⟨7, .fill [1] 2⟩] } .adam
          Sample.schedule Decay.score ⟨Decay.source, some Sample.runs⟩ x.2 = (.ok u, v) ∧
        restoreLatest (u, v) = (.ok (some 1), y) ∧
        (¬∀ rounds, SameLearning (afterRounds rounds x).1 (afterRounds rounds y).1) ∧
        ∀ rounds, SameLearning (afterRounds rounds x).1
          (afterRounds rounds ({ y.1 with memory := x.1.memory }, y.2)).1 := by
  obtain ⟨c, files, x, hx, hround, hrestore⟩ := Decay.exists_restored
  have htrained : afterRounds [(1, 0)] Decay.opened = x := congrArg Prod.snd hround
  have hlength : [(⟨7, .fill [1] 2⟩ : Param Float32)].length =
      (Sample.network Decay.weight).params.length := rfl
  obtain ⟨u, v, y, hmade, hrestored, -, -, -, hiff, hwithMemory, hcovered⟩ :=
    restored_in_place_as_anew_iff Decay.repeats_source Decay.make_opened htrained hrestore hlength
      rfl "other"
  refine ⟨Decay.repeats_source, Decay.make_opened, x, htrained, hrestore, u, v, y, hmade,
    hrestored, fun hsame => ?_, hwithMemory⟩
  subst hx
  obtain hzero | hothers :=
    (hcovered Decay.coversParams_score).1.1 (hiff.1 hsame)
  · cases hzero.symm.trans Decay.step_trained
  · have hmem : 0 ∈ Decay.trained.1.network.params.map Param.id := by
      rw [Decay.ids_trained]
      exact List.mem_singleton_self 0
    obtain ⟨p, hp, hid⟩ := List.mem_map.1 hmem
    refine hothers p hp ?_
    rw [hid]
    exact List.mem_singleton_self 0

/-- One more round leads to other weights than those of a new trainer with the same checkpoint, if
the rate one is the number one to the weights as well: the moments that Adam has kept are of two
updates then, and the new ones of one. -/
theorem restored_in_place_trains_on_old_moments :
    make "value" (Sample.network Decay.weight) .adam Sample.schedule Decay.score
        ⟨Decay.source, some Sample.runs⟩ Sample.world = (.ok Decay.opened.1, Decay.opened.2) ∧
    ∃ x, trainRound 1 0 Decay.opened = (.ok (), x) ∧ restoreLatest x = (.ok (some 1), x) ∧
      ∃ u v y, make "value" (Sample.network Decay.weight) .adam Sample.schedule Decay.score
          ⟨Decay.source, some Sample.runs⟩ x.2 = (.ok u, v) ∧
        restoreLatest (u, v) = (.ok (some 1), y) ∧
        (trainRound 1 0 x).2.1.step = 2 ∧ (trainRound 1 0 y).2.1.step = 2 ∧
        (trainRound 1 0 x).2.1.memory.updatesOf Moments.updates 0 = 2 ∧
        (trainRound 1 0 y).2.1.memory.updatesOf Moments.updates 0 = 1 ∧
        ((1 : Float).toFloat32 = 1 →
          (trainRound 1 0 x).2.1.network.values ≠ (trainRound 1 0 y).2.1.network.values) := by
  obtain ⟨c, files, x, hx, hround, hrestore⟩ := Decay.exists_restored
  have htrained : afterRounds [(1, 0)] Decay.opened = x := congrArg Prod.snd hround
  have hlength : (Sample.network Decay.weight).params.length =
      (Sample.network Decay.weight).params.length := rfl
  obtain ⟨u, v, hmade, hrestored⟩ :=
    exists_restored_copy Decay.make_opened htrained hrestore hlength rfl "value"
  have hopened := (untrained_of_make Decay.make_opened).learnsBy Decay.repeats_source
  have hu := untrained_of_make hmade
  have hkept : Alike () Decay.Gives x (Decay.learner Decay.trained.1.memory) := by
    have hlearns := htrained ▸ hopened.afterRounds (x := Decay.opened) [(1, 0)]
    refine hlearns.alike (Decay.learnsBy_learner _) ?_
    rw [← hx]
    exact ⟨rfl, rfl, .refl _ _⟩
  have hanew : Alike () Decay.Gives ({ u with network := x.1.network, step := 1 }, v)
      (Decay.learner []) := by
    have hlearns := (hu.learnsBy Decay.repeats_source).withLearned ⟨x.1.network, u.memory, 1⟩
    refine LearnsBy.alike (x := (_, v)) hlearns (Decay.learnsBy_learner []) ?_
    rw [← hx]
    refine ⟨rfl, Decay.step_trained.symm, ?_⟩
    change AgreeOn _ u.memory []
    rw [hu.memory]
    exact .refl _ _
  replace hkept := (hkept.round 1 0).learning
  replace hanew := (hanew.round 1 0).learning
  simp only [Decay.round_learner.1] at hkept
  simp only [Decay.round_learner.2] at hanew
  obtain ⟨hstep, hids, hupdates⟩ := Decay.again_kept
  obtain ⟨hstep', hids', hupdates'⟩ := Decay.again_anew
  refine ⟨Decay.make_opened, x, hround, hrestore, u, v, _, hmade, hrestored,
    hkept.step.trans hstep, hanew.step.trans hstep', ?_, ?_, fun hrate hvalues => ?_⟩
  · rw [hkept.updatesOf_eq Moments.updates (hids ▸ List.mem_singleton_self 0), hupdates]
  · rw [hanew.updatesOf_eq Moments.updates (hids' ▸ List.mem_singleton_self 0), hupdates']
  · rw [hkept.network, hanew.network] at hvalues
    exact Decay.values_again hrate hvalues

end GradientTrainer
end ActorCritic
