import ActorCritic.Proofs.Optimizer
import ActorCritic.Proofs.Trainer.Evaluation
import ActorCritic.Proofs.Trainer.Round

/-!
What an optimizer's memory has a say in. Trainers that are given one batch over and over, and whose
optimizers remember the same of the parameters of their networks, learn the same in any rounds,
wherever they save it. What is remembered is kept through rounds: a rule that counts its updates
counts all that were made of a parameter since the first.
-/

namespace ActorCritic

open OptimizerMemory

variable {σ κ β ι ο μ : Type}

/-- A source of one batch: its streams give the batch, at least once, and nothing else until they
end. -/
structure BatchSource.Repeats {α : Type} (source : BatchSource α σ κ β) (batch : β)
    (Gives : κ → Prop) : Prop where
  start : ∀ supply, ∃ stream rest, source.start supply = (.ok stream, rest) ∧ Gives stream ∧
    (source.pull rest stream).1 = some (.ok batch)
  pull : ∀ supply stream, Gives stream →
    (source.pull supply stream).1 = none ∨ (source.pull supply stream).1 = some (.ok batch)
  gives_pull : ∀ supply stream, Gives stream → Gives (source.pull supply stream).2

namespace GradientTrainer

variable {batch : β} {Gives : κ → Prop}
  {x y z : GradientTrainer σ κ β ι ο μ × World Float32 σ}

/-- Rounds one after another, whether they end well or not. -/
def afterRounds (rounds : List (Nat × Nat)) (x : GradientTrainer σ κ β ι ο μ × World Float32 σ) :
    GradientTrainer σ κ β ι ο μ × World Float32 σ :=
  rounds.foldl (fun x r => (trainRound r.1 r.2 x).2) x

/-- What every round keeps is there after any rounds. -/
theorem afterRounds_induction {P : GradientTrainer σ κ β ι ο μ × World Float32 σ → Prop}
    (hround : ∀ x steps evalSteps, P x → P (trainRound steps evalSteps x).2) (hx : P x)
    (rounds : List (Nat × Nat)) : P (afterRounds rounds x) := by
  induction rounds generalizing x with
  | nil => exact hx
  | cons r rounds ih => exact ih (hround x r.1 r.2 hx)

section Lockstep

/-- The network, the step, and what is remembered of the parameters are the same. -/
structure SameLearning (t u : GradientTrainer σ κ β ι ο μ) : Prop where
  network : t.network = u.network
  step : t.step = u.step
  memory : AgreeOn (t.network.params.map Param.id) t.memory u.memory

theorem SameLearning.refl (t : GradientTrainer σ κ β ι ο μ) : t.SameLearning t :=
  ⟨rfl, rfl, .refl _ _⟩

theorem SameLearning.updatesOf_eq {t u : GradientTrainer σ κ β ι ο μ} (h : t.SameLearning u)
    (updates : μ → Nat) {i : Nat} (hi : i ∈ u.network.params.map Param.id) :
    t.memory.updatesOf updates i = u.memory.updatesOf updates i := by
  rw [← h.network] at hi
  rw [updatesOf, updatesOf, h.memory i hi]

/-- The trainer is given one batch only. -/
structure Repeats (batch : β) (Gives : κ → Prop) (t : GradientTrainer σ κ β ι ο μ) : Prop where
  source : t.source.Repeats batch Gives
  trainStream : ∀ c, t.trainStream = some c → Gives c
  evalStream : ∀ c, t.evalStream = some c → Gives c

/-- The trainers learn from the same in the same way, and have learned the same. Their streams,
files and reports may differ, and so may what is remembered of parameters that neither has. -/
structure Alike (batch : β) (Gives : κ → Prop)
    (x y : GradientTrainer σ κ β ι ο μ × World Float32 σ) : Prop where
  learning : SameLearning x.1 y.1
  optimizer : x.1.optimizer = y.1.optimizer
  schedule : x.1.schedule = y.1.schedule
  score : x.1.score = y.1.score
  left : x.1.Repeats batch Gives
  right : y.1.Repeats batch Gives

theorem Alike.refl (h : x.1.Repeats batch Gives) : Alike batch Gives x x :=
  ⟨.refl x.1, rfl, rfl, rfl, h, h⟩

theorem nextBatch_repeats {source : BatchSource Float32 σ κ β}
    (h : source.Repeats batch Gives) (name : String) {stream : Option κ}
    (hstream : ∀ c, stream = some c → Gives c) (supply : σ) :
    ∃ c rest, Gives c ∧ nextBatch source name stream supply = (.ok batch, some c, rest) := by
  by_cases hended : ∀ c, stream = some c → (source.pull supply c).1 = none
  · obtain ⟨fresh, rest, hstart, hgives, hfirst⟩ := h.start supply
    exact ⟨_, rest, h.gives_pull rest fresh hgives,
      nextBatch_of_fresh hended hstart (Prod.ext hfirst rfl) nofun⟩
  · obtain ⟨c, hc⟩ := Classical.not_forall.1 hended
    obtain ⟨rfl, hitem⟩ := Classical.not_imp.1 hc
    have hgives := hstream c rfl
    exact ⟨_, supply, h.gives_pull supply c hgives,
      nextBatch_of_item ((h.pull supply c hgives).resolve_left hitem)⟩

theorem lockstep_nextTrainBatch :
    Action.Lockstep (Alike batch Gives) (nextTrainBatch : TrainerAction σ κ β ι ο μ β)
      nextTrainBatch := by
  rintro ⟨t, w⟩ ⟨u, v⟩ h
  obtain ⟨c, rest, hc, hnext⟩ :=
    nextBatch_repeats h.left.source t.name h.left.trainStream w.supply
  obtain ⟨c', rest', hc', hnext'⟩ :=
    nextBatch_repeats h.right.source u.name h.right.trainStream v.supply
  simp only [nextTrainBatch, hnext, hnext', true_and]
  exact { h with
    learning := { h.learning with }
    left := { h.left with trainStream := fun _ heq => Option.some.inj heq ▸ hc }
    right := { h.right with trainStream := fun _ heq => Option.some.inj heq ▸ hc' } }

theorem lockstep_nextEvalBatch :
    Action.Lockstep (Alike batch Gives) (nextEvalBatch : TrainerAction σ κ β ι ο μ β)
      nextEvalBatch := by
  rintro ⟨t, w⟩ ⟨u, v⟩ h
  obtain ⟨c, rest, hc, hnext⟩ :=
    nextBatch_repeats h.left.source t.name h.left.evalStream w.supply
  obtain ⟨c', rest', hc', hnext'⟩ :=
    nextBatch_repeats h.right.source u.name h.right.evalStream v.supply
  simp only [nextEvalBatch, hnext, hnext', true_and]
  exact { h with
    learning := { h.learning with }
    left := { h.left with evalStream := fun _ heq => Option.some.inj heq ▸ hc }
    right := { h.right with evalStream := fun _ heq => Option.some.inj heq ▸ hc' } }

theorem applyGradients_eq (rate : Float) (gradients : List (Tensor Float32))
    (x : GradientTrainer σ κ β ι ο μ × World Float32 σ) :
    applyGradients rate gradients x =
      match x.1.optimizer.update rate.toFloat32 x.1.network.params gradients x.1.memory with
      | .error a => (.error (.abort a), x)
      | .ok (params, memory) =>
          if x.1.step + 1 < Count.limit then
            (.ok (), x.1.withLearned ⟨{ x.1.network with params }, memory, x.1.step + 1⟩, x.2)
          else
            (.error (.abort (.overflow .add)),
              x.1.withLearned ⟨{ x.1.network with params }, memory, x.1.step⟩, x.2) := by
  obtain ⟨t, w⟩ := x
  refine Action.read_bind_eq.2 ?_
  dsimp only
  cases t.optimizer.update rate.toFloat32 t.network.params gradients t.memory with
  | error a => rfl
  | ok moved =>
      obtain ⟨params, memory⟩ := moved
      refine (Action.bind_of_ok (Action.lift_abort_eq_ok.2 ⟨rfl, rfl⟩)).trans ?_
      refine (Action.bind_of_ok (Action.update_eq_ok (u := ()).2 rfl)).trans ?_
      dsimp only
      split
      · next hlimit =>
          exact Action.bind_of_ok (Action.lift_abort_eq_ok.2
            ⟨Count.add_eq_ok.2 ⟨hlimit, rfl⟩, rfl⟩)
      · next hlimit =>
          exact Action.bind_eq_error.2 (.inl (Action.lift_abort_eq_error.2
            ⟨_, Count.add_eq_error.2 ⟨Nat.not_lt.1 hlimit, rfl⟩, rfl, rfl⟩))

/-- The ids stay, so memories that agree on the parameters before agree on them after. -/
theorem lockstep_applyGradients (rate : Float) (gradients : List (Tensor Float32)) :
    Action.Lockstep (Alike batch Gives)
      (applyGradients rate gradients : TrainerAction σ κ β ι ο μ Unit)
      (applyGradients rate gradients) := by
  rintro ⟨t, w⟩ ⟨u, v⟩ h
  have hnetwork : t.network = u.network := h.learning.network
  have hstep : t.step = u.step := h.learning.step
  have hoptimizer : t.optimizer = u.optimizer := h.optimizer
  have hsame : Optimizer.SameMove (t.network.params.map Param.id)
      (t.optimizer.update rate.toFloat32 t.network.params gradients t.memory)
      (t.optimizer.update rate.toFloat32 t.network.params gradients u.memory) :=
    Optimizer.update_sameMove (fun p hp => List.mem_map_of_mem hp) h.learning.memory
  rw [applyGradients_eq, applyGradients_eq]
  simp only [hnetwork, hstep, hoptimizer] at hsame ⊢
  generalize hupdate : u.optimizer.update rate.toFloat32 u.network.params gradients t.memory =
    moved at hsame ⊢
  generalize u.optimizer.update rate.toFloat32 u.network.params gradients u.memory =
    moved' at hsame ⊢
  cases hsame with
  | failed a => exact ⟨rfl, h⟩
  | @moved params memory memory' hagree =>
      rw [← (Optimizer.updated_of_update hupdate).map_id] at hagree
      have hlater (step : Nat) :
          Alike batch Gives (t.withLearned ⟨{ u.network with params }, memory, step⟩, w)
            (u.withLearned ⟨{ u.network with params }, memory', step⟩, v) :=
        { h with
          learning := ⟨rfl, rfl, hagree⟩, left := { h.left with }, right := { h.right with } }
      dsimp only
      split
      · exact ⟨rfl, hlater (u.step + 1)⟩
      · exact ⟨rfl, hlater u.step⟩

theorem lockstep_trainSteps (steps : Nat) (rate : Float) (losses : MetricMeans) :
    Action.Lockstep (Alike batch Gives)
      (trainSteps steps rate losses : TrainerAction σ κ β ι ο μ (Float × MetricMeans))
      (trainSteps steps rate losses) := by
  induction steps generalizing rate losses with
  | zero => exact .pure _
  | succ steps ih =>
      refine lockstep_nextTrainBatch.bind fun given => .read_bind ?_
      rintro ⟨t, w⟩ ⟨u, v⟩ h
      have hnetwork : t.network = u.network := h.learning.network
      have hstep : t.step = u.step := h.learning.step
      have hschedule : t.schedule = u.schedule := h.schedule
      have hscore : t.score = u.score := h.score
      simp only [hnetwork, hstep, hschedule, hscore]
      refine .bind .lift fun score => .bind .lift_abort fun _ => ?_
      refine .bind .lift_abort fun gradients => ?_
      exact (lockstep_applyGradients _ gradients).bind fun _ => ih _ _

theorem lockstep_evaluate (steps : Nat) (means : MetricMeans) :
    Action.Lockstep (Alike batch Gives)
      (evaluate steps means : TrainerAction σ κ β ι ο μ (Metrics Float32))
      (evaluate steps means) := by
  induction steps generalizing means with
  | zero => exact .pure _
  | succ steps ih =>
      refine lockstep_nextEvalBatch.bind fun given => .read_bind ?_
      rintro ⟨t, w⟩ ⟨u, v⟩ h
      have hnetwork : t.network = u.network := h.learning.network
      have hscore : t.score = u.score := h.score
      simp only [hnetwork, hscore]
      exact .bind .lift fun score => .bind .lift_abort fun _ => .bind .lift_abort fun _ => ih _

theorem lockstep_beforeSave (steps evalSteps : Nat) :
    Action.Lockstep (Alike batch Gives)
      (beforeSave steps evalSteps : TrainerAction σ κ β ι ο μ Unit)
      (beforeSave steps evalSteps) := by
  refine .read_bind ?_
  rintro ⟨t, w⟩ ⟨u, v⟩ h
  have hstep : t.step = u.step := h.learning.step
  have hschedule : t.schedule = u.schedule := h.schedule
  simp only [hstep, hschedule]
  refine (lockstep_trainSteps steps _ _).bind ?_
  rintro ⟨rate, losses⟩
  refine (lockstep_evaluate evalSteps _).bind fun metrics => .read_bind fun a b _ => .update ?_
  exact fun _ _ h => { h with
    learning := { h.learning with }, left := { h.left with }, right := { h.right with } }

/-- Whether a checkpoint is saved or not is nothing to what is learned from then on. -/
theorem Alike.saved (h : Alike batch Gives x y) {r r' : Run Float32 Unit}
    {x' y' : GradientTrainer σ κ β ι ο μ × World Float32 σ} (hx : saveCheckpoint x = (r, x'))
    (hy : saveCheckpoint y = (r', y')) : Alike batch Gives x' y' := by
  obtain ⟨⟨_, _, rfl⟩, -⟩ := saveCheckpoint_cases hx
  obtain ⟨⟨_, _, rfl⟩, -⟩ := saveCheckpoint_cases hy
  exact { h with
    learning := { h.learning with }, left := { h.left with }, right := { h.right with } }

theorem Alike.round (h : Alike batch Gives x y) (steps evalSteps : Nat) :
    Alike batch Gives (trainRound steps evalSteps x).2 (trainRound steps evalSteps y).2 := by
  obtain ⟨hresult, hlater⟩ := lockstep_beforeSave steps evalSteps x y h
  rw [trainRound_eq, Action.bind_run, Action.bind_run, Action.eq_of_fst hresult]
  cases hy : beforeSave steps evalSteps y with
  | mk r v =>
  rw [hy] at hlater
  cases r with
  | ok done => exact hlater.saved (Action.eq_of_fst rfl) (Action.eq_of_fst rfl)
  | error e => exact hlater

/-- Trainers that are alike stay alike. -/
theorem Alike.rounds (h : Alike batch Gives x y) (rounds : List (Nat × Nat)) :
    Alike batch Gives (afterRounds rounds x) (afterRounds rounds y) := by
  induction rounds generalizing x y with
  | nil => exact h
  | cons r rounds ih => exact ih (h.round r.1 r.2)

end Lockstep

section Kept

/-- There is a gradient for every parameter, whatever the network is scored on. -/
def CoversParams (score : Network Float32 ι ο → β → Run Float32 (Score Float32)) : Prop :=
  ∀ network batch s gradients, score network batch = .ok s → s.gradients = .ok gradients →
    network.params.length ≤ gradients.length

/-- The updates that were made by then of the parameter `i`, those that were counted at first among
them; a parameter that stands in the network more than once is moved as often. -/
def updatesSince (updates : μ → Nat) (x y : GradientTrainer σ κ β ι ο μ × World Float32 σ)
    (i : Nat) : Nat :=
  x.1.memory.updatesOf updates i +
    (x.1.network.params.map Param.id).count i * (y.1.step - x.1.step)

/-- What rounds keep of a trainer. An update may be made for which there is no count left; only
then have there been more updates than steps. -/
structure Kept (x y : GradientTrainer σ κ β ι ο μ × World Float32 σ) : Prop where
  optimizer : y.1.optimizer = x.1.optimizer
  schedule : y.1.schedule = x.1.schedule
  score : y.1.score = x.1.score
  network : y.1.network = { x.1.network with params := y.1.network.params }
  ids : y.1.network.params.map Param.id = x.1.network.params.map Param.id
  step_le : x.1.step ≤ y.1.step
  untrained : y.1.step = 0 → y.1.memory = x.1.memory
  others : ∀ i, i ∉ x.1.network.params.map Param.id → y.1.memory.lookup i = x.1.memory.lookup i
  updates : ∀ updates, x.1.optimizer.Counts updates → CoversParams x.1.score → ∀ i,
    updatesSince updates x y i ≤ y.1.memory.updatesOf updates i ∧
      (y.1.step + 1 < Count.limit → y.1.memory.updatesOf updates i = updatesSince updates x y i)

theorem Kept.refl (x : GradientTrainer σ κ β ι ο μ × World Float32 σ) : Kept x x := by
  refine ⟨rfl, rfl, rfl, rfl, rfl, Nat.le_refl _, fun _ => rfl, fun _ _ => rfl, fun _ _ _ i => ?_⟩
  simp [updatesSince]

theorem Kept.length_eq (h : Kept x y) :
    y.1.network.params.length = x.1.network.params.length := by
  simpa using congrArg List.length h.ids

/-- An update, whether or not there is a count left for it. -/
theorem Kept.moved (h : Kept x y) {rate : Float32} {gradients : List (Tensor Float32)}
    {params : List (Param Float32)} {memory : OptimizerMemory μ} {step : Nat}
    (hcovers : CoversParams x.1.score → y.1.network.params.length ≤ gradients.length)
    (hmoved : y.1.optimizer.update rate y.1.network.params gradients y.1.memory =
      .ok (params, memory))
    (hstep : step = y.1.step + 1 ∨ step = y.1.step ∧ Count.limit ≤ y.1.step + 1) :
    Kept x (y.1.withLearned ⟨{ y.1.network with params }, memory, step⟩, y.2) := by
  have hupdated := Optimizer.updated_of_update hmoved
  have hpositive : step ≠ 0 := by
    have hlimit : 1 < Count.limit := by decide
    omega
  refine ⟨h.optimizer, h.schedule, h.score, ?_, hupdated.map_id.trans h.ids, ?_,
    fun hzero => absurd hzero hpositive, fun i hi => ?_, fun updates hcounts hscore i => ?_⟩
  · change { y.1.network with params := params } = { x.1.network with params := params }
    rw [h.network]
  · have hle := h.step_le
    change x.1.step ≤ step
    omega
  · rw [← h.others i hi]
    exact hupdated.lookup_eq (h.ids ▸ hi)
  · have hcount := hupdated.updatesOf_eq (h.optimizer ▸ hcounts) (i := i) (hcovers hscore)
    rw [h.ids] at hcount
    obtain ⟨hleast, hexact⟩ := h.updates updates hcounts hscore i
    have hle := h.step_le
    change _ ≤ memory.updatesOf updates i ∧ (step + 1 < _ → memory.updatesOf updates i = _)
    simp only [updatesSince] at hleast hexact ⊢
    change _ + _ * (step - _) ≤ _ ∧ (_ → _ = _ + _ * (step - _))
    rw [hcount]
    obtain rfl | ⟨rfl, hlimit⟩ := hstep
    · rw [Nat.sub_add_comm hle, Nat.mul_succ]
      exact ⟨by omega, fun hlt => by have := hexact (by omega); omega⟩
    · exact ⟨by omega, fun hlt => absurd hlimit (by omega)⟩

theorem kept_applyGradients {rate : Float} {gradients : List (Tensor Float32)}
    (hcovers : CoversParams x.1.score → x.1.network.params.length ≤ gradients.length) :
    Action.Respects (Kept x) (fun _ => True)
      (applyGradients rate gradients : TrainerAction σ κ β ι ο μ Unit) := by
  refine fun y hy => ⟨?_, fun _ _ => trivial⟩
  have hcovers' := fun hscore => hy.length_eq.trans_le (hcovers hscore)
  generalize hended : applyGradients rate gradients y = ended
  obtain ⟨r, z⟩ := ended
  cases applyGradients_cases hended with
  | refused _ => exact hy
  | uncounted hmoved hlimit => exact hy.moved hcovers' hmoved (.inr ⟨rfl, hlimit⟩)
  | applied hmoved => exact hy.moved hcovers' hmoved (.inl rfl)

theorem kept_trainSteps (x : GradientTrainer σ κ β ι ο μ × World Float32 σ) (steps : Nat)
    (rate : Float) (losses : MetricMeans) :
    Action.Respects (Kept x) (fun _ => True)
      (trainSteps steps rate losses : TrainerAction σ κ β ι ο μ (Float × MetricMeans)) := by
  have hdraw : Action.Respects (Kept x) (fun _ => True)
      (nextTrainBatch : TrainerAction σ κ β ι ο μ β) :=
    fun _ h => ⟨{ h with }, fun _ _ => trivial⟩
  refine respects_trainSteps (fun _ => trivial) (fun _ _ _ _ _ => trivial) hdraw ?_ _ _ _
  intro y hy batch score gradients hscored hgradients rate
  refine kept_applyGradients fun hcovers => ?_
  rw [← hy.length_eq]
  rw [← hy.score] at hcovers
  exact hcovers _ _ _ _ hscored hgradients

theorem kept_evaluate (x : GradientTrainer σ κ β ι ο μ × World Float32 σ) (steps : Nat)
    (means : MetricMeans) :
    Action.Respects (Kept x) (fun _ => True)
      (evaluate steps means : TrainerAction σ κ β ι ο μ (Metrics Float32)) :=
  respects_evaluate (fun _ => trivial) (fun _ _ _ _ _ => trivial)
    (fun _ h => ⟨{ h with }, fun _ _ => trivial⟩) _ _

theorem kept_trainRound (x : GradientTrainer σ κ β ι ο μ × World Float32 σ)
    (steps evalSteps : Nat) :
    Action.Respects (Kept x) (fun _ => True)
      (trainRound steps evalSteps : TrainerAction σ κ β ι ο μ Unit) := by
  rw [trainRound_eq]
  refine .bind (.read_bind fun y _ => ?_) fun _ y hy => ⟨?_, fun _ _ => trivial⟩
  · refine (kept_trainSteps x steps _ _).bind ?_
    rintro ⟨rate, losses⟩
    refine (kept_evaluate x evalSteps _).bind fun metrics => .read_bind fun z _ => ?_
    exact .update fun _ h => { h with }
  · generalize hended : saveCheckpoint y = ended
    obtain ⟨r, z⟩ := ended
    obtain ⟨⟨_, _, rfl⟩, -⟩ := saveCheckpoint_cases hended
    exact { hy with }

theorem kept_afterRounds (x : GradientTrainer σ κ β ι ο μ × World Float32 σ)
    (rounds : List (Nat × Nat)) : Kept x (afterRounds rounds x) :=
  afterRounds_induction (fun y steps evalSteps hy => (kept_trainRound x steps evalSteps y hy).1)
    (.refl x) rounds

end Kept

end GradientTrainer
end ActorCritic
