import ActorCritic.Proofs.Following
import ActorCritic.Proofs.Metrics.Mean
import ActorCritic.Proofs.Trainer.Gradient
import ActorCritic.Trainer.Sharing

/-!
Training with and without evaluation. An evaluation moves its own stream and what is reported, and
training reads neither; so rounds that end in evaluations train as their steps would in one go.
This is so as long as no batch fails to be built, since a batch that fails ends its round, be it
drawn for training or for evaluation.
-/

namespace ActorCritic

variable {α κ β γ ι ο μ : Type}

/-- A source whose batches never fail and never are missing: every one of its streams begins as
`fresh`, which is not empty, and every batch is built, as long as the value target satisfies
`T`. -/
structure BatchSource.Steady (source : BatchSource α (Supply α) (Stream γ) β)
    (T : ValueTarget α → Prop) (fresh : Stream γ) : Prop where
  start : ∀ supply, ∃ requests, source.start supply = (.ok fresh, ⟨supply.target, requests⟩)
  first : ∀ supply, T supply.target → (source.pull supply fresh).1 ≠ none
  pull_congr : ∀ supply supply' stream, supply.target = supply'.target →
    source.pull supply stream = source.pull supply' stream
  pull_items : ∀ supply stream, (source.pull supply stream).2.items = stream.items
  pull_ok : ∀ supply stream item, T supply.target → stream.items = fresh.items →
    (source.pull supply stream).1 = some item → ∃ batch, item = .ok batch

/-- The streams of a task are steady if the task has a first trajectory and a batch is built from
each one. -/
theorem BatchSource.steady_ofTask {task : Task α} {request : SliceRequest}
    {build : ValueTarget α → Trajectory α → Attempt ShapeError β} {T : ValueTarget α → Prop}
    {fresh : Stream (Trajectory α)} (hstream : task.stream request = .ok fresh)
    (hfirst : fresh.items fresh.position ≠ none)
    (hbuilds : ∀ i trajectory, fresh.items i = some trajectory → ∀ target, T target →
      ∃ batch, build target trajectory = .ok batch) :
    (BatchSource.ofTask task request build).Steady T fresh where
  start supply := by
    simp only [ofTask, hstream]
    exact ⟨_, rfl⟩
  first supply _ := by
    obtain ⟨trajectory, htrajectory⟩ := Option.ne_none_iff_exists'.1 hfirst
    simp [ofTask, Stream.next, htrajectory]
  pull_congr supply supply' stream h := by
    simp only [ofTask, h]
  pull_items supply stream := by
    simp only [ofTask, Stream.next]
    split <;> rfl
  pull_ok supply stream item hT hstream hitem := by
    obtain ⟨trajectory, hnext, rfl⟩ := Option.map_eq_some_iff.1 hitem
    have hgiven : fresh.items stream.position = some trajectory := by
      rw [← hstream]
      cases hfound : stream.items stream.position with
      | some found => simpa [Stream.next, hfound] using hnext
      | none => simp [hfound] at hnext
    obtain ⟨batch, hbatch⟩ := hbuilds stream.position trajectory hgiven supply.target hT
    exact ⟨batch, by rw [hbatch]; rfl⟩

namespace GradientTrainer

variable {T : ValueTarget Float32 → Prop} {fresh : Stream γ}

theorem nextBatch_of_item {σ : Type} {source : BatchSource Float32 σ κ β} {name : String} {c : κ}
    {supply : σ} {item : Run Float32 β} (hpull : (source.pull supply c).1 = some item) :
    nextBatch source name (some c) supply = (item, some (source.pull supply c).2, supply) := by
  simp only [nextBatch, hpull]

/-- A fresh stream is kept with its first item, be that a batch or an error. -/
theorem nextBatch_of_fresh {σ : Type} {source : BatchSource Float32 σ κ β} {name : String}
    {stream : Option κ} {fresh c : κ} {supply rest : σ} {item : Run Float32 β}
    (hended : ∀ c, stream = some c → (source.pull supply c).1 = none)
    (hstart : source.start supply = (.ok fresh, rest))
    (hpull : source.pull rest fresh = (some item, c)) (hitem : ∀ a, item ≠ .error (.abort a)) :
    nextBatch source name stream supply = (item, some c, rest) := by
  cases stream with
  | none => simp only [nextBatch, hstart, hpull]
  | some current => simp only [nextBatch, hended current rfl, hstart, hpull]

/-- A steady source gives a batch at every call, which is told by the stream and the target. -/
theorem nextBatch_steady {source : BatchSource Float32 (Supply Float32) (Stream γ) β}
    (h : source.Steady T fresh) {stream : Option (Stream γ)}
    (hstream : ∀ c, stream = some c → c.items = fresh.items) {target : ValueTarget Float32}
    (hT : T target) (name : String) :
    ∃ batch c, c.items = fresh.items ∧ ∀ supply, supply.target = target → ∃ requests,
      nextBatch source name stream supply = (.ok batch, some c, ⟨target, requests⟩) := by
  let reference : Supply Float32 := ⟨target, []⟩
  have hsame (supply : Supply Float32) (htarget : supply.target = target) (c : Stream γ) :
      source.pull supply c = source.pull reference c := h.pull_congr _ _ c htarget
  by_cases hended : ∀ c, stream = some c → (source.pull reference c).1 = none
  · obtain ⟨item, hitem⟩ := Option.ne_none_iff_exists'.1 (h.first reference hT)
    obtain ⟨batch, rfl⟩ := h.pull_ok reference fresh item hT rfl hitem
    refine ⟨batch, _, h.pull_items reference fresh, ?_⟩
    rintro supply rfl
    obtain ⟨requests, hstart⟩ := h.start supply
    refine ⟨requests, nextBatch_of_fresh ?_ hstart ?_ nofun⟩
    · intro c hc
      rw [hsame supply rfl]
      exact hended c hc
    · exact (hsame ⟨supply.target, requests⟩ rfl fresh).trans (Prod.ext hitem rfl)
  · obtain ⟨c, hc⟩ := Classical.not_forall.1 hended
    obtain ⟨rfl, hitem⟩ := Classical.not_imp.1 hc
    obtain ⟨item, hitem⟩ := Option.ne_none_iff_exists'.1 hitem
    obtain ⟨batch, rfl⟩ := h.pull_ok reference c item hT (hstream c rfl) hitem
    refine ⟨batch, _, (h.pull_items reference c).trans (hstream c rfl), ?_⟩
    rintro supply rfl
    have hpull : (source.pull supply c).1 = some (.ok batch) := by
      rw [hsame supply rfl]
      exact hitem
    refine ⟨supply.requests, ?_⟩
    rw [nextBatch_of_item hpull, hsame supply rfl]

/-- Both are one trainer, apart from what only evaluation and reports use. -/
def SameTraining {σ : Type} (t u : GradientTrainer σ κ β ι ο μ) : Prop :=
  ∃ evalStream loggers history,
    u = { t with evalStream := evalStream, loggers := loggers, history := history }

/-- The parameters, the optimizer's memory and the step are the same. -/
structure TrainedAlike {σ : Type} (t u : GradientTrainer σ κ β ι ο μ) : Prop where
  network : t.network = u.network
  memory : t.memory = u.memory
  step : t.step = u.step

theorem SameTraining.trainedAlike {σ : Type} {t u v : GradientTrainer σ κ β ι ο μ}
    (ht : t.SameTraining v) (hu : u.SameTraining v) : t.TrainedAlike u := by
  obtain ⟨_, _, _, rfl⟩ := ht
  obtain ⟨_, _, _, h⟩ := hu
  obtain ⟨⟩ := u
  cases h
  exact ⟨rfl, rfl, rfl⟩

/-- A trainer that never lacks a batch nor fails to score it, and keeps no checkpoints. -/
structure Fed (T : ValueTarget Float32 → Prop) (fresh : Stream γ)
    (t : GradientTrainer (Supply Float32) (Stream γ) β ι ο μ) : Prop where
  source : t.source.Steady T fresh
  trainStream : ∀ c, t.trainStream = some c → c.items = fresh.items
  evalStream : ∀ c, t.evalStream = some c → c.items = fresh.items
  score : ∀ network batch e, t.score network batch = .error e → ∃ a, e = .abort a
  checkpointer : t.checkpointer = none

/-- Two trainers at one step that differ in nothing that training uses. -/
structure InStep (T : ValueTarget Float32 → Prop) (fresh : Stream γ) (step : Nat)
    (x y : GradientTrainer (Supply Float32) (Stream γ) β ι ο μ × World Float32 (Supply Float32)) :
    Prop where
  same : x.1.SameTraining y.1
  target : x.2.supply.target = y.2.supply.target
  step : x.1.step = step
  fits : T x.2.supply.target
  left : x.1.Fed T fresh
  right : y.1.Fed T fresh

theorem InStep.right_step {step : Nat}
    {x y : GradientTrainer (Supply Float32) (Stream γ) β ι ο μ × World Float32 (Supply Float32)}
    (h : InStep T fresh step x y) : y.1.step = step := by
  obtain ⟨evalStream, loggers, history, hsame⟩ := h.same
  rw [hsame]
  exact h.step

/-- Of what the trainers act on, only the value target matters. -/
theorem InStep.of_target {step : Nat}
    {x y : GradientTrainer (Supply Float32) (Stream γ) β ι ο μ × World Float32 (Supply Float32)}
    (h : InStep T fresh step x y) {w v : World Float32 (Supply Float32)}
    (htarget : w.supply.target = v.supply.target) (hfits : T w.supply.target) :
    InStep T fresh step (x.1, w) (y.1, v) :=
  ⟨h.same, htarget, h.step, hfits, h.left, h.right⟩

variable {n : Nat}
  {F : GradientTrainer (Supply Float32) (Stream γ) β ι ο μ × World Float32 (Supply Float32) →
    GradientTrainer (Supply Float32) (Stream γ) β ι ο μ × World Float32 (Supply Float32) → Prop}

theorem follows_nextTrainBatch :
    Action.Follows (InStep T fresh n) (InStep T fresh n) F Eq
      (nextTrainBatch : TrainerAction (Supply Float32) (Stream γ) β ι ο μ β) nextTrainBatch := by
  rintro ⟨t, w⟩ ⟨_, v⟩ ⟨⟨evalStream, loggers, history, rfl⟩, htarget, hstep, hT, hleft, hright⟩ -
  obtain ⟨batch, c, hc, hnext⟩ := nextBatch_steady hleft.source hleft.trainStream hT t.name
  obtain ⟨requests, hfirst⟩ := hnext w.supply rfl
  obtain ⟨requests', hsecond⟩ := hnext v.supply htarget.symm
  refine .inl ⟨batch,
    ({ t with trainStream := some c }, { w with supply := ⟨w.supply.target, requests⟩ }), batch,
    ({ t with trainStream := some c, evalStream, loggers, history },
      { v with supply := ⟨w.supply.target, requests'⟩ }), ?_, ?_, rfl, ?_⟩
  · simp only [nextTrainBatch, hfirst]
  · simp only [nextTrainBatch, hsecond]
  · have hkept : ∀ c', some c = some c' → c'.items = fresh.items :=
      fun c' hc' => Option.some.inj hc' ▸ hc
    exact ⟨⟨evalStream, loggers, history, rfl⟩, rfl, hstep, hT,
      { hleft with trainStream := hkept }, { hright with trainStream := hkept }⟩

theorem follows_applyGradients (rate : Float) (gradients : List (Tensor Float32)) :
    Action.Follows (InStep T fresh n) (InStep T fresh (n + 1)) F (fun _ _ => True)
      (applyGradients rate gradients : TrainerAction (Supply Float32) (Stream γ) β ι ο μ Unit)
      (applyGradients rate gradients) := by
  refine .read_bind ?_
  rintro ⟨t, w⟩ ⟨_, v⟩ ⟨⟨evalStream, loggers, history, rfl⟩, -, rfl, -⟩
  refine .bind .lift_abort ?_
  rintro ⟨params, memory⟩ _ ⟨rfl, -⟩
  refine .bind (.update (S := InStep T fresh t.step) ?_) fun _ _ _ => ?_
  · rintro ⟨t, w⟩ ⟨_, v⟩ ⟨⟨evalStream, loggers, history, rfl⟩, htarget, hstep, hT, hleft, hright⟩
    exact ⟨⟨evalStream, loggers, history, rfl⟩, htarget, hstep, hT,
      { hleft with }, { hright with }⟩
  refine .bind .lift_abort ?_
  rintro step _ ⟨rfl, hsum⟩
  obtain ⟨-, rfl⟩ := Count.add_eq_ok.1 hsum
  refine .update ?_
  rintro ⟨u, w⟩ ⟨_, v⟩ ⟨⟨evalStream, loggers, history, rfl⟩, htarget, -, hT, hleft, hright⟩
  exact ⟨⟨evalStream, loggers, history, rfl⟩, htarget, rfl, hT, { hleft with }, { hright with }⟩

/-- The loss is recorded before the gradients are applied. -/
def learnFrom {σ : Type} (rate : Float) (score : Score Float32) (losses : MetricMeans) :
    TrainerAction σ κ β ι ο μ MetricMeans := do
  let (losses, _) ← losses.record "loss" score.loss
  applyGradients rate (← score.gradients)
  return losses

theorem trainSteps_succ {σ : Type} (steps : Nat) (rate : Float) (losses : MetricMeans) :
    (trainSteps (steps + 1) rate losses : TrainerAction σ κ β ι ο μ (Float × MetricMeans)) = (do
      let batch ← nextTrainBatch
      let (t, _) ← Action.read
      let score ← t.score t.network batch
      let losses ← learnFrom (t.schedule t.step) score losses
      trainSteps steps (t.schedule t.step) losses) := by
  simp only [trainSteps, learnFrom, bind_assoc, pure_bind]

/-- Every loss is one of a step, so that there are no more of them than can be counted. -/
theorem follows_learnFrom (rate : Float) (score : Score Float32) (losses losses' : MetricMeans)
    (h : losses'.AtMost n) :
    Action.Follows (InStep T fresh n) (InStep T fresh (n + 1)) F (fun _ l => l.AtMost (n + 1))
      (learnFrom rate score losses :
        TrainerAction (Supply Float32) (Stream γ) β ι ο μ MetricMeans)
      (learnFrom rate score losses') := by
  intro x y hxy hreturns
  cases hended : learnFrom rate score losses x with
  | mk r u =>
  rw [hended] at hreturns
  obtain ⟨e, hfull, rfl⟩ | ⟨⟨means, line⟩, _, hmade, hrest⟩ := Action.bind_eq.1 hended
  · obtain ⟨a, -, rfl, -⟩ := Action.lift_abort_eq_error.1 hfull
    exact absurd rfl (hreturns a)
  obtain ⟨-, rfl⟩ := Action.lift_abort_eq_ok.1 hmade
  obtain ⟨e, hrefused, rfl⟩ | ⟨gradients, _, hmade, hrest⟩ := Action.bind_eq.1 hrest
  · obtain ⟨a, -, rfl, -⟩ := Action.lift_abort_eq_error.1 hrefused
    exact absurd rfl (hreturns a)
  obtain ⟨hgradients, rfl⟩ := Action.lift_abort_eq_ok.1 hmade
  obtain ⟨e, hfailed, rfl⟩ | ⟨⟨⟩, v, happlied, hrest⟩ := Action.bind_eq.1 hrest
  · obtain ⟨a, rfl⟩ := applyGradients_eq_error hfailed
    exact absurd rfl (hreturns a)
  cases hrest
  have hroom : n + 1 < Count.limit := by
    rw [← hxy.step]
    exact (step_applyGradients happlied).2
  obtain ⟨means', line', hrecord, hmeans'⟩ := h.exists_record hroom "loss" score.loss
  have hfollows := follows_applyGradients (F := F) rate gradients _ y hxy
  rw [happlied] at hfollows
  obtain ⟨_, u, _, v, hu, hv, -, hlater⟩ | ⟨_, _, _, hfailed, -⟩ := hfollows nofun
  · cases hu
    refine .inl ⟨means, _, means', v, rfl, ?_, hmeans', hlater⟩
    refine (Action.bind_of_ok (Action.lift_abort_eq_ok.2 ⟨hrecord, rfl⟩)).trans ?_
    refine (Action.bind_of_ok (Action.lift_abort_eq_ok.2 ⟨hgradients, rfl⟩)).trans ?_
    exact Action.bind_of_ok hv
  · cases hfailed

/-- Neither the rate nor the losses so far have a say in the training itself. -/
theorem follows_trainSteps (steps : Nat) (rate rate' : Float) (losses losses' : MetricMeans)
    (h : losses'.AtMost n) :
    Action.Follows (InStep T fresh n) (InStep T fresh (n + steps)) F
      (fun _ r => r.2.AtMost (n + steps))
      (trainSteps steps rate losses :
        TrainerAction (Supply Float32) (Stream γ) β ι ο μ (Float × MetricMeans))
      (trainSteps steps rate' losses') := by
  induction steps generalizing n rate rate' losses losses' with
  | zero => exact .pure h
  | succ steps ih =>
      rw [trainSteps_succ, trainSteps_succ]
      refine follows_nextTrainBatch.bind ?_
      rintro batch _ rfl
      refine .read_bind ?_
      rintro ⟨t, w⟩ ⟨_, v⟩ ⟨⟨evalStream, loggers, history, rfl⟩, -, -, -, hleft, -⟩
      refine .bind (.lift_of_abort (hleft.score t.network batch)) ?_
      rintro score _ ⟨rfl, -⟩
      refine (follows_learnFrom _ score _ _ h).bind fun _ l hl => ?_
      rw [Nat.add_comm steps 1, ← Nat.add_assoc]
      exact ih _ _ _ _ hl

/-- Steps in two parts, the second of which goes on from what the first has left. -/
theorem trainSteps_add (first second : Nat) (rate : Float) (losses : MetricMeans) :
    (trainSteps (first + second) rate losses :
        TrainerAction (Supply Float32) (Stream γ) β ι ο μ (Float × MetricMeans)) = (do
      let (rate, losses) ← trainSteps first rate losses
      trainSteps second rate losses) := by
  induction first generalizing rate losses with
  | zero =>
      rw [Nat.zero_add]
      rfl
  | succ first ih =>
      rw [Nat.succ_add]
      simp only [trainSteps, bind_assoc, ih]

/-- A batch for evaluation moves the stream of evaluation alone. -/
theorem follows_nextEvalBatch :
    Action.Follows (InStep T fresh n) (InStep T fresh n) F (fun _ _ => True)
      (nextEvalBatch : TrainerAction (Supply Float32) (Stream γ) β ι ο μ β)
      (pure () : TrainerAction (Supply Float32) (Stream γ) β ι ο μ Unit) := by
  rintro ⟨t, w⟩ ⟨_, v⟩ ⟨⟨evalStream, loggers, history, rfl⟩, htarget, hstep, hT, hleft, hright⟩ -
  obtain ⟨batch, c, hc, hnext⟩ := nextBatch_steady hleft.source hleft.evalStream hT t.name
  obtain ⟨requests, hbatch⟩ := hnext w.supply rfl
  refine .inl ⟨batch,
    ({ t with evalStream := some c }, { w with supply := ⟨w.supply.target, requests⟩ }), (), _,
    ?_, rfl, trivial, ?_⟩
  · simp only [nextEvalBatch, hbatch]
  · exact ⟨⟨evalStream, loggers, history, rfl⟩, htarget, hstep, hT,
      { hleft with evalStream := fun c' hc' => Option.some.inj hc' ▸ hc }, hright⟩

theorem follows_evaluate (steps : Nat) (means : MetricMeans) :
    Action.Follows (InStep T fresh n) (InStep T fresh n) F (fun _ _ => True)
      (evaluate steps means : TrainerAction (Supply Float32) (Stream γ) β ι ο μ (Metrics Float32))
      (pure () : TrainerAction (Supply Float32) (Stream γ) β ι ο μ Unit) := by
  induction steps generalizing means with
  | zero => exact .pure trivial
  | succ steps ih =>
      refine follows_nextEvalBatch.bind_left fun batch => .read_left fun x y h => ?_
      refine .bind_left (.lift_of_abort_left (h.left.score _ batch)) fun score => ?_
      exact .bind_left .lift_abort_left fun _ => .bind_left .lift_abort_left fun _ => ih _

/-- What follows the training steps of a round. -/
def conclude {σ : Type} (evalSteps : Nat) (rate : Float) (losses : MetricMeans) :
    TrainerAction σ κ β ι ο μ Unit := do
  let metrics ← evaluate evalSteps .empty
  let (t, _) ← Action.read
  report {
    trainer := t.name
    step := t.step
    learningRate := rate
    trainLoss := (losses.mean? "loss").getD 0
    metrics := metrics }
  saveCheckpoint

theorem saveCheckpoint_of_none {σ : Type} {x : GradientTrainer σ κ β ι ο μ × World Float32 σ}
    (h : x.1.checkpointer = none) : saveCheckpoint x = (.ok (), x) := by
  obtain ⟨t, w⟩ := x
  simp only [saveCheckpoint, show t.checkpointer = none from h]

theorem follows_conclude {δ : Type} (evalSteps : Nat) (rate : Float) (losses : MetricMeans)
    (y : δ) :
    Action.Follows (InStep T fresh n) (InStep T fresh n) F (fun _ z => z = y)
      (conclude evalSteps rate losses : TrainerAction (Supply Float32) (Stream γ) β ι ο μ Unit)
      (pure y : TrainerAction (Supply Float32) (Stream γ) β ι ο μ δ) := by
  refine (follows_evaluate evalSteps _).bind_left fun metrics => .read_left fun z _ _ => ?_
  refine .bind_left (.update_left (S := InStep T fresh n) ?_) fun _ => ?_
  · rintro ⟨t, w⟩ ⟨_, v⟩ ⟨⟨evalStream, loggers, history, rfl⟩, htarget, hstep, hT, hleft, hright⟩
    exact ⟨⟨evalStream, loggers, history, rfl⟩, htarget, hstep, hT, { hleft with }, hright⟩
  · intro x z h _
    exact .inl ⟨(), x, y, z, saveCheckpoint_of_none h.left.checkpointer, rfl, rfl, h⟩

/-- Without evaluation steps, a report is all that follows. -/
theorem conclude_zero {σ : Type} (rate : Float) (losses : MetricMeans)
    (t : GradientTrainer σ κ β ι ο μ) (w : World Float32 σ) :
    ∃ line : Report, (conclude 0 rate losses : TrainerAction σ κ β ι ο μ Unit) (t, w) =
      saveCheckpoint ({ t with
        loggers := t.loggers.map (Logger.log line w.clock)
        history := t.history ++ [line] }, w) :=
  ⟨_, rfl⟩

/-- Without evaluation steps, nothing that follows can fail. -/
theorem conclude_follows (rate : Float) (losses : MetricMeans) :
    Action.Follows (InStep T fresh n) (InStep T fresh n) F (fun _ _ => True)
      (pure () : TrainerAction (Supply Float32) (Stream γ) β ι ο μ Unit)
      (conclude 0 rate losses : TrainerAction (Supply Float32) (Stream γ) β ι ο μ Unit) := by
  rintro ⟨t, w⟩ ⟨_, v⟩ ⟨⟨evalStream, loggers, history, rfl⟩, htarget, hstep, hT, hleft, hright⟩ -
  obtain ⟨line, hreport⟩ :=
    conclude_zero rate losses { t with evalStream, loggers, history } v
  refine .inl ⟨(), (t, w), (), _, rfl,
    hreport.trans (saveCheckpoint_of_none hright.checkpointer), trivial, ?_⟩
  exact ⟨⟨evalStream, _, _, rfl⟩, htarget, hstep, hT, hleft, { hright with }⟩

/-- A round trains as its steps alone do. -/
theorem follows_trainRound (steps evalSteps : Nat) (rate : Float) (losses : MetricMeans)
    (h : losses.AtMost n) :
    Action.Follows (InStep T fresh n) (InStep T fresh (n + steps)) F
      (fun _ r => r.2.AtMost (n + steps))
      (trainRound steps evalSteps : TrainerAction (Supply Float32) (Stream γ) β ι ο μ Unit)
      (trainSteps steps rate losses) := by
  rw [← bind_pure (trainSteps steps rate losses)]
  refine .read_left fun _ _ _ => (follows_trainSteps steps _ rate _ losses h).bind fun _ y hy => ?_
  refine (follows_conclude evalSteps _ _ y).mono (fun _ _ h => h) (fun _ _ h => h)
    (fun _ _ h => h) fun _ z hz => ?_
  rwa [hz]

/-- Rounds train as all of their steps do in one go. -/
theorem follows_rounds (rounds steps evalSteps : Nat) (rate : Float) (losses : MetricMeans)
    (h : losses.AtMost n) :
    Action.Follows (InStep T fresh n) (InStep T fresh (n + rounds * steps)) F
      (fun _ _ => True)
      (Action.repeated (trainRound steps evalSteps) rounds :
        TrainerAction (Supply Float32) (Stream γ) β ι ο μ Unit)
      (trainSteps (rounds * steps) rate losses) := by
  induction rounds generalizing n rate losses with
  | zero =>
      rw [Nat.zero_mul]
      exact .pure trivial
  | succ rounds ih =>
      rw [Nat.succ_mul, Nat.add_comm (rounds * steps) steps, ← Nat.add_assoc, trainSteps_add]
      exact (follows_trainRound steps evalSteps rate losses h).bind fun _ y hy => ih y.1 y.2 hy

/-- Rounds train as one round of all their steps does, without evaluation. -/
theorem follows_oneRound (rounds steps evalSteps : Nat) :
    Action.Follows (InStep T fresh n) (InStep T fresh (n + rounds * steps)) F
      (fun _ _ => True)
      (Action.repeated (trainRound steps evalSteps) rounds :
        TrainerAction (Supply Float32) (Stream γ) β ι ο μ Unit)
      (trainRound (rounds * steps) 0) := by
  rw [← bind_pure (Action.repeated (trainRound steps evalSteps) rounds)]
  refine .read_right fun _ y _ => ?_
  refine (follows_rounds rounds steps evalSteps (y.1.schedule y.1.step) .empty
    (MetricMeans.atMost_empty n)).bind ?_
  intro _ z _
  exact conclude_follows z.1 z.2

section Sharing

variable (hF : ∀ x y, InStep T fresh n x y → F x y)
include hF

theorem follows_replaceNetwork (f : Network Float32 ι ο → Run Float32 (Network Float32 ι ο)) :
    let replace : TrainerAction (Supply Float32) (Stream γ) β ι ο μ Unit := do
      let (t, _) ← Action.read
      let network ← f t.network
      Action.update fun (t, w) => ({ t with network := network }, w)
    Action.Follows (InStep T fresh n) (InStep T fresh n) F (fun _ _ => True) replace replace := by
  refine .read_bind ?_
  rintro ⟨t, w⟩ ⟨_, v⟩ ⟨⟨evalStream, loggers, history, rfl⟩, -⟩
  refine (Action.Follows.lift hF).bind ?_
  rintro network _ ⟨rfl, -⟩
  refine .update ?_
  rintro ⟨t, w⟩ ⟨_, v⟩ ⟨⟨evalStream, loggers, history, rfl⟩, htarget, hstep, hT, hleft, hright⟩
  exact ⟨⟨evalStream, loggers, history, rfl⟩, htarget, hstep, hT, { hleft with }, { hright with }⟩

theorem follows_setWeights (weights : Snapshot Float32) :
    Action.Follows (InStep T fresh n) (InStep T fresh n) F (fun _ _ => True)
      (Trainer.setWeights weights :
        TrainerAction (Supply Float32) (Stream γ) β ι ο μ Unit)
      (Trainer.setWeights weights) :=
  follows_replaceNetwork hF fun network => liftM (network.load weights)

theorem follows_setState (state : Snapshot Float32) :
    Action.Follows (InStep T fresh n) (InStep T fresh n) F (fun _ _ => True)
      (Trainer.setState state :
        TrainerAction (Supply Float32) (Stream γ) β ι ο μ Unit)
      (Trainer.setState state) :=
  follows_replaceNetwork hF fun network => Run.ofParams (network.withState state)

theorem follows_setSlots (slots : Snapshot Float32) :
    Action.Follows (InStep T fresh n) (InStep T fresh n) F (fun _ _ => True)
      (Trainer.setSlots slots :
        TrainerAction (Supply Float32) (Stream γ) β ι ο μ Unit)
      (Trainer.setSlots slots) := by
  refine .read_bind ?_
  rintro ⟨t, w⟩ ⟨_, v⟩ ⟨⟨evalStream, loggers, history, rfl⟩, -⟩
  exact (Action.Follows.lift hF).mono (fun _ _ h => h) (fun _ _ h => h) (fun _ _ h => h)
    fun _ _ _ => trivial

/-- Layers are copied alike from trainers that differ in nothing that training uses. -/
theorem follows_copyLayersFrom {β' ι' ο' μ' : Type}
    {source source' : GradientTrainer (Supply Float32) (Stream γ) β' ι' ο' μ'}
    (hsource : source.SameTraining source') (first last : Nat) (withSlots : Bool) :
    Action.Follows (InStep T fresh n) (InStep T fresh n) F (fun _ _ => True)
      (copyLayersFrom first last source withSlots :
        TrainerAction (Supply Float32) (Stream γ) β ι ο μ Unit)
      (copyLayersFrom first last source' withSlots) := by
  obtain ⟨evalStream, loggers, history, rfl⟩ := hsource
  refine .read_bind ?_
  rintro ⟨t, w⟩ ⟨_, v⟩ ⟨⟨evalStream, loggers, history, rfl⟩, -⟩
  refine (Action.Follows.lift hF).bind ?_
  rintro copies _ ⟨rfl, -⟩
  refine (follows_setWeights hF _).bind fun _ _ _ => (follows_setState hF _).bind fun _ _ _ => ?_
  split
  · exact follows_setSlots hF _
  · exact .pure trivial

end Sharing

/-- What a trainer is made of besides its input. Its scores are given, or aborted. -/
structure Parts (β ι ο μ : Type) where
  name : String
  network : Network Float32 ι ο
  optimizer : Optimizer Float32 μ
  schedule : Nat → Float
  score : Network Float32 ι ο → β → Except Abort (Score Float32)

namespace Parts

variable {σ : Type} (p : Parts β ι ο μ)

def make (setup : TrainerSetup Float32 σ κ β) :
    Action Float32 (World Float32 σ) (GradientTrainer σ κ β ι ο μ) :=
  GradientTrainer.make p.name p.network p.optimizer p.schedule
    (fun network batch => (p.score network batch).mapError .abort) setup

/-- The trainer that keeps no files. -/
def untrained (source : BatchSource Float32 σ κ β) : GradientTrainer σ κ β ι ο μ where
  name := p.name
  network := p.network
  optimizer := p.optimizer
  memory := []
  schedule := p.schedule
  score network batch := (p.score network batch).mapError .abort
  source := source
  trainStream := none
  evalStream := none
  step := 0
  checkpointer := none
  loggers := [.lines []]
  history := []

theorem fed_untrained {source : BatchSource Float32 (Supply Float32) (Stream γ) β}
    (h : source.Steady T fresh) : (p.untrained source).Fed T fresh :=
  ⟨h, fun _ hc => (nomatch hc), fun _ hc => (nomatch hc), fun _ _ _ he =>
    let ⟨a, _, ha⟩ := Attempt.mapError_eq_error.1 he
    ⟨a, ha.symm⟩, rfl⟩

end Parts

end GradientTrainer
end ActorCritic
