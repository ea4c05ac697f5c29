import ActorCritic.LearningRate
import ActorCritic.Proofs.Checkpoint.Directory
import ActorCritic.Proofs.Metrics.Mean
import ActorCritic.Proofs.Trainer.Cursor
import ActorCritic.Proofs.Trainer.Saving

/-!
What a round of training leaves behind. Every batch that is trained on is one update at the rate of
its step, and an update that was made stays made, whatever becomes of the round; but the report and
the checkpoint come after the last batch for evaluation, so a round that fails at any batch leaves
no trace in them.
-/

namespace ActorCritic
namespace GradientTrainer

variable {σ κ β ι ο μ : Type}

/-- What training changes in a trainer. -/
structure Learned (ι ο μ : Type) where
  network : Network Float32 ι ο
  memory : OptimizerMemory μ
  step : Nat

def learned (t : GradientTrainer σ κ β ι ο μ) : Learned ι ο μ := ⟨t.network, t.memory, t.step⟩

def withLearned (t : GradientTrainer σ κ β ι ο μ) (l : Learned ι ο μ) :
    GradientTrainer σ κ β ι ο μ :=
  { t with network := l.network, memory := l.memory, step := l.step }

/-- The update on a batch, made at the rate of its step, with the loss of the batch before it. -/
def update (t : GradientTrainer σ κ β ι ο μ) (l : Learned ι ο μ) (batch : β) :
    Run Float32 (Float32 × Learned ι ο μ) := do
  let score ← t.score l.network batch
  let gradients ← (score.gradients : Except Abort _)
  let (params, memory) ← (t.optimizer.update (t.schedule l.step).toFloat32 l.network.params
    gradients l.memory : Except Abort _)
  return (score.loss, ⟨{ l.network with params := params }, memory, l.step + 1⟩)

/-- Updates on batches one after another, with the losses of the batches. -/
def updates (update : Learned ι ο μ → β → Run Float32 (Float32 × Learned ι ο μ)) :
    List β → Learned ι ο μ → Run Float32 (List Float32 × Learned ι ο μ)
  | [], l => .ok ([], l)
  | batch :: batches, l => do
      let (loss, l) ← update l batch
      let (losses, l) ← updates update batches l
      return (loss :: losses, l)

section Update

variable {t : GradientTrainer σ κ β ι ο μ} {l : Learned ι ο μ} {batch : β} {score : Score Float32}
  {gradients : List (Tensor Float32)} (hscore : t.score l.network batch = .ok score)
  (hgradients : score.gradients = .ok gradients)
include hscore hgradients

theorem update_eq_ok {params : List (Param Float32)} {memory : OptimizerMemory μ}
    (hmoved : t.optimizer.update (t.schedule l.step).toFloat32 l.network.params gradients
      l.memory = .ok (params, memory)) :
    t.update l batch =
      .ok (score.loss, ⟨{ l.network with params := params }, memory, l.step + 1⟩) := by
  refine Attempt.bind_eq_ok.2 ⟨score, hscore, ?_⟩
  refine Attempt.bind_eq_ok.2 ⟨gradients, Attempt.lift_abort_eq_ok.2 hgradients, ?_⟩
  exact Attempt.bind_eq_ok.2 ⟨(params, memory), Attempt.lift_abort_eq_ok.2 hmoved, rfl⟩

theorem update_eq_error {a : Abort}
    (hmoved : t.optimizer.update (t.schedule l.step).toFloat32 l.network.params gradients
      l.memory = .error a) :
    t.update l batch = .error (.abort a) := by
  refine Attempt.bind_eq_error.2 (.inr ⟨score, hscore, ?_⟩)
  refine Attempt.bind_eq_error.2 (.inr ⟨gradients, Attempt.lift_abort_eq_ok.2 hgradients, ?_⟩)
  exact Attempt.bind_eq_error.2 (.inl (Attempt.lift_abort_eq_error.2 ⟨a, hmoved, rfl⟩))

end Update

theorem step_update {t : GradientTrainer σ κ β ι ο μ} {l l' : Learned ι ο μ} {batch : β}
    {loss : Float32} (h : t.update l batch = .ok (loss, l')) : l'.step = l.step + 1 := by
  obtain ⟨score, -, h⟩ := Attempt.bind_eq_ok.1 h
  obtain ⟨gradients, -, h⟩ := Attempt.bind_eq_ok.1 h
  obtain ⟨moved, -, h⟩ := Attempt.bind_eq_ok.1 h
  cases h
  rfl

theorem step_updates {update : Learned ι ο μ → β → Run Float32 (Float32 × Learned ι ο μ)}
    (hstep : ∀ l batch loss l', update l batch = .ok (loss, l') → l'.step = l.step + 1)
    {batches : List β} {l l' : Learned ι ο μ} {losses : List Float32}
    (h : updates update batches l = .ok (losses, l')) :
    l'.step = l.step + batches.length := by
  induction batches generalizing l losses with
  | nil =>
      cases h
      rfl
  | cons batch batches ih =>
      obtain ⟨⟨loss, between⟩, hfirst, h⟩ := Attempt.bind_eq_ok.1 h
      obtain ⟨⟨rest, last⟩, hrest, h⟩ := Attempt.bind_eq_ok.1 h
      cases h
      rw [ih hrest, hstep l batch loss between hfirst, List.length_cons]
      omega

/-- Only the streams and the supply of the one may differ from those of the other. -/
def Aside (x y : GradientTrainer σ κ β ι ο μ × World Float32 σ) : Prop :=
  ∃ trainStream evalStream supply,
    y = ({ x.1 with trainStream := trainStream, evalStream := evalStream },
      { x.2 with supply := supply })

theorem Aside.refl (x : GradientTrainer σ κ β ι ο μ × World Float32 σ) : Aside x x :=
  ⟨_, _, _, rfl⟩

theorem Aside.trans {x y z : GradientTrainer σ κ β ι ο μ × World Float32 σ} (h : Aside x y)
    (h' : Aside y z) : Aside x z := by
  obtain ⟨_, _, _, rfl⟩ := h
  obtain ⟨_, _, _, rfl⟩ := h'
  exact ⟨_, _, _, rfl⟩

theorem aside_of_draw {c : Cursor} {x y : GradientTrainer σ κ β ι ο μ × World Float32 σ}
    {r : Run Float32 β} (h : c.draw x = (r, y)) : Aside x y := by
  cases c with
  | train =>
      cases h
      exact ⟨_, _, _, rfl⟩
  | eval =>
      cases h
      exact ⟨_, _, _, rfl⟩

/-- What was learned has no say in what is drawn. -/
theorem draw_withLearned (c : Cursor) (x : GradientTrainer σ κ β ι ο μ × World Float32 σ)
    (l : Learned ι ο μ) :
    c.draw (x.1.withLearned l, x.2) =
      ((c.draw x).1, ((c.draw x).2.1.withLearned l, (c.draw x).2.2)) := by
  cases c with
  | train => rfl
  | eval => rfl

/-- Draws by one cursor that give the batches. -/
inductive Batches (c : Cursor) : GradientTrainer σ κ β ι ο μ × World Float32 σ → List β →
    GradientTrainer σ κ β ι ο μ × World Float32 σ → Prop
  | nil (x : GradientTrainer σ κ β ι ο μ × World Float32 σ) : Batches c x [] x
  | cons {x y z : GradientTrainer σ κ β ι ο μ × World Float32 σ} {batch : β} {batches : List β} :
      c.draw x = (.ok batch, y) → Batches c y batches z → Batches c x (batch :: batches) z

namespace Batches

variable {c : Cursor} {x y : GradientTrainer σ κ β ι ο μ × World Float32 σ} {batches : List β}

theorem aside (h : Batches c x batches y) : Aside x y := by
  induction h with
  | nil x => exact .refl x
  | cons hdraw _ ih => exact (aside_of_draw hdraw).trans ih

theorem withLearned (h : Batches c x batches y) (l : Learned ι ο μ) :
    Batches c (x.1.withLearned l, x.2) batches (y.1.withLearned l, y.2) := by
  induction h with
  | nil x => exact .nil _
  | cons hdraw _ ih =>
      refine .cons ?_ ih
      rw [draw_withLearned, hdraw]

end Batches

/-- Batches are drawn for training and an update is made on each; `losses` are theirs. -/
def Trains (n : Nat) (x : GradientTrainer σ κ β ι ο μ × World Float32 σ) (losses : List Float32)
    (y : GradientTrainer σ κ β ι ο μ × World Float32 σ) : Prop :=
  ∃ batches z l, batches.length = n ∧ Batches .train x batches z ∧
    updates x.1.update batches x.1.learned = .ok (losses, l) ∧ y = (z.1.withLearned l, z.2)

/-- Batches are drawn for evaluation, and the network as it is has these scores. -/
def Scores (n : Nat) (x : GradientTrainer σ κ β ι ο μ × World Float32 σ)
    (scores : List (Score Float32)) (y : GradientTrainer σ κ β ι ο μ × World Float32 σ) : Prop :=
  ∃ batches, batches.length = n ∧ Batches .eval x batches y ∧
    batches.mapM (x.1.score x.1.network) = .ok scores

section Steps

variable {n : Nat} {x y u : GradientTrainer σ κ β ι ο μ × World Float32 σ} {batch : β}

theorem Trains.zero : Trains 0 x [] x :=
  ⟨[], x, x.1.learned, rfl, .nil x, rfl, rfl⟩

/-- The batches after the first would be the same without the update on the first. -/
theorem Trains.cons {loss : Float32} {losses : List Float32} {l : Learned ι ο μ}
    (hdraw : Cursor.train.draw x = (.ok batch, u))
    (hupdate : u.1.update u.1.learned batch = .ok (loss, l))
    (h : Trains n (u.1.withLearned l, u.2) losses y) : Trains (n + 1) x (loss :: losses) y := by
  obtain ⟨batches, z, l', rfl, hbatches, hupdates, rfl⟩ := h
  obtain ⟨_, _, _, rfl⟩ := aside_of_draw hdraw
  refine ⟨batch :: batches, (z.1.withLearned x.1.learned, z.2), l', rfl, ?_, ?_, rfl⟩
  · exact .cons hdraw (hbatches.withLearned x.1.learned)
  · exact Attempt.bind_eq_ok.2
      ⟨(loss, l), hupdate, Attempt.bind_eq_ok.2 ⟨(losses, l'), hupdates, rfl⟩⟩

theorem Scores.zero : Scores 0 x [] x := ⟨[], rfl, .nil x, rfl⟩

theorem Scores.cons {score : Score Float32} {scores : List (Score Float32)}
    (hdraw : Cursor.eval.draw x = (.ok batch, u))
    (hscore : u.1.score u.1.network batch = .ok score) (h : Scores n u scores y) :
    Scores (n + 1) x (score :: scores) y := by
  obtain ⟨batches, rfl, hbatches, hscores⟩ := h
  obtain ⟨_, _, _, rfl⟩ := aside_of_draw hdraw
  refine ⟨batch :: batches, rfl, .cons hdraw hbatches, ?_⟩
  rw [List.mapM_cons]
  exact Attempt.bind_eq_ok.2
    ⟨score, hscore, Attempt.bind_eq_ok.2 ⟨scores, hscores, rfl⟩⟩

/-- There is no next batch for training, or no update can be made on it, or its loss is one too many
to be counted beside `entries`. -/
inductive NoUpdate (entries : List (String × Float32))
    (x : GradientTrainer σ κ β ι ο μ × World Float32 σ) (e : Failure (Error Float32))
    (y : GradientTrainer σ κ β ι ο μ × World Float32 σ) : Prop
  | undrawn : Cursor.train.draw x = (.error e, y) → NoUpdate entries x e y
  | refused {batch : β} : Cursor.train.draw x = (.ok batch, y) →
      y.1.update y.1.learned batch = .error e → NoUpdate entries x e y
  | uncountable {batch : β} {score : Score Float32} : Cursor.train.draw x = (.ok batch, y) →
      y.1.score y.1.network batch = .ok score →
      ¬ MetricMeans.Countable (entries ++ [("loss", score.loss)]) →
      .abort (.overflow .add) = e → NoUpdate entries x e y

/-- The update on the next batch is made, but there is no count left for it. -/
inductive Uncounted (x : GradientTrainer σ κ β ι ο μ × World Float32 σ) :
    Failure (Error Float32) → GradientTrainer σ κ β ι ο μ × World Float32 σ → Prop
  | mk {u : GradientTrainer σ κ β ι ο μ × World Float32 σ} {batch : β} {loss : Float32}
      {l : Learned ι ο μ} : Cursor.train.draw x = (.ok batch, u) →
      u.1.update u.1.learned batch = .ok (loss, l) → Count.limit ≤ l.step →
      Uncounted x (.abort (.overflow .add)) (u.1.withLearned { l with step := u.1.step }, u.2)

/-- All that is recorded of a score, the loss first. -/
def recorded (score : Score Float32) : List (String × Float32) :=
  ("loss", score.loss) :: score.metrics

/-- There is no next batch for evaluation, or it has no score, or one too many to be counted beside
`entries`. -/
inductive NoScore (entries : List (String × Float32))
    (x : GradientTrainer σ κ β ι ο μ × World Float32 σ) (e : Failure (Error Float32))
    (y : GradientTrainer σ κ β ι ο μ × World Float32 σ) : Prop
  | undrawn : Cursor.eval.draw x = (.error e, y) → NoScore entries x e y
  | refused {batch : β} : Cursor.eval.draw x = (.ok batch, y) →
      y.1.score y.1.network batch = .error e → NoScore entries x e y
  | uncountable {batch : β} {score : Score Float32} : Cursor.eval.draw x = (.ok batch, y) →
      y.1.score y.1.network batch = .ok score →
      ¬ MetricMeans.Countable (entries ++ recorded score) →
      .abort (.overflow .add) = e → NoScore entries x e y

/-- How gradients are applied: not at all, or without a count for the step, or in full. -/
inductive Applies (rate : Float) (gradients : List (Tensor Float32))
    (x : GradientTrainer σ κ β ι ο μ × World Float32 σ) :
    Run Float32 Unit → GradientTrainer σ κ β ι ο μ × World Float32 σ → Prop
  | refused {a : Abort}
      (h : x.1.optimizer.update rate.toFloat32 x.1.network.params gradients x.1.memory =
        .error a) :
      Applies rate gradients x (.error (.abort a)) x
  | uncounted {params : List (Param Float32)} {memory : OptimizerMemory μ}
      (h : x.1.optimizer.update rate.toFloat32 x.1.network.params gradients x.1.memory =
        .ok (params, memory)) (limit_le : Count.limit ≤ x.1.step + 1) :
      Applies rate gradients x (.error (.abort (.overflow .add)))
        (x.1.withLearned ⟨{ x.1.network with params := params }, memory, x.1.step⟩, x.2)
  | applied {params : List (Param Float32)} {memory : OptimizerMemory μ}
      (h : x.1.optimizer.update rate.toFloat32 x.1.network.params gradients x.1.memory =
        .ok (params, memory)) :
      Applies rate gradients x (.ok ())
        (x.1.withLearned ⟨{ x.1.network with params := params }, memory, x.1.step + 1⟩, x.2)

theorem applyGradients_cases {rate : Float} {gradients : List (Tensor Float32)}
    {r : Run Float32 Unit} (h : applyGradients rate gradients x = (r, y)) :
    Applies rate gradients x r y := by
  obtain ⟨t, w⟩ := x
  replace h := Action.read_bind_eq.1 h
  obtain ⟨e, hrefused, rfl⟩ | ⟨⟨params, memory⟩, _, hmade, h⟩ := Action.bind_eq.1 h
  · obtain ⟨a, hupdate, rfl, rfl⟩ := Action.lift_abort_eq_error.1 hrefused
    exact .refused hupdate
  obtain ⟨hupdate, rfl⟩ := Action.lift_abort_eq_ok.1 hmade
  obtain ⟨e, hmoved, -⟩ | ⟨⟨⟩, _, hmoved, h⟩ := Action.bind_eq.1 h
  · cases hmoved
  obtain rfl := Action.update_eq_ok.1 hmoved
  obtain ⟨e, hfull, rfl⟩ | ⟨step, _, hcounted, h⟩ := Action.bind_eq.1 h
  · obtain ⟨a, hstep, rfl, rfl⟩ := Action.lift_abort_eq_error.1 hfull
    obtain ⟨hlimit, rfl⟩ := Count.add_eq_error.1 hstep
    exact .uncounted hupdate hlimit
  · obtain ⟨hstep, rfl⟩ := Action.lift_abort_eq_ok.1 hcounted
    obtain ⟨-, rfl⟩ := Count.add_eq_ok.1 hstep
    cases h
    exact .applied hupdate

/-- The first of some training steps, and what is left to the others. -/
theorem trainSteps_succ_cases {rate : Float} {means : MetricMeans}
    {entries : List (String × Float32)} (hmeans : means.Tallies entries)
    {r : Run Float32 (Float × MetricMeans)} (h : trainSteps (n + 1) rate means x = (r, y)) :
    (∃ e, r = .error e ∧ (NoUpdate entries x e y ∨ Uncounted x e y)) ∨
    ∃ batch u loss l losses, Cursor.train.draw x = (.ok batch, u) ∧
      u.1.update u.1.learned batch = .ok (loss, l) ∧
      losses.Tallies (entries ++ [("loss", loss)]) ∧
      trainSteps n (x.1.schedule x.1.step) losses (u.1.withLearned l, u.2) = (r, y) := by
  obtain ⟨e, hdraw, rfl⟩ | ⟨batch, u, hdraw, h⟩ := Action.bind_eq.1 h
  · exact .inl ⟨e, rfl, .inl (.undrawn hdraw)⟩
  obtain ⟨trainStream, evalStream, supply, hu⟩ := aside_of_draw (c := .train) hdraw
  replace h := Action.read_bind_eq.1 h
  obtain ⟨e, hrefused, rfl⟩ | ⟨score, _, hmade, h⟩ := Action.bind_eq.1 h
  · obtain ⟨hscore, rfl⟩ := Action.lift_eq.1 hrefused
    refine .inl ⟨_, rfl, .inl (.refused hdraw ?_)⟩
    exact Attempt.bind_eq_error.2 (.inl hscore)
  obtain ⟨hscore, rfl⟩ := Action.lift_eq.1 hmade
  have htallied := hmeans.record "loss" score.loss
  obtain ⟨e, hfull, rfl⟩ | ⟨⟨losses, line⟩, _, hmade, h⟩ := Action.bind_eq.1 h
  · obtain ⟨a, hrecord, rfl, rfl⟩ := Action.lift_abort_eq_error.1 hfull
    rw [hrecord] at htallied
    cases htallied with
    | uncountable hcount => exact .inl ⟨_, rfl, .inl (.uncountable hdraw hscore hcount rfl)⟩
  obtain ⟨hrecord, rfl⟩ := Action.lift_abort_eq_ok.1 hmade
  rw [hrecord] at htallied
  cases htallied with
  | counted hlosses =>
  obtain ⟨e, hrefused, rfl⟩ | ⟨gradients, _, hmade, h⟩ := Action.bind_eq.1 h
  · obtain ⟨a, hgradients, rfl, rfl⟩ := Action.lift_abort_eq_error.1 hrefused
    refine .inl ⟨_, rfl, .inl (.refused hdraw ?_)⟩
    refine Attempt.bind_eq_error.2 (.inr ⟨score, hscore, ?_⟩)
    exact Attempt.bind_eq_error.2 (.inl (Attempt.lift_abort_eq_error.2 ⟨a, hgradients, rfl⟩))
  obtain ⟨hgradients, rfl⟩ := Action.lift_abort_eq_ok.1 hmade
  obtain ⟨e, hfailed, rfl⟩ | ⟨⟨⟩, v, happlied, h⟩ := Action.bind_eq.1 h
  · refine .inl ⟨e, rfl, ?_⟩
    cases applyGradients_cases hfailed with
    | refused hmoved =>
        exact .inl (.refused hdraw (update_eq_error (l := y.1.learned) hscore hgradients hmoved))
    | uncounted hmoved hlimit =>
        exact .inr (.mk hdraw (update_eq_ok (l := u.1.learned) hscore hgradients hmoved) hlimit)
  · cases applyGradients_cases happlied with
    | applied hmoved =>
        have hupdate := update_eq_ok (l := u.1.learned) hscore hgradients hmoved
        obtain rfl := hu
        exact .inr ⟨batch, _, score.loss, _, losses, hdraw, hupdate, hlosses, h⟩

theorem evaluate_succ_cases {means : MetricMeans} {entries : List (String × Float32)}
    (hmeans : means.Tallies entries) {r : Run Float32 (Metrics Float32)}
    (h : evaluate (n + 1) means x = (r, y)) :
    (∃ e, r = .error e ∧ NoScore entries x e y) ∨
    ∃ batch u score sums, Cursor.eval.draw x = (.ok batch, u) ∧
      u.1.score u.1.network batch = .ok score ∧ sums.Tallies (entries ++ recorded score) ∧
      evaluate n sums u = (r, y) := by
  obtain ⟨e, hdraw, rfl⟩ | ⟨batch, u, hdraw, h⟩ := Action.bind_eq.1 h
  · exact .inl ⟨e, rfl, .undrawn hdraw⟩
  replace h := Action.read_bind_eq.1 h
  obtain ⟨e, hrefused, rfl⟩ | ⟨score, _, hmade, h⟩ := Action.bind_eq.1 h
  · obtain ⟨hscore, rfl⟩ := Action.lift_eq.1 hrefused
    exact .inl ⟨_, rfl, .refused hdraw hscore⟩
  obtain ⟨hscore, rfl⟩ := Action.lift_eq.1 hmade
  -- The loss and the metrics are recorded one after the other, and either may be one too many.
  have hloss := hmeans.record "loss" score.loss
  obtain ⟨e, hfull, rfl⟩ | ⟨⟨losses, line⟩, _, hmade, h⟩ := Action.bind_eq.1 h
  · obtain ⟨a, hrecord, rfl, rfl⟩ := Action.lift_abort_eq_error.1 hfull
    rw [hrecord] at hloss
    cases hloss with
    | uncountable hcount =>
        refine .inl ⟨_, rfl, .uncountable hdraw hscore (fun hall => hcount ?_) rfl⟩
        rw [recorded, List.append_cons] at hall
        exact hall.of_append
  obtain ⟨hrecord, rfl⟩ := Action.lift_abort_eq_ok.1 hmade
  rw [hrecord] at hloss
  cases hloss with
  | counted hlosses =>
  have hmetrics := hlosses.recordAll score.metrics
  rw [← List.append_cons] at hmetrics
  obtain ⟨e, hfull, rfl⟩ | ⟨⟨sums, lines⟩, _, hmade, h⟩ := Action.bind_eq.1 h
  · obtain ⟨a, hrecord, rfl, rfl⟩ := Action.lift_abort_eq_error.1 hfull
    rw [hrecord] at hmetrics
    cases hmetrics with
    | uncountable hcount => exact .inl ⟨_, rfl, .uncountable hdraw hscore hcount rfl⟩
  obtain ⟨hrecord, rfl⟩ := Action.lift_abort_eq_ok.1 hmade
  rw [hrecord] at hmetrics
  cases hmetrics with
  | counted hsums => exact .inr ⟨batch, _, score, sums, hdraw, hscore, hsums, h⟩

end Steps

section Runs

variable {n : Nat} {x y : GradientTrainer σ κ β ι ο μ × World Float32 σ} {means : MetricMeans}
  {entries : List (String × Float32)}

/-- How training steps end: all are made, or `j` of them before one that cannot be made, or that
cannot be counted. -/
inductive TrainingEnds (n : Nat) (x : GradientTrainer σ κ β ι ο μ × World Float32 σ) (rate : Float)
    (entries : List (String × Float32)) :
    Run Float32 (Float × MetricMeans) → GradientTrainer σ κ β ι ο μ × World Float32 σ → Prop
  | made {losses : List Float32} {y : GradientTrainer σ κ β ι ο μ × World Float32 σ} {last : Float}
      {sums : MetricMeans} (trains : Trains n x losses y)
      (last_eq : last = if n = 0 then rate else x.1.schedule (x.1.step + (n - 1)))
      (tallies : sums.Tallies (entries ++ losses.map fun loss => ("loss", loss))) :
      TrainingEnds n x rate entries (.ok (last, sums)) y
  | failed {j : Nat} {losses : List Float32} {u y : GradientTrainer σ κ β ι ο μ × World Float32 σ}
      {e : Failure (Error Float32)} (lt : j < n) (trains : Trains j x losses u)
      (fails : NoUpdate (entries ++ losses.map fun loss => ("loss", loss)) u e y) :
      TrainingEnds n x rate entries (.error e) y
  | uncounted {j : Nat} {losses : List Float32}
      {u y : GradientTrainer σ κ β ι ο μ × World Float32 σ} {e : Failure (Error Float32)}
      (lt : j < n) (trains : Trains j x losses u) (fails : Uncounted u e y) :
      TrainingEnds n x rate entries (.error e) y

theorem trainSteps_ends {rate : Float} {r : Run Float32 (Float × MetricMeans)}
    (hmeans : means.Tallies entries) (h : trainSteps n rate means x = (r, y)) :
    TrainingEnds n x rate entries r y := by
  induction n generalizing rate means entries x with
  | zero =>
      cases h
      exact .made .zero rfl (by rwa [List.map_nil, List.append_nil])
  | succ n ih =>
      obtain ⟨e, rfl, hfails | hfails⟩ | ⟨batch, u, loss, l, losses, hdraw, hupdate, hlosses, h⟩ :=
        trainSteps_succ_cases hmeans h
      · exact .failed (Nat.succ_pos n) .zero (by rwa [List.map_nil, List.append_nil])
      · exact .uncounted (Nat.succ_pos n) .zero hfails
      cases ih hlosses h with
      | made htrains hlast hsums =>
          refine .made (htrains.cons hdraw hupdate) ?_ (by rwa [List.map_cons, List.append_cons])
          obtain ⟨_, _, _, rfl⟩ := aside_of_draw hdraw
          have hstep : l.step = x.1.step + 1 := step_update hupdate
          rw [hlast, if_neg (Nat.succ_ne_zero n), Nat.add_sub_cancel]
          cases n with
          | zero => rfl
          | succ n =>
              change x.1.schedule (l.step + n) = _
              rw [hstep, Nat.add_assoc, Nat.add_comm 1 n]
      | failed hlt htrains hfails =>
          refine .failed (Nat.succ_lt_succ hlt) (htrains.cons hdraw hupdate) ?_
          rwa [List.map_cons, List.append_cons]
      | uncounted hlt htrains hfails =>
          exact .uncounted (Nat.succ_lt_succ hlt) (htrains.cons hdraw hupdate) hfails

/-- How an evaluation ends: all batches are scored, or `j` of them before one that is not. -/
inductive EvaluationEnds (n : Nat) (x : GradientTrainer σ κ β ι ο μ × World Float32 σ)
    (entries : List (String × Float32)) :
    Run Float32 (Metrics Float32) → GradientTrainer σ κ β ι ο μ × World Float32 σ → Prop
  | made {scores : List (Score Float32)} {y : GradientTrainer σ κ β ι ο μ × World Float32 σ}
      {sums : MetricMeans} (scored : Scores n x scores y)
      (tallies : sums.Tallies (entries ++ scores.flatMap recorded)) :
      EvaluationEnds n x entries (.ok sums.means) y
  | failed {j : Nat} {scores : List (Score Float32)}
      {u y : GradientTrainer σ κ β ι ο μ × World Float32 σ} {e : Failure (Error Float32)}
      (lt : j < n) (scored : Scores j x scores u)
      (fails : NoScore (entries ++ scores.flatMap recorded) u e y) :
      EvaluationEnds n x entries (.error e) y

theorem evaluate_ends {r : Run Float32 (Metrics Float32)} (hmeans : means.Tallies entries)
    (h : evaluate n means x = (r, y)) : EvaluationEnds n x entries r y := by
  induction n generalizing means entries x with
  | zero =>
      cases h
      exact .made .zero (by rwa [List.flatMap_nil, List.append_nil])
  | succ n ih =>
      obtain ⟨e, rfl, hfails⟩ | ⟨batch, u, score, sums, hdraw, hscore, hsums, h⟩ :=
        evaluate_succ_cases hmeans h
      · exact .failed (Nat.succ_pos n) .zero (by rwa [List.flatMap_nil, List.append_nil])
      cases ih hsums h with
      | made hscores hsums =>
          refine .made (hscores.cons hdraw hscore) ?_
          rwa [List.flatMap_cons, ← List.append_assoc]
      | failed hlt hscores hfails =>
          refine .failed (Nat.succ_lt_succ hlt) (hscores.cons hdraw hscore) ?_
          rwa [List.flatMap_cons, ← List.append_assoc]

end Runs

section Ends

variable {steps evalSteps n j : Nat} {x y u : GradientTrainer σ κ β ι ο μ × World Float32 σ}
  {losses : List Float32} {scores : List (Score Float32)} {e : Failure (Error Float32)}

/-- Apart from what is learned, only the streams and the supply change. -/
theorem Trains.aside (h : Trains n x losses y) : Aside (x.1.withLearned y.1.learned, x.2) y := by
  obtain ⟨batches, z, l, -, hbatches, -, rfl⟩ := h
  obtain ⟨_, _, _, rfl⟩ := hbatches.aside
  exact ⟨_, _, _, rfl⟩

theorem Trains.step_eq (h : Trains n x losses y) : y.1.step = x.1.step + n := by
  obtain ⟨batches, z, l, rfl, -, hupdates, rfl⟩ := h
  exact step_updates (fun _ _ _ _ => step_update) hupdates

theorem Scores.aside (h : Scores n x scores y) : Aside x y := by
  obtain ⟨batches, -, hbatches, -⟩ := h
  exact hbatches.aside

theorem NoUpdate.aside {entries : List (String × Float32)} (h : NoUpdate entries x e y) :
    Aside x y := by
  cases h with
  | undrawn hdraw => exact aside_of_draw hdraw
  | refused hdraw _ => exact aside_of_draw hdraw
  | uncountable hdraw _ _ _ => exact aside_of_draw hdraw

theorem NoScore.aside {entries : List (String × Float32)} (h : NoScore entries x e y) :
    Aside x y := by
  cases h with
  | undrawn hdraw => exact aside_of_draw hdraw
  | refused hdraw _ => exact aside_of_draw hdraw
  | uncountable hdraw _ _ _ => exact aside_of_draw hdraw

theorem Aside.learned_eq (h : Aside x y) : y.1.learned = x.1.learned := by
  obtain ⟨_, _, _, rfl⟩ := h
  rfl

/-- Nothing is reported and nothing is saved. -/
structure Unrecorded (x y : GradientTrainer σ κ β ι ο μ × World Float32 σ) : Prop where
  history : y.1.history = x.1.history
  loggers : y.1.loggers = x.1.loggers
  checkpointer : y.1.checkpointer = x.1.checkpointer
  files : y.2.files = x.2.files

theorem Aside.unrecorded {l : Learned ι ο μ} (h : Aside (x.1.withLearned l, x.2) y) :
    Unrecorded x y := by
  obtain ⟨_, _, _, rfl⟩ := h
  exact ⟨rfl, rfl, rfl, rfl⟩

/-- The parameters are written as the checkpoint of the step, before old ones are removed, if there
is a directory for them. -/
def Checkpointed (x y : GradientTrainer σ κ β ι ο μ × World Float32 σ) : Prop :=
  match x.1.checkpointer with
  | none => y.1.checkpointer = none ∧ y.2.files = x.2.files
  | some c => ∃ placed kept,
      x.2.files.place (Checkpointer.pathFor c.dir y.1.step) (.record y.1.network.params) =
        (true, placed) ∧
      Checkpointer.prune c.dir c.keep (Checkpoint.insertStep y.1.step c.steps) placed =
        (.ok (), kept, y.2.files) ∧
      y.1.checkpointer = some { c with steps := kept }

/-- The report of a round: its losses are those of the training batches, and its scores those of
the batches for evaluation. The rate is that of the last update, or of the next one where none was
made. -/
structure Reports (steps : Nat) (t : GradientTrainer σ κ β ι ο μ) (losses : List Float32)
    (scores : List (Score Float32)) (report : Report) : Prop where
  trainer : report.trainer = t.name
  step : report.step = t.step + steps
  learningRate : report.learningRate = t.schedule (t.step + (steps - 1))
  trainLoss : report.trainLoss = (MetricMeans.finiteMean losses).getD 0
  metrics : ∀ name, report.metrics.get? name =
    MetricMeans.finiteMean (MetricMeans.valuesOf name (scores.flatMap recorded))

/-- A round that ends well: an update on each of its training batches, scores of the network that
these have led to, and one report. -/
structure Completed (steps evalSteps : Nat) (x y : GradientTrainer σ κ β ι ο μ × World Float32 σ) :
    Prop where
  step : y.1.step = x.1.step + steps
  trained : ∃ losses trained scores evaluated report, Trains steps x losses trained ∧
    Scores evalSteps trained scores evaluated ∧ y.1.learned = trained.1.learned ∧
    Reports steps x.1 losses scores report ∧ y.1.history = x.1.history ++ [report] ∧
    y.1.loggers = x.1.loggers.map (Logger.log report x.2.clock)
  checkpointed : Checkpointed x y

/-- A round that fails at its training batch `j`, counted from zero, and keeps the updates on the
batches before. -/
structure FailedInTraining (steps j : Nat) (x : GradientTrainer σ κ β ι ο μ × World Float32 σ)
    (e : Failure (Error Float32)) (y : GradientTrainer σ κ β ι ο μ × World Float32 σ) : Prop where
  lt : j < steps
  step : y.1.step = x.1.step + j
  trained : ∃ losses trained, Trains j x losses trained ∧
    NoUpdate (losses.map fun loss => ("loss", loss)) trained e y ∧
    y.1.learned = trained.1.learned
  unrecorded : Unrecorded x y

/-- A round that fails at its batch `j` for evaluation, and keeps all of its updates. -/
structure FailedInEvaluation (steps evalSteps j : Nat)
    (x : GradientTrainer σ κ β ι ο μ × World Float32 σ) (e : Failure (Error Float32))
    (y : GradientTrainer σ κ β ι ο μ × World Float32 σ) : Prop where
  lt : j < evalSteps
  step : y.1.step = x.1.step + steps
  trained : ∃ losses trained scores evaluated, Trains steps x losses trained ∧
    Scores j trained scores evaluated ∧ NoScore (scores.flatMap recorded) evaluated e y ∧
    y.1.learned = trained.1.learned
  unrecorded : Unrecorded x y

/-- A round with more steps than there are counts left for. -/
structure Overran (steps : Nat) (x : GradientTrainer σ κ β ι ο μ × World Float32 σ)
    (e : Failure (Error Float32)) (y : GradientTrainer σ κ β ι ο μ × World Float32 σ) : Prop where
  limit_le : Count.limit ≤ x.1.step + steps
  cause : e = .abort (.overflow .add)
  trained : ∃ j losses trained, j < steps ∧ Trains j x losses trained ∧ Uncounted trained e y

/-- A round after which the checkpoint cannot be saved. -/
def NotSaved (x : GradientTrainer σ κ β ι ο μ × World Float32 σ) (e : Failure (Error Float32))
    (y : GradientTrainer σ κ β ι ο μ × World Float32 σ) : Prop :=
  ∃ c cause, x.1.checkpointer = some c ∧ e = .error (.checkpoint cause) ∧
    (c.save y.1.network.params y.1.step x.2.files).1 = .error cause

theorem Uncounted.overran (htrains : Trains j x losses u) (hj : j < steps)
    (h : Uncounted u e y) : Overran steps x e y := by
  refine ⟨?_, ?_, j, losses, u, hj, htrains, h⟩
  · cases h with
    | mk hdraw hupdate hlimit =>
        have hdrawn := (aside_of_draw hdraw).learned_eq
        have hstep := step_update hupdate
        rw [hdrawn] at hstep
        have htrained : u.1.learned.step = x.1.step + j := htrains.step_eq
        omega
  · cases h
    rfl

/-- How a round ends. -/
inductive RoundEnds (steps evalSteps : Nat) (x : GradientTrainer σ κ β ι ο μ × World Float32 σ) :
    Run Float32 Unit → GradientTrainer σ κ β ι ο μ × World Float32 σ → Prop
  | completed {y : GradientTrainer σ κ β ι ο μ × World Float32 σ}
      (h : Completed steps evalSteps x y) : RoundEnds steps evalSteps x (.ok ()) y
  | failedInTraining {j : Nat} {e : Failure (Error Float32)}
      {y : GradientTrainer σ κ β ι ο μ × World Float32 σ} (h : FailedInTraining steps j x e y) :
      RoundEnds steps evalSteps x (.error e) y
  | failedInEvaluation {j : Nat} {e : Failure (Error Float32)}
      {y : GradientTrainer σ κ β ι ο μ × World Float32 σ}
      (h : FailedInEvaluation steps evalSteps j x e y) : RoundEnds steps evalSteps x (.error e) y
  | overran {e : Failure (Error Float32)} {y : GradientTrainer σ κ β ι ο μ × World Float32 σ}
      (h : Overran steps x e y) : RoundEnds steps evalSteps x (.error e) y
  | notSaved {e : Failure (Error Float32)} {y : GradientTrainer σ κ β ι ο μ × World Float32 σ}
      (h : NotSaved x e y) : RoundEnds steps evalSteps x (.error e) y

theorem beforeSave_eq_ok (h : beforeSave steps evalSteps x = (.ok (), y)) :
    ∃ losses trained scores evaluated report, Trains steps x losses trained ∧
      Scores evalSteps trained scores evaluated ∧ Reports steps x.1 losses scores report ∧
      y = ({ evaluated.1 with
        loggers := evaluated.1.loggers.map (Logger.log report evaluated.2.clock)
        history := evaluated.1.history ++ [report] }, evaluated.2) := by
  replace h := Action.read_bind_eq.1 h
  obtain ⟨⟨rate, means⟩, trained, hsteps, h⟩ := Action.bind_eq_ok.1 h
  obtain ⟨metrics, evaluated, hevaluate, h⟩ := Action.bind_eq_ok.1 h
  cases h
  cases trainSteps_ends MetricMeans.tallies_empty hsteps with
  | made htrains hrate hmeans =>
  cases evaluate_ends MetricMeans.tallies_empty hevaluate with
  | made hscores hsums =>
  refine ⟨_, trained, _, evaluated, _, htrains, hscores, ⟨?_, ?_, ?_, ?_, fun name => ?_⟩, rfl⟩
  · obtain ⟨_, _, _, rfl⟩ := htrains.aside.trans hscores.aside
    rfl
  · exact (congrArg Learned.step hscores.aside.learned_eq).trans htrains.step_eq
  · change rate = _
    rw [hrate]
    split
    · next hzero =>
        rw [hzero]
        rfl
    · rfl
  · rw [hmeans.mean?_eq, List.nil_append, MetricMeans.valuesOf_map]
  · rw [hsums.get?_means_eq, List.nil_append]

/-- A round that does not come to its checkpoint. -/
theorem beforeSave_eq_error (h : beforeSave steps evalSteps x = (.error e, y)) :
    RoundEnds steps evalSteps x (.error e) y := by
  replace h := Action.read_bind_eq.1 h
  obtain hsteps | ⟨⟨rate, means⟩, trained, hsteps, h⟩ := Action.bind_eq_error.1 h
  · cases trainSteps_ends MetricMeans.tallies_empty hsteps with
    | failed hlt htrains hfails =>
        have hlearned := hfails.aside.learned_eq
        refine .failedInTraining ⟨hlt, ?_, ⟨_, _, htrains, hfails, hlearned⟩, ?_⟩
        · exact (congrArg Learned.step hlearned).trans htrains.step_eq
        · exact (htrains.aside.trans hfails.aside).unrecorded
    | uncounted hlt htrains hfails => exact .overran (hfails.overran htrains hlt)
  obtain hevaluate | ⟨metrics, evaluated, -, ⟨⟩⟩ := Action.bind_eq_error.1 h
  cases trainSteps_ends MetricMeans.tallies_empty hsteps with
  | made htrains _ _ =>
  cases evaluate_ends MetricMeans.tallies_empty hevaluate with
  | failed hlt hscores hfails =>
  have haside := hscores.aside.trans hfails.aside
  refine .failedInEvaluation ⟨hlt, ?_, ?_, ?_⟩
  · exact (congrArg Learned.step haside.learned_eq).trans htrains.step_eq
  · exact ⟨_, trained, _, _, htrains, hscores, hfails, haside.learned_eq⟩
  · exact (htrains.aside.trans haside).unrecorded

theorem saveCheckpoint_cases {r : Run Float32 Unit} (h : saveCheckpoint x = (r, y)) :
    (∃ checkpointer files,
      y = ({ x.1 with checkpointer := checkpointer }, { x.2 with files := files })) ∧
    (r = .ok () → Checkpointed x y) ∧ ∀ e, r = .error e → NotSaved x e y := by
  obtain ⟨t, w⟩ := x
  unfold saveCheckpoint at h
  cases hc : t.checkpointer with
  | none =>
      simp only [hc] at h
      cases h
      refine ⟨⟨_, _, rfl⟩, fun _ => ?_, nofun⟩
      simp [Checkpointed, hc]
  | some c =>
      cases hsave : c.save t.network.params t.step w.files with
      | mk result after =>
      simp only [hc, hsave] at h
      cases h
      refine ⟨⟨_, _, rfl⟩, fun hr => ?_, fun e he => ?_⟩
      · cases result with
        | error cause => cases hr
        | ok path =>
            obtain ⟨placed, kept, hplace, hprune, -, hkept⟩ := Checkpointer.save_eq_ok hsave
            simp only [Checkpointed, hc]
            exact ⟨placed, kept, hplace, hprune, congrArg some hkept⟩
      · cases result with
        | ok path => cases he
        | error cause =>
            cases he
            exact ⟨c, cause, hc, rfl, congrArg Prod.fst hsave⟩

end Ends

/-- A round that ends well has made an update on each of its batches, has reported the network that
these have led to, and has saved it. One that fails at a batch keeps the updates on the batches
before, and has reported and saved nothing. Otherwise there was no count left for a step, or the
checkpoint could not be saved. -/
theorem trainRound_leaves (steps evalSteps : Nat)
    (x : GradientTrainer σ κ β ι ο μ × World Float32 σ) :
    RoundEnds steps evalSteps x (trainRound steps evalSteps x).1
      (trainRound steps evalSteps x).2 := by
  rw [trainRound_eq, Action.bind_run]
  cases hbefore : beforeSave steps evalSteps x with
  | mk r z =>
  cases r with
  | error e => exact beforeSave_eq_error hbefore
  | ok done =>
  obtain ⟨losses, trained, scores, evaluated, report, htrains, hscores, hreports, rfl⟩ :=
    beforeSave_eq_ok hbefore
  have hlearned := hscores.aside.learned_eq
  have hstep := (congrArg Learned.step hlearned).trans htrains.step_eq
  dsimp only
  generalize hsave : saveCheckpoint _ = ended
  obtain ⟨result, y⟩ := ended
  obtain ⟨⟨checkpointer, files, rfl⟩, hok, herror⟩ := saveCheckpoint_cases hsave
  obtain ⟨_, _, _, rfl⟩ := htrains.aside.trans hscores.aside
  cases result with
  | error e => exact .notSaved (herror e rfl)
  | ok done =>
      exact .completed ⟨hstep, ⟨losses, trained, scores, _, report, htrains, hscores, hlearned,
        hreports, rfl, rfl⟩, hok rfl⟩

section Sample

/-- A trainer of one parameter at its fifth step, whose batches are their own losses. -/
def echoTrainer (lists : List (List (Run Float32 Float32))) :
    GradientTrainer Nat (Stream (Run Float32 Float32)) Float32 Unit Unit Unit ×
      World Float32 Nat :=
  ({ name := "value", network := ⟨[⟨0, .fill [1] 0⟩], [1], fun _ _ => .error .refused⟩
     optimizer := .sgd, memory := [], schedule := (LearningRate.linear 1 0 10).rate
     score := fun _ loss => .ok ⟨loss, [("clipped", 0)], .ok [.fill [1] 1]⟩
     source := .ofLists lists, trainStream := none, evalStream := none, step := 5
     checkpointer := none, loggers := [.lines []], history := [] },
   ⟨0, .empty, [], 0⟩)

/-- All batches of a round are there, or the second one for training cannot be built, or that for
evaluation. -/
theorem trainRound_leaves_echoes :
    let whole := echoTrainer [[.ok 1, .ok 2], [.ok 3]]
    let flawed := echoTrainer [[.ok 1, Run.fail .io]]
    let unscored := echoTrainer [[.ok 1], [Run.fail .io]]
    Completed 2 1 whole (trainRound 2 1 whole).2 ∧
    FailedInTraining 2 1 flawed (.error .io) (trainRound 2 1 flawed).2 ∧
    FailedInEvaluation 1 1 0 unscored (.error .io) (trainRound 1 1 unscored).2 := by
  intro whole flawed unscored
  have hwhole := trainRound_leaves 2 1 whole
  have hflawed := trainRound_leaves 2 1 flawed
  have hunscored := trainRound_leaves 1 1 unscored
  have hflawedStep : (trainRound 2 1 flawed).2.1.step = 6 := by decide +kernel
  have hunscoredStep : (trainRound 1 1 unscored).2.1.step = 6 := by decide +kernel
  rw [show (trainRound 2 1 whole).1 = .ok () from
    Attempt.eq_ok_of_toOption (by decide +kernel)] at hwhole
  rw [show (trainRound 2 1 flawed).1 = .error (.error .io) from rfl] at hflawed
  rw [show (trainRound 1 1 unscored).1 = .error (.error .io) from rfl] at hunscored
  refine ⟨?_, ?_, ?_⟩
  · cases hwhole with
    | completed h => exact h
  · cases hflawed with
    | failedInTraining h =>
        have hstep := hflawedStep.symm.trans h.step
        obtain rfl := Nat.add_left_cancel (show 5 + 1 = 5 + _ from hstep)
        exact h
    | failedInEvaluation h => cases hflawedStep.symm.trans h.step
    | overran h => cases h.cause
    | notSaved h =>
        obtain ⟨c, cause, hc, -⟩ := h
        cases hc
  · cases hunscored with
    | failedInTraining h =>
        have hstep := hunscoredStep.symm.trans h.step
        obtain rfl := Nat.add_left_cancel (show 5 + 1 = 5 + _ from hstep)
        exact absurd h.lt (Nat.lt_irrefl 1)
    | failedInEvaluation h =>
        obtain rfl := Nat.lt_one_iff.1 h.lt
        exact h
    | overran h => cases h.cause
    | notSaved h =>
        obtain ⟨c, cause, hc, -⟩ := h
        cases hc

end Sample

end GradientTrainer
end ActorCritic
