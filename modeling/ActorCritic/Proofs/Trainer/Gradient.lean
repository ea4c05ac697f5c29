import ActorCritic.Proofs.Network.Snapshot
import ActorCritic.Proofs.Trainer.Lawful
import ActorCritic.Proofs.Trainer.Unscheduled
import ActorCritic.Trainer.Gradient

/-!
The trainer that trains obeys the laws of trainers. A round counts one step for every batch that it
trains on; evaluation, reports and checkpoints leave the counter alone.
-/

namespace ActorCritic
namespace GradientTrainer

variable {σ κ β ι ο μ : Type}

theorem nextBatch_error {source : BatchSource Float32 σ κ β} {name : String} {stream : Option κ}
    {supply : σ} {e : Failure (Error Float32)} (hsource : source.Unscheduled)
    (h : (nextBatch source name stream supply).1 = .error e) : ¬e.IsSchedule := by
  simp only [nextBatch] at h
  -- Either the open stream still had an item, or the first one of a fresh stream is taken.
  split at h
  · next item rest hpulled =>
      cases stream with
      | none => cases hpulled
      | some current =>
          cases h
          have hpull : (source.pull supply current).1 = some (.error e) :=
            congrArg Prod.fst hpulled
          exact hsource supply current e _ (Prod.ext hpull rfl)
  · next rest hpulled =>
      split at h
      · next a _ hstart =>
          cases h
          exact id
      · next fresh _ hstart =>
          split at h
          · next a _ hpull =>
              cases h
              exact id
          · next item _ _ hpull =>
              cases h
              exact hsource _ fresh e _ hpull
          · cases h
            exact id

section Respects

variable {P : GradientTrainer σ κ β ι ο μ × World Float32 σ → Prop}
  {E : Failure (Error Float32) → Prop} (habort : ∀ a, E (.abort a))
  (hscore : ∀ x, P x → ∀ batch e, x.1.score x.1.network batch = .error e → E e)
include habort hscore

/-- What draws and updates keep, training keeps. -/
theorem respects_trainSteps
    (hdraw : Action.Respects P E (nextTrainBatch : TrainerAction σ κ β ι ο μ β))
    (happly : ∀ x, P x → ∀ batch score gradients, x.1.score x.1.network batch = .ok score →
      score.gradients = .ok gradients → ∀ rate,
        Action.Respects P E (applyGradients rate gradients : TrainerAction σ κ β ι ο μ Unit))
    (steps : Nat) (rate : Float) (losses : MetricMeans) :
    Action.Respects P E
      (trainSteps steps rate losses : TrainerAction σ κ β ι ο μ (Float × MetricMeans)) := by
  induction steps generalizing rate losses with
  | zero => exact .pure _
  | succ steps ih =>
      refine hdraw.bind fun batch => .read_bind fun x hx => ?_
      refine .lift_bind (hscore x hx batch) fun score hscored => ?_
      refine .bind (.lift_abort habort) fun _ => ?_
      refine .lift_abort_bind habort fun gradients hgradients => ?_
      exact (happly x hx batch score gradients hscored hgradients _).bind fun _ => ih _ _

/-- What draws keep, an evaluation keeps. -/
theorem respects_evaluate
    (hdraw : Action.Respects P E (nextEvalBatch : TrainerAction σ κ β ι ο μ β))
    (steps : Nat) (means : MetricMeans) :
    Action.Respects P E
      (evaluate steps means : TrainerAction σ κ β ι ο μ (Metrics Float32)) := by
  induction steps generalizing means with
  | zero => exact .pure _
  | succ steps ih =>
      refine hdraw.bind fun batch => .read_bind fun x hx => ?_
      refine .bind (.lift (hscore x hx batch)) fun score => ?_
      exact .bind (.lift_abort habort) fun _ => .bind (.lift_abort habort) fun _ => ih _

end Respects

/-- No batch has a score that fails because of the schedule. -/
def UnscheduledScore (score : Network Float32 ι ο → β → Run Float32 (Score Float32)) : Prop :=
  ∀ network batch e, score network batch = .error e → ¬e.IsSchedule

/-- The schedule is not why a score fails that can only be aborted. -/
theorem unscheduledScore_of_abort (score : Network Float32 ι ο → β → Except Abort (Score Float32)) :
    UnscheduledScore fun network batch => (score network batch).mapError .abort := by
  intro network batch e he
  obtain ⟨a, -, rfl⟩ := Attempt.mapError_eq_error.1 he
  exact id

/-- The action works on one input and stays at one step, and if no batch of the input fails because
of the schedule, nor its score, neither does the action. -/
def KeepsStep {γ : Type} (source : BatchSource Float32 σ κ β)
    (score : Network Float32 ι ο → β → Run Float32 (Score Float32)) (step : Nat)
    (a : TrainerAction σ κ β ι ο μ γ) : Prop :=
  Action.Respects (fun x => x.1.source = source ∧ x.1.score = score ∧ x.1.step = step)
    (fun e => source.Unscheduled → UnscheduledScore score → ¬e.IsSchedule) a

/-- The same, at any step. -/
def KeepsSource {γ : Type} (source : BatchSource Float32 σ κ β)
    (score : Network Float32 ι ο → β → Run Float32 (Score Float32))
    (a : TrainerAction σ κ β ι ο μ γ) : Prop :=
  Action.Respects (fun x => x.1.source = source ∧ x.1.score = score)
    (fun e => source.Unscheduled → UnscheduledScore score → ¬e.IsSchedule) a

theorem KeepsStep.keepsSource {γ : Type} {source : BatchSource Float32 σ κ β}
    {score : Network Float32 ι ο → β → Run Float32 (Score Float32)}
    {a : TrainerAction σ κ β ι ο μ γ} (h : ∀ step, KeepsStep source score step a) :
    KeepsSource source score a := by
  intro x hx
  obtain ⟨⟨hsource, hscore, -⟩, hcause⟩ := h x.1.step x ⟨hx.1, hx.2, rfl⟩
  exact ⟨⟨hsource, hscore⟩, hcause⟩

variable (source : BatchSource Float32 σ κ β)
  (score : Network Float32 ι ο → β → Run Float32 (Score Float32)) (step : Nat)

theorem keepsStep_nextTrainBatch :
    KeepsStep source score step (nextTrainBatch : TrainerAction σ κ β ι ο μ β) := by
  rintro ⟨t, w⟩ ⟨rfl, rfl, rfl⟩
  exact ⟨⟨rfl, rfl, rfl⟩, fun e he hsource _ => nextBatch_error hsource he⟩

theorem keepsStep_nextEvalBatch :
    KeepsStep source score step (nextEvalBatch : TrainerAction σ κ β ι ο μ β) := by
  rintro ⟨t, w⟩ ⟨rfl, rfl, rfl⟩
  exact ⟨⟨rfl, rfl, rfl⟩, fun e he hsource _ => nextBatch_error hsource he⟩

theorem keepsStep_evaluate (steps : Nat) (means : MetricMeans) :
    KeepsStep source score step
      (evaluate steps means : TrainerAction σ κ β ι ο μ (Metrics Float32)) := by
  refine respects_evaluate (fun _ _ _ => id) ?_ (keepsStep_nextEvalBatch source score step) _ _
  exact fun x hx batch e he _ hscore => hscore _ _ _ (hx.2.1 ▸ he)

theorem keepsStep_report (r : Report) :
    KeepsStep source score step (report r : TrainerAction σ κ β ι ο μ Unit) :=
  Action.Respects.update fun _ h => h

theorem keepsStep_saveCheckpoint :
    KeepsStep source score step (saveCheckpoint : TrainerAction σ κ β ι ο μ Unit) := by
  rintro ⟨t, w⟩ h
  simp only [saveCheckpoint]
  split
  · exact ⟨h, fun e he => by cases he⟩
  · refine ⟨h, ?_⟩
    intro e he _ _
    exact not_isSchedule_of_ofCheckpoint (Attempt.map_eq_error.1 he)

theorem step_applyGradients {rate : Float} {gradients : List (Tensor Float32)}
    {x y : GradientTrainer σ κ β ι ο μ × World Float32 σ}
    (h : applyGradients rate gradients x = (.ok (), y)) :
    y.1.step = x.1.step + 1 ∧ x.1.step + 1 < Count.limit := by
  unfold applyGradients at h
  replace h := Action.read_bind_eq.1 h
  obtain ⟨⟨params, memory⟩, _, hupdate, h⟩ := Action.bind_eq_ok.1 h
  obtain ⟨-, rfl⟩ := Action.lift_abort_eq_ok.1 hupdate
  obtain ⟨⟨⟩, moved, hmoved, h⟩ := Action.bind_eq_ok.1 h
  cases hmoved
  obtain ⟨step, _, hstep, h⟩ := Action.bind_eq_ok.1 h
  obtain ⟨hsum, rfl⟩ := Action.lift_abort_eq_ok.1 hstep
  obtain ⟨hlimit, rfl⟩ := Count.add_eq_ok.1 hsum
  rw [← Action.update_eq_ok.1 h]
  exact ⟨rfl, hlimit⟩

/-- Applying gradients fails for no cause that a caller could react to. -/
theorem applyGradients_eq_error {rate : Float} {gradients : List (Tensor Float32)}
    {x y : GradientTrainer σ κ β ι ο μ × World Float32 σ} {e : Failure (Error Float32)}
    (h : applyGradients rate gradients x = (.error e, y)) : ∃ a, e = .abort a := by
  have hrespects : Action.Respects (fun _ => True) (fun e => ∃ a, e = .abort a)
      (applyGradients rate gradients : TrainerAction σ κ β ι ο μ Unit) := by
    refine .read_bind fun x _ => .bind (.lift_abort fun a => ⟨a, rfl⟩) fun moved => ?_
    refine .bind (.update fun _ _ => trivial) fun _ => ?_
    exact .bind (.lift_abort fun a => ⟨a, rfl⟩) fun step => .update fun _ _ => trivial
  exact hrespects.cause h trivial

theorem keepsSource_applyGradients (rate : Float) (gradients : List (Tensor Float32)) :
    KeepsSource source score
      (applyGradients rate gradients : TrainerAction σ κ β ι ο μ Unit) := by
  refine Action.Respects.read_bind fun x _ => ?_
  refine (Action.Respects.lift_abort fun _ _ _ => id).bind ?_
  rintro ⟨params, memory⟩
  refine Action.Respects.bind (Action.Respects.update fun _ h => h) fun _ => ?_
  refine (Action.Respects.lift_abort fun _ _ _ => id).bind fun step => ?_
  exact Action.Respects.update fun _ h => h

theorem step_trainSteps {steps : Nat} {rate : Float} {losses : MetricMeans}
    {x y : GradientTrainer σ κ β ι ο μ × World Float32 σ} {r : Float × MetricMeans}
    (h : trainSteps steps rate losses x = (.ok r, y)) : y.1.step = x.1.step + steps := by
  induction steps generalizing rate losses x with
  | zero =>
      obtain ⟨-, rfl⟩ := Action.pure_eq_ok.1 h
      rfl
  | succ steps ih =>
      obtain ⟨batch, drawn, hdraw, h⟩ := Action.bind_eq_ok.1 h
      have hdrawn := (keepsStep_nextTrainBatch x.1.source x.1.score x.1.step).keeps hdraw
        ⟨rfl, rfl, rfl⟩
      replace h := Action.read_bind_eq.1 h
      obtain ⟨score, _, hscore, h⟩ := Action.bind_eq_ok.1 h
      obtain ⟨-, rfl⟩ := Action.lift_eq.1 hscore
      obtain ⟨⟨losses, _⟩, _, hrecorded, h⟩ := Action.bind_eq_ok.1 h
      obtain ⟨-, rfl⟩ := Action.lift_abort_eq_ok.1 hrecorded
      obtain ⟨gradients, _, hgradients, h⟩ := Action.bind_eq_ok.1 h
      obtain ⟨-, rfl⟩ := Action.lift_abort_eq_ok.1 hgradients
      obtain ⟨⟨⟩, moved, hmoved, h⟩ := Action.bind_eq_ok.1 h
      rw [ih h, (step_applyGradients hmoved).1, hdrawn.2.2]
      omega

theorem keepsSource_trainSteps (steps : Nat) (rate : Float) (losses : MetricMeans) :
    KeepsSource source score
      (trainSteps steps rate losses : TrainerAction σ κ β ι ο μ (Float × MetricMeans)) := by
  refine respects_trainSteps (fun _ _ _ => id) ?_
    (KeepsStep.keepsSource (keepsStep_nextTrainBatch source score)) ?_ _ _ _
  · exact fun x hx batch e he _ hscore => hscore _ _ _ (hx.2 ▸ he)
  · exact fun _ _ _ _ gradients _ _ rate => keepsSource_applyGradients source score rate gradients

/-- What follows the training steps of a round. -/
theorem keepsStep_conclude (evalSteps : Nat) (rate : Float) (losses : MetricMeans) :
    KeepsStep source score step (do
      let metrics ← evaluate evalSteps .empty
      let (t, _) ← Action.read
      report {
        trainer := t.name
        step := t.step
        learningRate := rate
        trainLoss := (losses.mean? "loss").getD 0
        metrics := metrics }
      saveCheckpoint : TrainerAction σ κ β ι ο μ Unit) := by
  refine (keepsStep_evaluate source score step evalSteps _).bind fun metrics => ?_
  refine Action.Respects.read_bind fun x _ => ?_
  exact (keepsStep_report source score step _).bind fun _ =>
    keepsStep_saveCheckpoint source score step

variable {source score step}

theorem step_trainRound {steps evalSteps : Nat}
    {x y : GradientTrainer σ κ β ι ο μ × World Float32 σ}
    (h : trainRound steps evalSteps x = (.ok (), y)) : y.1.step = x.1.step + steps := by
  unfold trainRound at h
  replace h := Action.read_bind_eq.1 h
  obtain ⟨⟨rate, losses⟩, trained, htrained, h⟩ := Action.bind_eq_ok.1 h
  have hkept : y.1.source = trained.1.source ∧ y.1.score = trained.1.score ∧
      y.1.step = trained.1.step :=
    (keepsStep_conclude _ _ _ evalSteps rate losses).keeps h ⟨rfl, rfl, rfl⟩
  rw [hkept.2.2, step_trainSteps htrained]

theorem keepsSource_trainRound (source : BatchSource Float32 σ κ β)
    (score : Network Float32 ι ο → β → Run Float32 (Score Float32)) (steps evalSteps : Nat) :
    KeepsSource source score
      (trainRound steps evalSteps : TrainerAction σ κ β ι ο μ Unit) := by
  refine Action.Respects.read_bind fun x _ => ?_
  refine (keepsSource_trainSteps source score steps _ _).bind ?_
  rintro ⟨rate, losses⟩
  exact KeepsStep.keepsSource fun step =>
    keepsStep_conclude source score step evalSteps rate losses

/-- Batches that come from a task never fail because of the schedule, so neither do the trainer's
rounds if their scores do not. -/
theorem unscheduled {t : GradientTrainer σ κ β ι ο μ} (h : t.source.Unscheduled)
    (hscore : UnscheduledScore t.score) : Trainer.Unscheduled t := by
  have hkeeps {γ : Type} {a : TrainerAction σ κ β ι ο μ γ}
      (ha : ∀ source score, KeepsSource source score a) :
      Trainer.Keeps (fun t : GradientTrainer σ κ β ι ο μ =>
        t.source.Unscheduled ∧ UnscheduledScore t.score) a := by
    intro x hx
    obtain ⟨⟨hsource, hscore⟩, hcause⟩ := ha x.1.source x.1.score x ⟨rfl, rfl⟩
    dsimp only
    rw [hsource, hscore]
    exact ⟨hx, fun e he => hcause e he hx.1 hx.2⟩
  refine ⟨fun t => t.source.Unscheduled ∧ UnscheduledScore t.score, ⟨h, hscore⟩, ?_, ?_, ?_, ?_, ?_⟩
  · intro t _ e he
    exact not_isSchedule_of_widen (fun _ => id) he
  · intro s
    refine hkeeps fun source score => Action.Respects.read_bind fun x _ => ?_
    refine (Action.Respects.lift fun e he _ _ => ?_).bind fun network => ?_
    · exact not_isSchedule_of_widen (fun _ => id) he
    · exact Action.Respects.update fun _ h => h
  · intro s
    refine hkeeps fun source score => Action.Respects.read_bind fun x _ => ?_
    refine (Action.Respects.lift fun e he _ _ => ?_).bind fun network => ?_
    · exact not_isSchedule_of_ofParams he
    · exact Action.Respects.update fun _ h => h
  · intro s
    refine hkeeps fun source score => Action.Respects.read_bind fun x _ => ?_
    exact Action.Respects.lift fun e he _ _ => by cases he; exact id
  · intro steps evalSteps
    exact hkeeps fun source score => keepsSource_trainRound source score steps evalSteps

theorem setWeights_eq_ok {s : Snapshot Float32}
    {x y : GradientTrainer σ κ β ι ο μ × World Float32 σ}
    (h : Trainer.setWeights s x = (.ok (), y)) :
    ∃ network, x.1.network.load s = .ok network ∧ ({ x.1 with network := network }, x.2) = y := by
  replace h := Action.read_bind_eq.1 h
  obtain ⟨network, _, hload, h⟩ := Action.bind_eq_ok.1 h
  obtain ⟨hfits, rfl⟩ := Action.lift_eq.1 hload
  exact ⟨network, Attempt.mapError_eq_ok.1 hfits, Action.update_eq_ok.1 h⟩

/-- The network holds no state, so it stays as it is. -/
theorem setState_eq_ok {s : Snapshot Float32}
    {x y : GradientTrainer σ κ β ι ο μ × World Float32 σ}
    (h : Trainer.setState s x = (.ok (), y)) : x = y := by
  replace h := Action.read_bind_eq.1 h
  obtain ⟨network, _, hstate, h⟩ := Action.bind_eq_ok.1 h
  obtain ⟨hempty, rfl⟩ := Action.lift_eq.1 hstate
  have hnetwork := Attempt.mapError_eq_ok.1 hempty
  unfold Network.withState at hnetwork
  split at hnetwork
  · cases hnetwork
    exact Action.update_eq_ok.1 h
  · cases hnetwork

instance : LawfulTrainer (GradientTrainer σ κ β ι ο μ) where
  reading_setWeights {s x y} h := by
    obtain ⟨network, hload, rfl⟩ := setWeights_eq_ok h
    obtain ⟨-, hcounts, -⟩ := Network.load_eq_ok hload
    refine Reading.ext rfl rfl ?_ rfl
    exact congrArg (fun counts => Snapshot.empty counts.length) hcounts
  weights_setWeights {s v x y} h hv hlayout := by
    obtain ⟨network, hload, rfl⟩ := setWeights_eq_ok h
    exact Attempt.mapError_eq_ok.2
      (Network.weights_of_load hload (Attempt.mapError_eq_ok.1 hv) hlayout)
  reading_setState h := by
    rw [setState_eq_ok h]
    rfl
  state_setState {s x y} h hlayout := by
    rw [← setState_eq_ok h]
    exact Network.state_eq_of_layout hlayout
  reading_setSlots h := by cases h
  reading_setWeights_error {s x y e} h := by
    obtain hload | ⟨network, _, -, h⟩ := Action.bind_eq_error.1 (Action.read_bind_eq.1 h)
    · obtain ⟨-, rfl⟩ := Action.lift_eq.1 hload
      rfl
    · cases h
  reading_setState_error {s x y e} h := by
    obtain hstate | ⟨network, _, -, h⟩ := Action.bind_eq_error.1 (Action.read_bind_eq.1 h)
    · obtain ⟨-, rfl⟩ := Action.lift_eq.1 hstate
      rfl
    · cases h
  reading_setSlots_error h := by
    cases h
    rfl
  step_trainRound := step_trainRound

end GradientTrainer
end ActorCritic
