import ActorCritic.Proofs.Trainer.Lawful
import ActorCritic.Proofs.Trainer.Unscheduled
import ActorCritic.Trainer.Recording

/-!
The trainer that computes nothing obeys the laws of trainers, whatever its batches are: a round
draws its batches from the stream, counts its steps if all of them came, and touches nothing else.
-/

namespace ActorCritic
namespace RecordingTrainer

variable {α σ κ β : Type}

/-- Both are one trainer, apart from the stream that it draws from. -/
def SameButStream (t u : RecordingTrainer α σ κ β) : Prop :=
  ∃ stream, u = { t with stream := stream }

/-- Drawing a batch moves the stream alone, and fails only as a start or a batch does. -/
theorem draw_respects (t : RecordingTrainer α σ κ β) {E : Failure (Error α) → Prop}
    (hstart : ∀ a, E (.abort a))
    (hpull : ∀ supply stream e rest,
      t.source.pull supply stream = (some (.error e), rest) → E e) :
    Action.Respects (fun x : RecordingTrainer α σ κ β × World α σ => t.SameButStream x.1) E
      draw := by
  rintro ⟨u, w⟩ ⟨current, rfl⟩
  simp only [draw]
  split
  · next a _ => exact ⟨⟨current, rfl⟩, fun e he => by cases he; exact hstart a⟩
  · next stream _ =>
      split
      · next cause hitem =>
          refine ⟨⟨some _, rfl⟩, ?_⟩
          intro e he
          cases he
          exact hpull _ stream cause _ (Prod.ext hitem rfl)
      · exact ⟨⟨some _, rfl⟩, fun e he => by cases he⟩

theorem step_trainRound {steps evalSteps : Nat} {x y : RecordingTrainer α σ κ β × World α σ}
    (h : trainRound steps evalSteps x = (.ok (), y)) : y.1.step = x.1.step + steps := by
  obtain ⟨⟨⟩, noted, hnote, h⟩ := Action.bind_eq_ok.1 h
  obtain ⟨⟨⟩, ⟨u, w⟩, hdraw, h⟩ := Action.bind_eq_ok.1 h
  have hdraws := (draw_respects x.1 (E := fun _ => True) (fun _ => trivial)
    fun _ _ _ _ _ => trivial).repeated steps
  obtain ⟨stream, rfl⟩ := hdraws.keeps hdraw ⟨x.1.stream, by cases hnote; rfl⟩
  replace h := Action.read_bind_eq.1 h
  obtain ⟨step, z, hstep, h⟩ := Action.bind_eq_ok.1 h
  obtain ⟨hsum, rfl⟩ := Action.lift_abort_eq_ok.1 hstep
  obtain ⟨-, rfl⟩ := Count.add_eq_ok.1 hsum
  rw [← Action.update_eq_ok.1 h]

theorem keeps_update
    {f : RecordingTrainer α σ κ β × World α σ → RecordingTrainer α σ κ β × World α σ}
    (hf : ∀ x, (f x).1.source = x.1.source) :
    Trainer.Keeps (fun t : RecordingTrainer α σ κ β => t.source.Unscheduled)
      (Action.update f : TrainerAction α σ κ β Unit) :=
  Action.Respects.update fun x hx => (congrArg BatchSource.Unscheduled (hf x)).mpr hx

theorem keeps_draw :
    Trainer.Keeps (fun t : RecordingTrainer α σ κ β => t.source.Unscheduled) draw := by
  rintro ⟨t, w⟩ ht
  obtain ⟨⟨stream, hsame⟩, hcause⟩ :=
    draw_respects t (E := (¬·.IsSchedule)) (fun _ => id) ht (t, w) ⟨t.stream, rfl⟩
  refine ⟨?_, hcause⟩
  change (draw (t, w)).2.1.source.Unscheduled
  rw [hsame]
  exact ht

theorem keeps_note (call : TrainerCall) :
    Trainer.Keeps (fun t : RecordingTrainer α σ κ β => t.source.Unscheduled) (note call) :=
  keeps_update fun _ => rfl

/-- Batches that come from a task never fail because of the schedule, so neither do the trainer's
rounds. -/
theorem unscheduled {t : RecordingTrainer α σ κ β} (h : t.source.Unscheduled) :
    Trainer.Unscheduled t := by
  refine ⟨fun t => t.source.Unscheduled, h, ?_, ?_, ?_, ?_, ?_⟩
  · intro t _ e he
    cases he
  · intro s
    exact (keeps_note _).bind fun _ => keeps_update fun _ => rfl
  · intro s
    exact (keeps_note _).bind fun _ => keeps_update fun _ => rfl
  · intro s
    exact (keeps_note _).bind fun _ => keeps_update fun _ => rfl
  · intro steps evalSteps
    refine (keeps_note _).bind fun _ => (keeps_draw.repeated steps).bind fun _ => ?_
    refine Action.Respects.read_bind fun x _ => ?_
    exact (Action.Respects.lift_abort fun _ => id).bind fun _ => keeps_update fun _ => rfl

instance : LawfulTrainer (RecordingTrainer α σ κ β) where
  reading_setWeights h := by cases h; rfl
  weights_setWeights h _ _ := by cases h; rfl
  reading_setState h := by cases h; rfl
  state_setState h _ := by cases h; rfl
  reading_setSlots h := by cases h; rfl
  reading_setWeights_error h := by cases h
  reading_setState_error h := by cases h
  reading_setSlots_error h := by cases h
  step_trainRound := step_trainRound

end RecordingTrainer
end ActorCritic
