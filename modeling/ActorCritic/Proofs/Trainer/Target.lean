import ActorCritic.Proofs.Trainer.Gradient
import ActorCritic.Proofs.Trainer.Recording

/-!
Trainers and the value target. A trainer's batches are built with the target, and starting another
stream of them notes a request beside it; no call of a trainer moves the target itself.
-/

namespace ActorCritic

variable {α κ β γ ρ : Type}

/-- Another stream is started without a change of the value target. -/
def BatchSource.LeavesTarget (source : BatchSource α (Supply α) κ β) : Prop :=
  ∀ supply, (source.start supply).2.target = supply.target

theorem BatchSource.leavesTarget_ofTask (task : Task α) (request : SliceRequest)
    (build : ValueTarget α → Trajectory α → Attempt ShapeError β) :
    (BatchSource.ofTask task request build).LeavesTarget := by
  intro supply
  simp only [BatchSource.ofTask]
  split <;> rfl

theorem ValueBatchBuilder.leavesTarget_source [Add α] [Mul α] [Div α] (b : ValueBatchBuilder α)
    (task : Task α) : (b.source task).LeavesTarget :=
  BatchSource.leavesTarget_ofTask task b.plan.request b.build

theorem PolicyBatchBuilder.leavesTarget_source [Mul α] (b : PolicyBatchBuilder α)
    (task : Task α) : (b.source task).LeavesTarget :=
  BatchSource.leavesTarget_ofTask task b.plan.request b.build

namespace Trainer

/-- Whatever its outcome, the action keeps `P` of the trainer and leaves the value target alone. -/
def SparesTarget (P : ρ → Prop) (a : Action α (ρ × World α (Supply α)) γ) : Prop :=
  ∀ target, Action.Respects (fun x => P x.1 ∧ x.2.supply.target = target) (fun _ => True) a

namespace SparesTarget

variable {P : ρ → Prop} {δ : Type}

theorem bind {a : Action α (ρ × World α (Supply α)) γ}
    {f : γ → Action α (ρ × World α (Supply α)) δ} (ha : SparesTarget P a)
    (hf : ∀ x, SparesTarget P (f x)) : SparesTarget P (a >>= f) :=
  fun target => (ha target).bind fun x => hf x target

theorem read_bind {f : ρ × World α (Supply α) → Action α (ρ × World α (Supply α)) γ}
    (hf : ∀ x, SparesTarget P (f x)) : SparesTarget P (Action.read >>= f) :=
  fun target => Action.Respects.read_bind fun x _ => hf x target

theorem lift (r : Run α γ) :
    SparesTarget P (liftM r : Action α (ρ × World α (Supply α)) γ) :=
  fun _ => Action.Respects.lift fun _ _ => trivial

theorem lift_abort (r : Except Abort γ) :
    SparesTarget P (liftM r : Action α (ρ × World α (Supply α)) γ) :=
  fun _ => Action.Respects.lift_abort fun _ => trivial

theorem pure (x : γ) : SparesTarget P (Pure.pure x : Action α (ρ × World α (Supply α)) γ) :=
  fun _ => Action.Respects.pure x

theorem update {f : ρ × World α (Supply α) → ρ × World α (Supply α)}
    (hP : ∀ x, P x.1 → P (f x).1) (htarget : ∀ x, (f x).2.supply.target = x.2.supply.target) :
    SparesTarget P (Action.update f) :=
  fun _ => Action.Respects.update fun x hx => ⟨hP x hx.1, (htarget x).trans hx.2⟩

theorem repeated {a : Action α (ρ × World α (Supply α)) Unit} (ha : SparesTarget P a) (n : Nat) :
    SparesTarget P (Action.repeated a n) :=
  fun target => (ha target).repeated n

end SparesTarget

variable [Trainer α (Supply α) ρ]

/-- All that a run asks of its trainers keeps `P` of them and leaves the value target alone. -/
structure KeepsTarget (P : ρ → Prop) : Prop where
  setWeights (s : Snapshot α) : SparesTarget P (Trainer.setWeights s)
  setState (s : Snapshot α) : SparesTarget P (Trainer.setState s)
  setSlots (s : Snapshot α) : SparesTarget P (Trainer.setSlots s)
  trainRound (steps evalSteps : Nat) : SparesTarget P (Trainer.trainRound steps evalSteps)

/-- However long the trainer is used, its own work does not change the value target. -/
def LeavesTarget (t : ρ) : Prop := ∃ P : ρ → Prop, P t ∧ KeepsTarget P

end Trainer

namespace RecordingTrainer

theorem sparesTarget_draw :
    Trainer.SparesTarget
      (fun t : RecordingTrainer α (Supply α) κ β => t.source.LeavesTarget) draw := by
  rintro target ⟨t, w⟩ ⟨hsource, rfl⟩
  refine ⟨?_, fun _ _ => trivial⟩
  cases hstream : t.stream with
  | some stream =>
      simp only [draw, hstream]
      split <;> exact ⟨hsource, rfl⟩
  | none =>
      have hstart := hsource w.supply
      simp only [draw, hstream]
      split
      · exact ⟨hsource, hstart⟩
      · split <;> exact ⟨hsource, hstart⟩

theorem sparesTarget_note (call : TrainerCall) :
    Trainer.SparesTarget
      (fun t : RecordingTrainer α (Supply α) κ β => t.source.LeavesTarget) (note call) :=
  .update (fun _ h => h) fun _ => rfl

theorem leavesTarget {t : RecordingTrainer α (Supply α) κ β} (h : t.source.LeavesTarget) :
    Trainer.LeavesTarget t := by
  refine ⟨fun t => t.source.LeavesTarget, h, ?_, ?_, ?_, ?_⟩
  · exact fun _ => (sparesTarget_note _).bind fun _ => .update (fun _ h => h) fun _ => rfl
  · exact fun _ => (sparesTarget_note _).bind fun _ => .update (fun _ h => h) fun _ => rfl
  · exact fun _ => (sparesTarget_note _).bind fun _ => .update (fun _ h => h) fun _ => rfl
  · intro steps evalSteps
    refine (sparesTarget_note _).bind fun _ => (sparesTarget_draw.repeated steps).bind fun _ => ?_
    refine .read_bind fun x => (Trainer.SparesTarget.lift_abort _).bind fun step => ?_
    exact .update (fun _ h => h) fun _ => rfl

end RecordingTrainer

namespace GradientTrainer

variable {ι ο μ : Type}

/-- Whether or not a batch comes, at most one stream is started for it. -/
theorem supply_nextBatch {σ : Type} (source : BatchSource Float32 σ κ β) (name : String)
    (stream : Option κ) (supply : σ) :
    (nextBatch source name stream supply).2.2 = supply ∨
      (nextBatch source name stream supply).2.2 = (source.start supply).2 := by
  simp only [nextBatch]
  split
  · exact .inl rfl
  · split
    · next hstart => exact .inr (congrArg Prod.snd hstart).symm
    · next hstart =>
        right
        split <;> exact (congrArg Prod.snd hstart).symm

theorem target_nextBatch {source : BatchSource Float32 (Supply Float32) κ β}
    (h : source.LeavesTarget) (name : String) (stream : Option κ) (supply : Supply Float32) :
    (nextBatch source name stream supply).2.2.target = supply.target := by
  obtain hsame | hstarted := supply_nextBatch source name stream supply
  · rw [hsame]
  · rw [hstarted, h supply]

/-- The action keeps a source that leaves the target alone, and leaves the target alone. -/
abbrev SparesTarget (a : TrainerAction (Supply Float32) κ β ι ο μ γ) : Prop :=
  Trainer.SparesTarget
    (fun t : GradientTrainer (Supply Float32) κ β ι ο μ => t.source.LeavesTarget) a

theorem sparesTarget_nextTrainBatch :
    SparesTarget (nextTrainBatch : TrainerAction (Supply Float32) κ β ι ο μ β) := by
  rintro target ⟨t, w⟩ ⟨hsource, rfl⟩
  exact ⟨⟨hsource, target_nextBatch hsource _ _ _⟩, fun _ _ => trivial⟩

theorem sparesTarget_nextEvalBatch :
    SparesTarget (nextEvalBatch : TrainerAction (Supply Float32) κ β ι ο μ β) := by
  rintro target ⟨t, w⟩ ⟨hsource, rfl⟩
  exact ⟨⟨hsource, target_nextBatch hsource _ _ _⟩, fun _ _ => trivial⟩

theorem sparesTarget_applyGradients (rate : Float) (gradients : List (Tensor Float32)) :
    SparesTarget
      (applyGradients rate gradients : TrainerAction (Supply Float32) κ β ι ο μ Unit) := by
  refine .read_bind fun x => (Trainer.SparesTarget.lift_abort _).bind ?_
  rintro ⟨params, memory⟩
  refine .bind (.update (fun _ h => h) fun _ => rfl) fun _ => ?_
  exact (Trainer.SparesTarget.lift_abort _).bind fun step => .update (fun _ h => h) fun _ => rfl

theorem sparesTarget_trainSteps (steps : Nat) (rate : Float) (losses : MetricMeans) :
    SparesTarget (trainSteps steps rate losses :
      TrainerAction (Supply Float32) κ β ι ο μ (Float × MetricMeans)) :=
  fun target => respects_trainSteps (fun _ => trivial) (fun _ _ _ _ _ => trivial)
    (sparesTarget_nextTrainBatch target)
    (fun _ _ _ _ gradients _ _ rate => sparesTarget_applyGradients rate gradients target) _ _ _

theorem sparesTarget_evaluate (steps : Nat) (means : MetricMeans) :
    SparesTarget (evaluate steps means :
      TrainerAction (Supply Float32) κ β ι ο μ (Metrics Float32)) :=
  fun target => respects_evaluate (fun _ => trivial) (fun _ _ _ _ _ => trivial)
    (sparesTarget_nextEvalBatch target) _ _

theorem sparesTarget_saveCheckpoint :
    SparesTarget (saveCheckpoint : TrainerAction (Supply Float32) κ β ι ο μ Unit) := by
  rintro target ⟨t, w⟩ h
  refine ⟨?_, fun _ _ => trivial⟩
  simp only [saveCheckpoint]
  split <;> exact h

theorem sparesTarget_trainRound (steps evalSteps : Nat) :
    SparesTarget
      (trainRound steps evalSteps : TrainerAction (Supply Float32) κ β ι ο μ Unit) := by
  refine .read_bind fun x => (sparesTarget_trainSteps steps _ _).bind ?_
  rintro ⟨rate, losses⟩
  refine (sparesTarget_evaluate evalSteps _).bind fun metrics => .read_bind fun y => ?_
  exact .bind (.update (fun _ h => h) fun _ => rfl) fun _ => sparesTarget_saveCheckpoint

theorem leavesTarget {t : GradientTrainer (Supply Float32) κ β ι ο μ}
    (h : t.source.LeavesTarget) : Trainer.LeavesTarget t := by
  refine ⟨fun t => t.source.LeavesTarget, h, ?_, ?_, ?_, ?_⟩
  · intro s
    refine .read_bind fun x => (Trainer.SparesTarget.lift _).bind fun network => ?_
    exact .update (fun _ h => h) fun _ => rfl
  · intro s
    refine .read_bind fun x => (Trainer.SparesTarget.lift _).bind fun network => ?_
    exact .update (fun _ h => h) fun _ => rfl
  · exact fun s => .read_bind fun x => .lift _
  · exact sparesTarget_trainRound

end GradientTrainer
end ActorCritic
