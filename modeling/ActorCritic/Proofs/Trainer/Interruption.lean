import ActorCritic.Proofs.Trainer.Evaluation

/-!
Rounds that end at a batch. Every gradient step is counted when it is made, so a round whose batch
cannot be built or scored leaves the steps before that batch in the counter; a round that is
completed, and one that fails in its evaluation, leave all of them.
-/

namespace ActorCritic
namespace GradientTrainer

variable {σ κ β γ ι ο μ : Type}

/-- Gradients that cannot be applied are not counted. -/
theorem step_applyGradients_error {rate : Float} {gradients : List (Tensor Float32)}
    {x y : GradientTrainer σ κ β ι ο μ × World Float32 σ} {e : Failure (Error Float32)}
    (h : applyGradients rate gradients x = (.error e, y)) : y.1.step = x.1.step := by
  unfold applyGradients at h
  replace h := Action.read_bind_eq.1 h
  obtain h | ⟨⟨params, memory⟩, _, hupdate, h⟩ := Action.bind_eq_error.1 h
  · rw [(Action.lift_eq.1 h).2]
  obtain ⟨-, rfl⟩ := Action.lift_abort_eq_ok.1 hupdate
  obtain h | ⟨⟨⟩, moved, hmoved, h⟩ := Action.bind_eq_error.1 h
  · cases h
  obtain h | ⟨step, _, hstep, h⟩ := Action.bind_eq_error.1 h
  · rw [← (Action.lift_eq.1 h).2, ← Action.update_eq_ok.1 hmoved]
  · cases h

theorem step_oneStep_error {rate : Float} {losses : MetricMeans}
    {x y : GradientTrainer σ κ β ι ο μ × World Float32 σ} {e : Failure (Error Float32)}
    (h : trainSteps 1 rate losses x = (.error e, y)) : y.1.step = x.1.step := by
  have hdraw : KeepsStep x.1.source x.1.score x.1.step
      (nextTrainBatch : TrainerAction σ κ β ι ο μ β) :=
    keepsStep_nextTrainBatch _ _ _
  obtain h | ⟨batch, drawn, hbatch, h⟩ := Action.bind_eq_error.1 h
  · exact (hdraw.keeps h ⟨rfl, rfl, rfl⟩).2.2
  rw [← (hdraw.keeps hbatch ⟨rfl, rfl, rfl⟩).2.2]
  replace h := Action.read_bind_eq.1 h
  obtain h | ⟨score, _, hscore, h⟩ := Action.bind_eq_error.1 h
  · rw [(Action.lift_eq.1 h).2]
  obtain ⟨-, rfl⟩ := Action.lift_eq.1 hscore
  obtain h | ⟨⟨sums, line⟩, _, hrecord, h⟩ := Action.bind_eq_error.1 h
  · rw [(Action.lift_eq.1 h).2]
  obtain ⟨-, rfl⟩ := Action.lift_abort_eq_ok.1 hrecord
  obtain h | ⟨gradients, _, hgradients, h⟩ := Action.bind_eq_error.1 h
  · rw [(Action.lift_eq.1 h).2]
  obtain ⟨-, rfl⟩ := Action.lift_abort_eq_ok.1 hgradients
  obtain h | ⟨⟨⟩, moved, -, h⟩ := Action.bind_eq_error.1 h
  · exact step_applyGradients_error h
  · cases h

/-- Of the training steps of a round `done` are made; the next one fails, because its batch is not
built or not scored. -/
structure FailsAfter (steps done : Nat) (e : Failure (Error Float32))
    (x y : GradientTrainer (Supply Float32) (Stream γ) β ι ο μ × World Float32 (Supply Float32)) :
    Prop where
  lt : done < steps
  fails : ∃ rate losses z,
    trainSteps done (x.1.schedule x.1.step) .empty x = (.ok (rate, losses), z) ∧
      trainSteps 1 rate losses z = (.error e, y)

namespace FailsAfter

variable {steps done : Nat} {e : Failure (Error Float32)}
  {x y : GradientTrainer (Supply Float32) (Stream γ) β ι ο μ × World Float32 (Supply Float32)}

theorem trainRound_eq (h : FailsAfter steps done e x y) (evalSteps : Nat) :
    trainRound steps evalSteps x = (.error e, y) := by
  obtain ⟨rate, losses, z, hdone, hnext⟩ := h.fails
  obtain ⟨rest, hsteps⟩ := Nat.exists_eq_add_of_lt h.lt
  have hlater : trainSteps (1 + rest) rate losses z = (.error e, y) := by
    rw [trainSteps_add]
    exact Action.bind_eq_error.2 (.inl hnext)
  refine Action.read_bind_eq.2 (Action.bind_eq_error.2 (.inl ?_))
  rw [hsteps, Nat.add_assoc, Nat.add_comm rest 1, trainSteps_add, Action.bind_of_ok hdone]
  exact hlater

theorem step_eq (h : FailsAfter steps done e x y) : y.1.step = x.1.step + done := by
  obtain ⟨rate, losses, z, hdone, hnext⟩ := h.fails
  rw [step_oneStep_error hnext, step_trainSteps hdone]

end FailsAfter

end GradientTrainer
end ActorCritic
