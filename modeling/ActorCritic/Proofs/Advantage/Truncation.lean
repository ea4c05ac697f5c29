import ActorCritic.Proofs.Advantage.Estimator

/-!
Extra steps are cut off and have no other effect. Three of the estimators run over a slice from its
last step, whatever number of steps they are told to drop, so what they give for a step that is
kept is what they give for it without extra steps. The numbers may be of any kind, rounded or exact.
-/

namespace ActorCritic

theorem StepMatrix.truncate_grid {α : Type} {rows cols length : Nat} (h : length ≤ cols)
    (f : Nat → Nat → α) : (grid rows cols f).truncate length = grid rows length f := by
  have hcut := (grid rows cols f).isPrefix_truncate h
  refine ext_entryAt? hcut.extent_eq fun row step (hrow : row < rows) hstep => ?_
  replace hstep : step < length := Nat.lt_of_lt_of_le hstep (Nat.min_le_left length cols)
  rw [hcut.entry_eq row step hstep, entryAt?_grid f hrow (by omega), entryAt?_grid f hrow hstep]

namespace Estimator

variable {α : Type} [Scalar α]

/-- What an estimator gives for a step of a row. -/
abbrev StepFormula (α : Type) :=
  (gamma : α) → (rewards returns values : StepMatrix α) → (row step : Nat) → α

/-- The estimators that run over the whole slice, with the steps that they drop at least and the
number that they give for a step. It ends in the last step of the slice, be it in the return there
or in the last difference, and has nothing to do with the extra steps. -/
inductive RunsToEnd : Estimator α → Nat → StepFormula α → Prop where
  | monteCarlo : RunsToEnd monteCarlo 0 fun _ _ returns values row step =>
      returns.entry row step - values.entry row step
  | tdLambda (lambda : α) : RunsToEnd (tdLambda lambda) 0
      fun gamma rewards returns values row step =>
        lambdaReturn gamma lambda (returns.entry row (rewards.cols - 1))
          (transitions rewards values row step) - values.entry row step
  | gae (lambda : α) : RunsToEnd (gae lambda) 1 fun gamma rewards _ values row step =>
      decayedSum (gamma * lambda) ((List.range' step (rewards.cols - 1 - step)).map
        (difference gamma rewards values row))

variable {e : Estimator α} {least : Nat} {formula : StepFormula α}
  {rewards returns values : StepMatrix α}

theorem RunsToEnd.estimate_eq (he : e.RunsToEnd least formula)
    (h : OneShape rewards returns values) (gamma : α) (extraSteps : Nat) :
    e.estimate rewards returns values gamma extraSteps =
      .ok (.grid rewards.rows (rewards.cols - max extraSteps least)
        (formula gamma rewards returns values)) := by
  cases he with
  | monteCarlo =>
      rw [Nat.max_zero]
      exact monteCarlo_estimate h gamma extraSteps
  | tdLambda lambda =>
      rw [Nat.max_zero]
      exact tdLambda_estimate h lambda gamma extraSteps
  | gae lambda => exact gae_estimate h lambda gamma extraSteps

/-- With extra steps the estimate is the one without, cut to the steps that are left. The one
without runs to the end of the slice from every step. -/
theorem extra_steps_only_truncate (he : e.RunsToEnd least formula)
    (h : OneShape rewards returns values) (gamma : α) (extraSteps : Nat) :
    ∃ whole, e.estimate rewards returns values gamma 0 = .ok whole ∧
      whole.extent = (rewards.rows, rewards.cols - least) ∧
      (∀ row step, row < rewards.rows → step < rewards.cols - least →
        whole.entry row step = formula gamma rewards returns values row step) ∧
      e.estimate rewards returns values gamma extraSteps =
        .ok (whole.truncate (rewards.cols - max extraSteps least)) := by
  have hwhole := he.estimate_eq h gamma 0
  rw [Nat.zero_max] at hwhole
  refine ⟨_, hwhole, rfl, fun row step hrow hstep => StepMatrix.entry_grid _ hrow hstep, ?_⟩
  have hcut : rewards.cols - max extraSteps least ≤ rewards.cols - least :=
    Nat.sub_le_sub_left (Nat.le_max_right extraSteps least) rewards.cols
  rw [he.estimate_eq h gamma extraSteps, StepMatrix.truncate_grid hcut]

/-- Two slices of three steps in rounded numbers. With one extra step nothing is cut that is not
dropped anyway, with two a step is left, and with five none is. -/
theorem extra_steps_only_truncate_two_slices :
    let rewards : StepMatrix Float32 := ⟨2, 3, [1, 0, 9, 4, 4, 9], rfl⟩
    let values : StepMatrix Float32 := ⟨2, 3, [1, 3, 7, 5, 0, 6], rfl⟩
    OneShape rewards rewards values ∧
    (∃ formula, RunsToEnd (gae (1 / 3 : Float32)) 1 formula) ∧
    ∃ whole, (gae (1 / 3)).estimate rewards rewards values (1 / 7) 0 = .ok whole ∧
      whole.extent = (2, 2) ∧
      (gae (1 / 3)).estimate rewards rewards values (1 / 7) 1 = .ok (whole.truncate 2) ∧
      (gae (1 / 3)).estimate rewards rewards values (1 / 7) 2 = .ok (whole.truncate 1) ∧
      (gae (1 / 3)).estimate rewards rewards values (1 / 7) 5 = .ok (whole.truncate 0) := by
  intro rewards values
  have h : OneShape rewards rewards values := ⟨by decide, by decide, by decide⟩
  have he := RunsToEnd.gae (1 / 3 : Float32)
  obtain ⟨whole, hwhole, hextent, -, hone⟩ := extra_steps_only_truncate he h (1 / 7) 1
  obtain ⟨whole', hwhole', -, -, htwo⟩ := extra_steps_only_truncate he h (1 / 7) 2
  obtain ⟨whole'', hwhole'', -, -, hfive⟩ := extra_steps_only_truncate he h (1 / 7) 5
  obtain rfl := Except.ok.inj (hwhole.symm.trans hwhole')
  obtain rfl := Except.ok.inj (hwhole.symm.trans hwhole'')
  exact ⟨h, ⟨_, he⟩, whole, hwhole, hextent, hone, htwo, hfive⟩

end Estimator
end ActorCritic
