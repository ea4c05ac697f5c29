import ActorCritic.Proofs.Advantage.Bellman

/-!
What a value and its advantage add up to. The value cancels, and what is left is made of the rewards
of the step and of later ones, of later values, and of a return that is not earlier either. So two
slices that agree on these have one such sum. With all weight on the return that ends the row the
sum is the return of the step itself, if returns satisfy the recurrence with their rewards, and
temporal differences then estimate what Monte Carlo does.
-/

namespace ActorCritic

variable {α : Type} [ExactScalar α]

namespace BellmanReturns

variable {gamma : α} {rewards returns : StepMatrix α} (h : BellmanReturns gamma rewards returns)
include h

/-- Returns lead from one to the next, whatever the values. -/
theorem lambdaReturn_one (values : StepMatrix α) {row step count : Nat} (hrow : row < rewards.rows)
    (hcount : step + count < rewards.cols) :
    Estimator.lambdaReturn gamma 1 (returns.entry row (step + count))
        ((List.range' step count).map fun i =>
          (rewards.entry row i, values.entry row (i + 1))) =
      returns.entry row step := by
  induction count generalizing step with
  | zero => rfl
  | succ count ih =>
      have hnext := @ih (step + 1) (by omega)
      rw [Nat.add_right_comm, Nat.add_assoc step count 1] at hnext
      rw [List.range'_succ, List.map_cons, h.recurrence row step hrow (by omega), ← hnext]
      simp only [Estimator.lambdaReturn, List.foldr_cons, sub_self, zero_mul, zero_add, one_mul]

/-- With all weight on the return that ends the row, temporal differences and Monte Carlo estimate
the same advantages, whatever the values and however many steps are dropped. -/
theorem tdLambda_one_eq_monteCarlo {values : StepMatrix α}
    (hvalues : values.extent = rewards.extent) (hsize : rewards.entries.length < Count.limit)
    (extraSteps : Nat) :
    ∃ advantages,
      (Estimator.tdLambda 1).estimate rewards returns values gamma extraSteps = .ok advantages ∧
      Estimator.monteCarlo.estimate rewards returns values gamma extraSteps = .ok advantages ∧
      advantages.extent = (rewards.rows, rewards.cols - extraSteps) ∧
      ∀ row step, row < rewards.rows → step < rewards.cols - extraSteps →
        advantages.entry row step = returns.entry row step - values.entry row step := by
  have hshape : Estimator.OneShape rewards returns values := ⟨h.extent, hvalues, hsize⟩
  refine ⟨_, ?_, Estimator.monteCarlo_estimate hshape gamma extraSteps, rfl,
    fun row step hrow hstep => StepMatrix.entry_grid _ hrow hstep⟩
  rw [Estimator.tdLambda_estimate hshape]
  refine congrArg Except.ok (StepMatrix.grid_congr fun row step hrow hstep => ?_)
  have hreturn := h.lambdaReturn_one values hrow
    (show step + (rewards.cols - 1 - step) < rewards.cols by omega)
  rw [show step + (rewards.cols - 1 - step) = rewards.cols - 1 by omega] at hreturn
  rw [Estimator.transitions, hreturn]

omit h in
/-- Three steps at a discount of nine tenths, of which the last is dropped. -/
theorem tdLambda_one_eq_monteCarlo_three_steps :
    let rewards : StepMatrix ℚ := ⟨1, 3, [1, 0, 2], rfl⟩
    let returns : StepMatrix ℚ := ⟨1, 3, [131 / 50, 9 / 5, 2], rfl⟩
    let values : StepMatrix ℚ := ⟨1, 3, [2 / 5, -1 / 5, 1 / 10], rfl⟩
    BellmanReturns (9 / 10) rewards returns ∧ values.extent = rewards.extent ∧
    rewards.entries.length < Count.limit ∧ ∃ advantages,
      (Estimator.tdLambda 1).estimate rewards returns values (9 / 10) 1 = .ok advantages ∧
      Estimator.monteCarlo.estimate rewards returns values (9 / 10) 1 = .ok advantages ∧
      advantages.extent = (1, 2) ∧
      advantages.entry 0 0 = 111 / 50 ∧ advantages.entry 0 1 = 2 := by
  intro rewards returns values
  have hreturns : BellmanReturns (9 / 10) rewards returns := by
    have hrecurrence : ∀ row < 1, ∀ step < 2, returns.entry row step =
        rewards.entry row step + 9 / 10 * returns.entry row (step + 1) := by decide +kernel
    exact ⟨rfl, fun row step hrow hstep => hrecurrence row hrow step (Nat.lt_of_succ_lt_succ hstep)⟩
  have hvalues : values.extent = rewards.extent := rfl
  have hsize : rewards.entries.length < Count.limit := by decide
  obtain ⟨advantages, htd, hmonteCarlo, hextent, hentry⟩ :=
    hreturns.tdLambda_one_eq_monteCarlo hvalues hsize 1
  have hfirst : returns.entry 0 0 - values.entry 0 0 = 111 / 50 := by decide +kernel
  have hsecond : returns.entry 0 1 - values.entry 0 1 = 2 := by decide +kernel
  exact ⟨hreturns, hvalues, hsize, advantages, htd, hmonteCarlo, hextent,
    (hentry 0 0 (by decide) (by decide)).trans hfirst,
    (hentry 0 1 (by decide) (by decide)).trans hsecond⟩

end BellmanReturns

namespace Estimator

/-- Two slices with their values agree in a row on what comes from a step on: on its reward and its
return and on the later ones, and on the later values. -/
structure AgreeAhead (x y : Trajectory α) (v w : StepMatrix α) (row step : Nat) : Prop where
  rewards : ∀ i, step ≤ i → i < x.rewards.cols → x.rewards.entry row i = y.rewards.entry row i
  returns : ∀ i, step ≤ i → i < x.rewards.cols → x.returns.entry row i = y.returns.entry row i
  values : ∀ i, step < i → i < x.rewards.cols → v.entry row i = w.entry row i

section Agree

variable {x y : Trajectory α} {v w : StepMatrix α} {row step : Nat}
  (h : AgreeAhead x y v w row step)
include h

theorem AgreeAhead.ahead_eq {count : Nat} (hcount : step + count ≤ x.rewards.cols) :
    ahead x.rewards row step count = ahead y.rewards row step count := by
  refine List.map_congr_left fun i hi => ?_
  have hi := List.mem_range'_1.1 hi
  exact h.rewards i hi.1 (by omega)

theorem AgreeAhead.transitions_eq (hcols : y.rewards.cols = x.rewards.cols) :
    transitions x.rewards v row step = transitions y.rewards w row step := by
  rw [transitions, transitions, hcols]
  refine List.map_congr_left fun i hi => ?_
  have hi := List.mem_range'_1.1 hi
  rw [h.rewards i hi.1 (by omega), h.values (i + 1) (by omega) (by omega)]

end Agree

/-- The value and the generalized advantage make the return that is anchored on the last value. -/
theorem value_add_decayedSum (gamma lambda : α) (rewards values : StepMatrix α) {row step : Nat}
    (hstep : step < rewards.cols) :
    values.entry row step + decayedSum (gamma * lambda)
        ((List.range' step (rewards.cols - 1 - step)).map (difference gamma rewards values row)) =
      lambdaReturn gamma lambda (values.entry row (rewards.cols - 1))
        (transitions rewards values row step) := by
  have hreturn := lambdaReturn_sub_value gamma lambda rewards values row
    (values.entry row (rewards.cols - 1)) step (rewards.cols - 1 - step)
  rw [show step + (rewards.cols - 1 - step) = rewards.cols - 1 by omega, sub_self, mul_zero,
    add_zero] at hreturn
  rw [← hreturn, add_sub_cancel]
  rfl

/-- Where two slices agree from a step on, the value and the advantage of the step have one sum. -/
theorem Drops.value_add_advantage_eq {e : Estimator α} {extraSteps dropped : Nat}
    (hdrops : e.Drops extraSteps dropped) (hahead : e = Estimator.kStep → 0 < extraSteps)
    {gamma : α} {x y : Trajectory α} {v w a b : StepMatrix α} {row step : Nat}
    (hx : OneShape x.rewards x.returns v) (hy : OneShape y.rewards y.returns w)
    (hshape : y.rewards.extent = x.rewards.extent)
    (ha : e.estimate x.rewards x.returns v gamma extraSteps = .ok a)
    (hb : e.estimate y.rewards y.returns w gamma extraSteps = .ok b)
    (hrow : row < x.rewards.rows) (hstep : step < x.rewards.cols - dropped)
    (h : AgreeAhead x y v w row step) :
    v.entry row step + a.entry row step = w.entry row step + b.entry row step := by
  have hrows : y.rewards.rows = x.rewards.rows := congrArg Prod.fst hshape
  have hcols : y.rewards.cols = x.rewards.cols := congrArg Prod.snd hshape
  have hrow' : row < y.rewards.rows := hrows ▸ hrow
  have hstep' : step < y.rewards.cols - dropped := hcols ▸ hstep
  cases hdrops with
  | monteCarlo =>
      cases (monteCarlo_estimate hx gamma extraSteps).symm.trans ha
      cases (monteCarlo_estimate hy gamma extraSteps).symm.trans hb
      rw [StepMatrix.entry_grid _ hrow hstep, StepMatrix.entry_grid _ hrow' hstep', add_sub_cancel,
        add_sub_cancel, h.returns step (Nat.le_refl step) (by omega)]
  | kStep =>
      have hpos := hahead rfl
      cases (kStep_estimate hx gamma extraSteps).symm.trans ha
      cases (kStep_estimate hy gamma extraSteps).symm.trans hb
      rw [StepMatrix.entry_grid _ hrow hstep, StepMatrix.entry_grid _ hrow' hstep', add_sub_cancel,
        add_sub_cancel, h.ahead_eq (by omega), h.values (step + extraSteps) (by omega) (by omega)]
  | tdLambda lambda =>
      cases (tdLambda_estimate hx lambda gamma extraSteps).symm.trans ha
      cases (tdLambda_estimate hy lambda gamma extraSteps).symm.trans hb
      rw [StepMatrix.entry_grid _ hrow hstep, StepMatrix.entry_grid _ hrow' hstep', add_sub_cancel,
        add_sub_cancel, h.transitions_eq hcols, hcols,
        h.returns (x.rewards.cols - 1) (by omega) (by omega)]
  | gae lambda =>
      cases (gae_estimate hx lambda gamma extraSteps).symm.trans ha
      cases (gae_estimate hy lambda gamma extraSteps).symm.trans hb
      rw [StepMatrix.entry_grid _ hrow hstep, StepMatrix.entry_grid _ hrow' hstep',
        value_add_decayedSum gamma lambda x.rewards v (by omega),
        value_add_decayedSum gamma lambda y.rewards w (by omega), h.transitions_eq hcols, hcols,
        h.values (x.rewards.cols - 1) (by omega) (by omega)]

end Estimator

end ActorCritic
