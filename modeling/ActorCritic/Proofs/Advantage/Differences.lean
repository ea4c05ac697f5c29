import Mathlib.Algebra.BigOperators.Intervals
import Mathlib.Tactic.Ring
import ActorCritic.Proofs.Exact
import ActorCritic.Proofs.Advantage.Estimator

/-!
The estimates of exact numbers as sums of temporal differences. Looking ahead for some steps adds
their discounted differences, and mixing every number of steps adds the decayed differences of all
steps that follow. What the mix is anchored on at the last step remains, with the decay of the
steps before it; generalized advantage estimation leaves it out.
-/

namespace ActorCritic
namespace Estimator

open Finset (range sum_range_succ sum_range_succ' mul_sum)

variable {α : Type} [ExactScalar α]

theorem decayedSum_eq_sum (decay : α) (f : Nat → α) (start count : Nat) :
    decayedSum decay ((List.range' start count).map f) =
      ∑ i ∈ range count, decay ^ i * f (start + i) := by
  induction count generalizing start with
  | zero => rfl
  | succ count ih =>
      have hrest : decayedSum decay ((List.range' (start + 1) count).map f) =
          ∑ i ∈ range count, decay ^ i * f (start + (i + 1)) := by
        rw [ih]
        exact Finset.sum_congr rfl fun i _ => by rw [Nat.add_right_comm, Nat.add_assoc]
      calc decayedSum decay ((List.range' start (count + 1)).map f)
          = f start + decay * decayedSum decay ((List.range' (start + 1) count).map f) := rfl
        _ = ∑ i ∈ range (count + 1), decay ^ i * f (start + i) := by
          rw [hrest, sum_range_succ', mul_sum, add_comm, pow_zero, one_mul, Nat.add_zero]
          simp only [pow_succ', mul_assoc]

theorem discounted_eq_sum (gamma : α) (f : Nat → α) (start count : Nat) :
    discounted gamma ((List.range' start count).map f) =
      (∑ i ∈ range count, gamma ^ i * f (start + i), gamma ^ count) := by
  induction count with
  | zero => exact Prod.ext rfl (pow_zero gamma).symm
  | succ count ih =>
      rw [discounted] at ih ⊢
      rw [List.range'_1_concat, List.map_append, List.foldl_append, ih, sum_range_succ, pow_succ]
      rfl

variable (gamma lambda : α) (rewards values : StepMatrix α) (row : Nat)

/-- The return of some steps, bootstrapped from the value after them, exceeds the value by the
discounted differences of the steps. -/
theorem bootstrap_sub_value (step count : Nat) :
    let (sum, discount) := discounted gamma (ahead rewards row step count)
    sum + discount * values.entry row (step + count) - values.entry row step =
      ∑ i ∈ range count, gamma ^ i * difference gamma rewards values row (step + i) := by
  rw [ahead, discounted_eq_sum]
  induction count with
  | zero => simp
  | succ count ih =>
      rw [sum_range_succ, sum_range_succ, ← ih, difference, Nat.add_assoc]
      ring

/-- The lambda return exceeds the value by the decayed differences and the decayed residual of what
it is anchored on. -/
theorem lambdaReturn_sub_value (last : α) (step count : Nat) :
    lambdaReturn gamma lambda last ((List.range' step count).map fun i =>
        (rewards.entry row i, values.entry row (i + 1))) - values.entry row step =
      decayedSum (gamma * lambda) ((List.range' step count).map
          (difference gamma rewards values row)) +
        (gamma * lambda) ^ count * (last - values.entry row (step + count)) := by
  induction count generalizing step with
  | zero => simp [lambdaReturn, decayedSum]
  | succ count ih =>
      have hnext := ih (step + 1)
      rw [Nat.add_right_comm, Nat.add_assoc step count 1] at hnext
      simp only [List.range'_succ, List.map_cons, lambdaReturn, decayedSum, List.foldr_cons]
        at hnext ⊢
      rw [sub_eq_iff_eq_add] at hnext
      rw [hnext, difference]
      ring

variable {rewards returns values}

/-- Both estimators with exponential weights sum the decayed differences of all steps that follow,
and the one that is anchored on the return of the last step adds its decayed residual. -/
theorem tdLambda_adds_residual_to_gae (h : OneShape rewards returns values) (extraSteps : Nat) :
    ∃ decayed mixed,
      (gae lambda).estimate rewards returns values gamma extraSteps = .ok decayed ∧
      (tdLambda lambda).estimate rewards returns values gamma extraSteps = .ok mixed ∧
      decayed.extent = (rewards.rows, rewards.cols - max extraSteps 1) ∧
      mixed.extent = (rewards.rows, rewards.cols - extraSteps) ∧
      ∀ row step, row < rewards.rows → step < rewards.cols - max extraSteps 1 →
        decayed.entry row step = ∑ i ∈ range (rewards.cols - 1 - step),
          (gamma * lambda) ^ i * difference gamma rewards values row (step + i) ∧
        mixed.entry row step = decayed.entry row step +
          (gamma * lambda) ^ (rewards.cols - 1 - step) *
            (returns.entry row (rewards.cols - 1) - values.entry row (rewards.cols - 1)) := by
  refine ⟨_, _, gae_estimate h lambda gamma extraSteps, tdLambda_estimate h lambda gamma extraSteps,
    rfl, rfl, fun row step hrow hstep => ?_⟩
  have hlast : step + (rewards.cols - 1 - step) = rewards.cols - 1 := by omega
  rw [StepMatrix.entry_grid _ hrow hstep, StepMatrix.entry_grid _ hrow (by omega), transitions,
    lambdaReturn_sub_value, hlast]
  exact ⟨decayedSum_eq_sum _ _ _ _, rfl⟩

/-- With a discount of one half and all weight on the return that ends the row, a quarter of the
residual is left at the first of three steps and half of it at the second. -/
theorem tdLambda_adds_residual_to_gae_three_steps :
    let rewards : StepMatrix ℝ := ⟨2, 3, [1, 0, 2, 4, 4, 4], rfl⟩
    let returns : StepMatrix ℝ := ⟨2, 3, [2, 2, 4, 8, 8, 8], rfl⟩
    let values : StepMatrix ℝ := ⟨2, 3, [3, 2, 0, 6, 2, 4], rfl⟩
    OneShape rewards returns values ∧ ∃ decayed mixed,
      (gae 1).estimate rewards returns values (1 / 2) 0 = .ok decayed ∧
      (tdLambda 1).estimate rewards returns values (1 / 2) 0 = .ok mixed ∧
      decayed.entry 0 0 = -2 ∧ mixed.entry 0 0 = -1 ∧
      decayed.entry 1 1 = 4 ∧ mixed.entry 1 1 = 6 := by
  intro rewards returns values
  have h : OneShape rewards returns values := ⟨rfl, rfl, by decide⟩
  obtain ⟨decayed, mixed, hdecayed, hmixed, -, -, hentry⟩ :=
    tdLambda_adds_residual_to_gae (1 / 2) 1 h 0
  obtain ⟨hfirst, hfirstMixed⟩ := hentry 0 0 (by decide) (by decide)
  obtain ⟨hlater, hlaterMixed⟩ := hentry 1 1 (by decide) (by decide)
  have hfirst : decayed.entry 0 0 = -2 := by
    rw [hfirst]
    norm_num [sum_range_succ, difference, StepMatrix.entry, StepMatrix.entryAt?, rewards, values]
  have hlater : decayed.entry 1 1 = 4 := by
    rw [hlater]
    norm_num [sum_range_succ, difference, StepMatrix.entry, StepMatrix.entryAt?, rewards, values]
  refine ⟨h, decayed, mixed, hdecayed, hmixed, hfirst, ?_, hlater, ?_⟩
  · rw [hfirstMixed, hfirst]
    norm_num [StepMatrix.entry, StepMatrix.entryAt?, rewards, returns, values]
  · rw [hlaterMixed, hlater]
    norm_num [StepMatrix.entry, StepMatrix.entryAt?, rewards, returns, values]

end Estimator
end ActorCritic
