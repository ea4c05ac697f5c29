import ActorCritic.Proofs.Advantage.Differences

/-!
Looking ahead for a fixed number of steps. What is gained are the discounted differences of those
steps. Generalized advantage estimation without decay gains the same on a slice that is cut right
after them, and with full decay it looks ahead for a single step.
-/

namespace ActorCritic

theorem StepMatrix.entry_truncate {α : Type} [Zero α] (m : StepMatrix α) {length row step : Nat}
    (hlength : length ≤ m.cols) (hstep : step < length) :
    (m.truncate length).entry row step = m.entry row step := by
  rw [entry, (m.isPrefix_truncate hlength).entry_eq row step hstep]
  rfl

namespace Estimator

open Finset (range sum_range_succ)

theorem OneShape.truncate {α : Type} [Scalar α] {rewards returns values : StepMatrix α}
    (h : OneShape rewards returns values) (length : Nat) :
    OneShape (rewards.truncate length) (returns.truncate length) (values.truncate length) := by
  have hextent {m : StepMatrix α} (hm : m.extent = rewards.extent) :
      (m.truncate length).extent = (rewards.truncate length).extent := by
    have hrows : m.rows = rewards.rows := congrArg Prod.fst hm
    have hcols : m.cols = rewards.cols := congrArg Prod.snd hm
    exact Prod.ext hrows (congrArg (min length) hcols)
  refine ⟨hextent h.returns, hextent h.values, Nat.lt_of_le_of_lt ?_ h.size⟩
  rw [(rewards.truncate length).size_eq, rewards.size_eq]
  exact Nat.mul_le_mul_left rewards.rows (Nat.min_le_right length rewards.cols)

variable {α : Type} [ExactScalar α] {rewards returns values : StepMatrix α}

/-- A step keeps its difference if the cut leaves it a next one. -/
theorem difference_truncate (gamma : α) (hextent : values.extent = rewards.extent)
    {length row step : Nat} (hlength : length ≤ rewards.cols) (hstep : step + 1 < length) :
    difference gamma (rewards.truncate length) (values.truncate length) row step =
      difference gamma rewards values row step := by
  have hcols : values.cols = rewards.cols := congrArg Prod.snd hextent
  rw [difference, rewards.entry_truncate hlength (by omega),
    values.entry_truncate (by omega) hstep, values.entry_truncate (by omega) (by omega)]
  rfl

section Estimates

variable (h : OneShape rewards returns values)
include h

theorem kStep_estimate_eq_sums (gamma : α) (count : Nat) :
    kStep.estimate rewards returns values gamma count =
      .ok (.grid rewards.rows (rewards.cols - count) fun row step =>
        ∑ i ∈ range count, gamma ^ i * difference gamma rewards values row (step + i)) := by
  rw [kStep_estimate h]
  exact congrArg Except.ok (StepMatrix.grid_congr fun row step _ _ =>
    bootstrap_sub_value gamma rewards values row step count)

/-- The estimate without decay of the slice that is cut after the steps looked ahead to. -/
theorem undecayed_estimate_truncate (gamma : α) {row step count : Nat} (hrow : row < rewards.rows)
    (hcount : 0 < count) (hstep : step + count < rewards.cols) :
    let cut (m : StepMatrix α) := m.truncate (step + count + 1)
    ∃ undecayed,
      (gae 1).estimate (cut rewards) (cut returns) (cut values) gamma 0 = .ok undecayed ∧
      undecayed.extent = (rewards.rows, step + count) ∧
      undecayed.entry row step =
        ∑ i ∈ range count, gamma ^ i * difference gamma rewards values row (step + i) := by
  intro cut
  have hcols : (cut rewards).cols = step + count + 1 := Nat.min_eq_left hstep
  have hkept : (cut rewards).cols - max 0 1 = step + count := by omega
  have hahead : (cut rewards).cols - 1 - step = count := by omega
  refine ⟨_, gae_estimate (h.truncate (step + count + 1)) 1 gamma 0, Prod.ext rfl hkept, ?_⟩
  have hkeeps : step < (cut rewards).cols - max 0 1 := by omega
  refine (StepMatrix.entry_grid _ hrow hkeeps).trans ?_
  rw [hahead, decayedSum_eq_sum, mul_one]
  refine Finset.sum_congr rfl fun i hi => ?_
  have hi : i < count := Finset.mem_range.1 hi
  rw [difference_truncate gamma h.values hstep (by omega)]

/-- With full decay only the difference of the step itself is left. -/
theorem gae_zero_estimate (gamma : α) :
    (gae 0).estimate rewards returns values gamma 1 =
      kStep.estimate rewards returns values gamma 1 := by
  rw [gae_estimate h, kStep_estimate_eq_sums h]
  refine congrArg Except.ok (StepMatrix.grid_congr fun row step _ hstep => ?_)
  obtain ⟨later, hlater⟩ : ∃ later, rewards.cols - 1 - step = later + 1 :=
    ⟨rewards.cols - 1 - step - 1, by omega⟩
  rw [hlater, List.range'_succ, List.map_cons, decayedSum, List.foldr_cons, mul_zero, zero_mul,
    add_zero, Finset.sum_range_one, pow_zero, one_mul, Nat.add_zero]

end Estimates

/-- Looking ahead for some steps gains their discounted differences, which are nothing for no
steps. For one step or more this is the estimate without decay on the slice that is cut after the
steps, and for one step it is the fully decayed estimate of the whole slice. -/
theorem kStep_telescopes (hextent : values.extent = rewards.extent)
    (hsize : rewards.entries.length < Count.limit) (returns : StepMatrix α) (gamma : α)
    (count : Nat) :
    ∃ ahead, kStep.estimate rewards returns values gamma count = .ok ahead ∧
      ahead.extent = (rewards.rows, rewards.cols - count) ∧
      (∀ row step, row < rewards.rows → step < rewards.cols - count →
        ahead.entry row step =
          ∑ i ∈ range count, gamma ^ i * difference gamma rewards values row (step + i)) ∧
      (0 < count → ∀ row step, row < rewards.rows → step < rewards.cols - count →
        let cut (m : StepMatrix α) := m.truncate (step + count + 1)
        ∃ undecayed,
          (gae 1).estimate (cut rewards) (cut returns) (cut values) gamma 0 = .ok undecayed ∧
          undecayed.extent = (rewards.rows, step + count) ∧
          undecayed.entry row step = ahead.entry row step) ∧
      (count = 1 → (gae 0).estimate rewards returns values gamma 1 = .ok ahead) ∧
      (count = 0 → ahead = .fill rewards.rows rewards.cols 0) := by
  -- Neither estimator reads the returns, so they may as well be the rewards.
  have h : OneShape rewards rewards values := ⟨rfl, hextent, hsize⟩
  let sums (row step : Nat) : α :=
    ∑ i ∈ range count, gamma ^ i * difference gamma rewards values row (step + i)
  refine ⟨.grid rewards.rows (rewards.cols - count) sums, kStep_estimate_eq_sums h gamma count,
    rfl, fun row step hrow hstep => StepMatrix.entry_grid sums hrow hstep, ?_, ?_, ?_⟩
  · intro hcount row step hrow hstep cut
    obtain ⟨undecayed, hundecayed, hcut, hentry⟩ :=
      undecayed_estimate_truncate h gamma hrow hcount (by omega : step + count < rewards.cols)
    exact ⟨undecayed, hundecayed, hcut, hentry.trans (StepMatrix.entry_grid sums hrow hstep).symm⟩
  · rintro rfl
    exact (gae_zero_estimate h gamma).trans (kStep_estimate_eq_sums h gamma 1)
  · rintro rfl
    rw [StepMatrix.fill_eq_grid]
    exact StepMatrix.grid_congr fun row step _ _ => Finset.sum_range_zero _

/-- Looking ahead for two of four steps at a discount of one half. For the first step the slice is
cut before the last one, and the second step looks ahead to the end. -/
theorem kStep_telescopes_two_ahead :
    let rewards : StepMatrix ℚ := ⟨1, 4, [1, 0, 2, 4], rfl⟩
    let values : StepMatrix ℚ := ⟨1, 4, [3, 2, 0, 8], rfl⟩
    values.extent = rewards.extent ∧ rewards.entries.length < Count.limit ∧ ∃ ahead undecayed,
      kStep.estimate rewards rewards values (1 / 2) 2 = .ok ahead ∧ ahead.extent = (1, 2) ∧
      ahead.entry 0 0 = -2 ∧ ahead.entry 0 1 = 1 ∧
      (gae 1).estimate (rewards.truncate 3) (rewards.truncate 3) (values.truncate 3) (1 / 2) 0 =
        .ok undecayed ∧
      undecayed.entry 0 0 = -2 := by
  intro rewards values
  have hshape : values.extent = rewards.extent := rfl
  have hsize : rewards.entries.length < Count.limit := by decide
  obtain ⟨ahead, hahead, hextent, hsums, hcut, -, -⟩ :=
    kStep_telescopes hshape hsize rewards (1 / 2) 2
  obtain ⟨undecayed, hundecayed, -, hentry⟩ := hcut (by decide) 0 0 (by decide) (by decide)
  have hfirst : ahead.entry 0 0 = -2 := by
    rw [hsums 0 0 (by decide) (by decide)]
    norm_num [sum_range_succ, difference, StepMatrix.entry, StepMatrix.entryAt?, rewards, values]
  have hsecond : ahead.entry 0 1 = 1 := by
    rw [hsums 0 1 (by decide) (by decide)]
    norm_num [sum_range_succ, difference, StepMatrix.entry, StepMatrix.entryAt?, rewards, values]
  exact ⟨hshape, hsize, ahead, undecayed, hahead, hextent, hfirst, hsecond, hundecayed,
    hentry.trans hfirst⟩

end Estimator
end ActorCritic
