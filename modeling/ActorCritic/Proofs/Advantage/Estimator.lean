import ActorCritic.Proofs.Advantage.Reads

/-!
What the estimators make of rewards, returns and values of one shape: each gives a matrix with a
number for every step that is kept, which is computed from the steps of its row from there on. All
reads stay inside the matrices, so no estimate is aborted, whatever a read outside would give. The
numbers may be of any kind, rounded or exact.
-/

namespace ActorCritic
namespace Estimator

variable {α : Type} [Scalar α]

/-- The result that is kept at an element is the fold over it and what follows. -/
theorem scanBack_eq {β γ : Type} (f : β → γ → γ) (last : γ) (xs : List β) :
    scanBack f last xs =
      (xs.foldr f last, (List.range xs.length).map fun i => (xs.drop i).foldr f last) := by
  induction xs with
  | nil => rfl
  | cons x xs ih =>
      simp only [scanBack, ih]
      rw [List.length_cons, List.range_succ_eq_map, List.map_cons, List.map_map]
      rfl

/-- The return of a step, mixed from the steps from there on. -/
def lambdaReturn (gamma lambda last : α) (steps : List (α × α)) : α :=
  steps.foldr (fun (reward, next) later =>
    reward + gamma * ((1 - lambda) * next + lambda * later)) last

theorem lambdaReturns_eq (gamma lambda last : α) (steps : List (α × α)) :
    lambdaReturns gamma lambda last steps =
      (List.range (steps.length + 1)).map fun i =>
        lambdaReturn gamma lambda last (steps.drop i) := by
  rw [lambdaReturns, scanBack_eq, List.range_succ, List.map_append, List.map_singleton,
    List.drop_length]
  rfl

/-- The decayed sum of the differences from a step on. -/
def decayedSum (decay : α) (differences : List α) : α :=
  differences.foldr (fun difference running => difference + decay * running) 0

theorem decayedSums_eq (decay : α) (differences : List α) :
    decayedSums decay differences =
      (List.range differences.length).map fun i => decayedSum decay (differences.drop i) := by
  rw [decayedSums, scanBack_eq]
  rfl

theorem drop_map_range {β : Type} (f : Nat → β) (n i : Nat) :
    ((List.range n).map f).drop i = (List.range' i (n - i)).map f := by
  rw [← List.map_drop, List.range_eq_range', List.drop_range']
  simp

theorem zipWith_map_range {β γ δ : Type} (h : β → γ → δ) (f : Nat → β) (g : Nat → γ) {n m : Nat}
    (hle : m ≤ n) :
    List.zipWith h ((List.range n).map f) ((List.range m).map g) =
      (List.range m).map fun i => h (f i) (g i) := by
  refine List.ext_getElem (by simpa using Nat.min_eq_right hle) fun i _ _ => ?_
  simp

/-- The return of a step that is kept is mixed from the steps from there on. -/
theorem mixedRow_map_range {steps kept : Nat} (hkept : kept ≤ steps + 1) (gamma lambda last : α)
    (f : Nat → α × α) (g : Nat → α) :
    (mixedRow hkept gamma lambda last ⟨(List.range steps).map f, by simp⟩
        ⟨(List.range kept).map g, by simp⟩).1 =
      (List.range kept).map fun i =>
        lambdaReturn gamma lambda last ((List.range' i (steps - i)).map f) - g i := by
  simp only [mixedRow, lambdaReturns_eq, List.length_map, List.length_range,
    zipWith_map_range _ _ _ hkept, drop_map_range]

/-- The decayed sum of a step that is kept is over the differences from there on. -/
theorem decayedRow_map_range (cols extraSteps : Nat) (decay : α) (f : Nat → α) :
    (decayedRow cols extraSteps decay ⟨(List.range (cols - 1)).map f, by simp⟩).1 =
      (List.range (cols - max extraSteps 1)).map fun i =>
        decayedSum decay ((List.range' i (cols - 1 - i)).map f) := by
  simp only [decayedRow, takeRow, decayedSums_eq, List.length_map, List.length_range,
    drop_map_range, ← List.map_take, List.take_range]
  rw [Nat.min_eq_left (by omega)]

/-- The rewards of the next `count` steps. -/
def ahead (rewards : StepMatrix α) (row step count : Nat) : List α :=
  (List.range' step count).map (rewards.entry row)

/-- What the lambda return looks at from a step on: the rewards of the steps before the last, each
with the value of the step that follows. -/
def transitions (rewards values : StepMatrix α) (row step : Nat) : List (α × α) :=
  (List.range' step (rewards.cols - 1 - step)).map fun i =>
    (rewards.entry row i, values.entry row (i + 1))

/-- The reward of a step and the discounted value of the next, less the value of the step. -/
def difference (gamma : α) (rewards values : StepMatrix α) (row step : Nat) : α :=
  rewards.entry row step + gamma * values.entry row (step + 1) - values.entry row step

/-- Rewards, returns and values of one shape, and few enough to fit in memory. -/
structure OneShape (rewards returns values : StepMatrix α) : Prop where
  returns : returns.extent = rewards.extent
  values : values.extent = rewards.extent
  size : rewards.entries.length < Count.limit

section OneShape

variable {rewards returns values : StepMatrix α} (h : OneShape rewards returns values)
include h

theorem OneShape.read_eq_ok {read : StepMatrix.Read α} (hread : read.Faithful) {m : StepMatrix α}
    (hm : m.extent = rewards.extent) {row step : Nat} (hrow : row < rewards.rows)
    (hstep : step < rewards.cols) : read m row step = .ok (m.entry row step) := by
  have hrows : m.rows = rewards.rows := congrArg Prod.fst hm
  have hcols : m.cols = rewards.cols := congrArg Prod.snd hm
  have hsize : m.entries.length < Count.limit := by
    rw [m.size_eq, hrows, hcols, ← rewards.size_eq]
    exact h.size
  exact hread m row step hsize (by omega) (by omega)

section Read

variable {read : StepMatrix.Read α} (hread : read.Faithful)
include hread

theorem monteCarloBy_estimate (gamma : α) (extraSteps : Nat) :
    (monteCarloBy read).estimate rewards returns values gamma extraSteps =
      .ok (.grid rewards.rows (rewards.cols - extraSteps) fun row step =>
        returns.entry row step - values.entry row step) := by
  have hrows : returns.rows = rewards.rows := congrArg Prod.fst h.returns
  have hcols : returns.cols = rewards.cols := congrArg Prod.snd h.returns
  rw [← hrows, ← hcols]
  refine StepMatrix.tabulate_eq_ok fun row hrow => ?_
  have hread : ∀ step, 0 ≤ step → step < 0 + (returns.cols - extraSteps) →
      (do return (← read returns row step) - (← read values row step) : Except Abort α) =
        .ok (returns.entry row step - values.entry row step) := by
    intro step _ hstep
    rw [h.read_eq_ok hread h.returns (by omega) (by omega),
      h.read_eq_ok hread h.values (by omega) (by omega)]
    rfl
  exact ⟨_, StepMatrix.readUp_eq_ok hread, by rw [List.range_eq_range']⟩

theorem kStepBy_estimate (gamma : α) (extraSteps : Nat) :
    (kStepBy read).estimate rewards returns values gamma extraSteps =
      .ok (.grid rewards.rows (rewards.cols - extraSteps) fun row step =>
        let (sum, discount) := discounted gamma (ahead rewards row step extraSteps)
        sum + discount * values.entry row (step + extraSteps) - values.entry row step) := by
  refine StepMatrix.tabulate_eq_ok fun row hrow => ?_
  refine ⟨_, StepMatrix.readUp_eq_ok fun step _ hstep => ?_, by rw [List.range_eq_range']⟩
  have hahead : StepMatrix.readUp (read rewards row) step extraSteps =
      .ok ⟨ahead rewards row step extraSteps, by simp [ahead]⟩ :=
    StepMatrix.readUp_eq_ok fun i _ hi => h.read_eq_ok hread rfl hrow (by omega)
  rw [hahead, Attempt.ok_bind]
  simp only [h.read_eq_ok hread h.values hrow (show step + extraSteps < rewards.cols by omega),
    h.read_eq_ok hread h.values hrow (show step < rewards.cols by omega), Attempt.ok_bind]
  rfl

theorem tdLambdaBy_estimate (lambda gamma : α) (extraSteps : Nat) :
    (tdLambdaBy read lambda).estimate rewards returns values gamma extraSteps =
      .ok (.grid rewards.rows (rewards.cols - extraSteps) fun row step =>
        lambdaReturn gamma lambda (returns.entry row (rewards.cols - 1))
          (transitions rewards values row step) - values.entry row step) := by
  simp only [tdLambdaBy]
  split
  · next hcols =>
      rw [hcols, StepMatrix.fill_eq_grid, Nat.zero_sub]
      exact congrArg Except.ok (StepMatrix.grid_congr fun _ _ _ hstep => absurd hstep (by omega))
  · next steps hcols =>
      rw [hcols]
      refine StepMatrix.tabulate_eq_ok fun row hrow => ?_
      have hreads : StepMatrix.readDown
          (fun t => do return (← read rewards row t, ← read values row (t + 1))) steps =
          .ok ⟨(List.range steps).map fun i => (rewards.entry row i, values.entry row (i + 1)),
            by simp⟩ := by
        refine StepMatrix.readDown_eq_ok fun i hi => ?_
        rw [h.read_eq_ok hread rfl hrow (by omega), h.read_eq_ok hread h.values hrow (by omega)]
        rfl
      have hbaselines : StepMatrix.readUp (read values row) 0 (steps + 1 - extraSteps) =
          .ok ⟨(List.range' 0 (steps + 1 - extraSteps)).map (values.entry row), by simp⟩ :=
        StepMatrix.readUp_eq_ok fun i _ hi => h.read_eq_ok hread h.values hrow (by omega)
      simp only [← List.range_eq_range'] at hbaselines
      rw [h.read_eq_ok hread h.returns hrow (by omega), Attempt.ok_bind, hreads, Attempt.ok_bind,
        hbaselines, Attempt.ok_bind]
      refine ⟨_, rfl, (mixedRow_map_range _ gamma lambda _ _ _).trans ?_⟩
      simp only [transitions, hcols]
      rfl

theorem gaeBy_estimate (lambda gamma : α) (extraSteps : Nat) :
    (gaeBy read lambda).estimate rewards returns values gamma extraSteps =
      .ok (.grid rewards.rows (rewards.cols - max extraSteps 1) fun row step =>
        decayedSum (gamma * lambda) ((List.range' step (rewards.cols - 1 - step)).map
          (difference gamma rewards values row))) := by
  simp only [gaeBy]
  split
  · next hfew =>
      rw [StepMatrix.fill_eq_grid]
      exact congrArg Except.ok (StepMatrix.grid_congr fun _ _ _ hstep => absurd hstep (by omega))
  · next hmany =>
      refine StepMatrix.tabulate_eq_ok fun row hrow => ?_
      have hreads : StepMatrix.readDown
          (fun t => do
            let reward ← read rewards row t
            let next ← read values row (t + 1)
            return reward + gamma * next - (← read values row t)) (rewards.cols - 1) =
          .ok ⟨(List.range (rewards.cols - 1)).map (difference gamma rewards values row),
            by simp⟩ := by
        refine StepMatrix.readDown_eq_ok fun i hi => ?_
        rw [h.read_eq_ok hread rfl hrow (by omega), h.read_eq_ok hread h.values hrow (by omega),
          h.read_eq_ok hread h.values hrow (by omega)]
        rfl
      rw [hreads, Attempt.ok_bind]
      exact ⟨_, rfl, decayedRow_map_range rewards.cols extraSteps (gamma * lambda) _⟩

end Read

theorem monteCarlo_estimate (gamma : α) (extraSteps : Nat) :
    monteCarlo.estimate rewards returns values gamma extraSteps =
      .ok (.grid rewards.rows (rewards.cols - extraSteps) fun row step =>
        returns.entry row step - values.entry row step) :=
  monteCarloBy_estimate h StepMatrix.faithful_get gamma extraSteps

theorem kStep_estimate (gamma : α) (extraSteps : Nat) :
    kStep.estimate rewards returns values gamma extraSteps =
      .ok (.grid rewards.rows (rewards.cols - extraSteps) fun row step =>
        let (sum, discount) := discounted gamma (ahead rewards row step extraSteps)
        sum + discount * values.entry row (step + extraSteps) - values.entry row step) :=
  kStepBy_estimate h StepMatrix.faithful_get gamma extraSteps

theorem tdLambda_estimate (lambda gamma : α) (extraSteps : Nat) :
    (tdLambda lambda).estimate rewards returns values gamma extraSteps =
      .ok (.grid rewards.rows (rewards.cols - extraSteps) fun row step =>
        lambdaReturn gamma lambda (returns.entry row (rewards.cols - 1))
          (transitions rewards values row step) - values.entry row step) :=
  tdLambdaBy_estimate h StepMatrix.faithful_get lambda gamma extraSteps

theorem gae_estimate (lambda gamma : α) (extraSteps : Nat) :
    (gae lambda).estimate rewards returns values gamma extraSteps =
      .ok (.grid rewards.rows (rewards.cols - max extraSteps 1) fun row step =>
        decayedSum (gamma * lambda) ((List.range' step (rewards.cols - 1 - step)).map
          (difference gamma rewards values row))) :=
  gaeBy_estimate h StepMatrix.faithful_get lambda gamma extraSteps

end OneShape

end Estimator
end ActorCritic
