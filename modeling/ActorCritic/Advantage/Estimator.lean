import ActorCritic.StepMatrix

/-!
Advantage estimators: Monte Carlo, k-step temporal differences, temporal differences with
exponential weights, and generalized advantage estimation. Each estimates one advantage per row
and kept column from rewards, returns and value estimates; the extra steps at the end of a slice
are only looked ahead to.

The kernels work on the numbers of one row. The estimators read those numbers from matrices
that may differ in extent, so they also fix the order of the reads.
-/

namespace ActorCritic

structure Estimator (α : Type) where
  name : String
  estimate : (rewards returns values : StepMatrix α) → (gamma : α) → (extraSteps : Nat) →
    Except Abort (StepMatrix α)

namespace Estimator

variable {α : Type} [Scalar α]

/-- Runs `f` over a list from its end and keeps every intermediate result. -/
def scanBack {β γ : Type} (f : β → γ → γ) (last : γ) : List β → γ × List γ
  | [] => (last, [])
  | x :: xs =>
      let (next, rest) := scanBack f last xs
      (f x next, f x next :: rest)

theorem length_scanBack {β γ : Type} (f : β → γ → γ) (last : γ) (xs : List β) :
    (scanBack f last xs).2.length = xs.length := by
  induction xs with
  | nil => rfl
  | cons x xs ih => simp [scanBack, ih]

/-- The first of at least `keep` numbers. -/
def takeRow {n : Nat} (keep : Nat) (h : keep ≤ n) (xs : StepMatrix.Row α n) :
    StepMatrix.Row α keep :=
  ⟨xs.1.take keep, by simp [xs.2, h]⟩

def monteCarlo : Estimator α where
  name := "monte_carlo"
  estimate _ returns values _ extraSteps :=
    let kept := returns.cols - extraSteps
    StepMatrix.tabulate returns.rows kept fun b =>
      StepMatrix.readUp (fun t => do return (← returns.get b t) - (← values.get b t)) 0 kept

/-- The discounted sum of the rewards, and the discount of the step after the last. -/
def discounted (gamma : α) (rewards : List α) : α × α :=
  rewards.foldl (fun (sum, discount) r => (sum + discount * r, discount * gamma)) (0, 1)

/-- The rewards of the extra steps and the discounted value estimate after them, less the value
estimate. -/
def kStep : Estimator α where
  name := "td_k"
  estimate rewards _ values gamma extraSteps :=
    let kept := rewards.cols - extraSteps
    StepMatrix.tabulate rewards.rows kept fun b =>
      StepMatrix.readUp (fun t => do
        let ahead ← StepMatrix.readUp (rewards.get b) t extraSteps
        let (sum, discount) := discounted gamma ahead.1
        let bootstrap := discount * (← values.get b (t + extraSteps))
        return sum + bootstrap - (← values.get b t)) 0 kept

def defaultLambda : α := Scalar.ratio 95 100

/-- The returns of a row mixed from every number of steps: at the end `last`, and before it the
reward and the discounted mix of the next value estimate with the next return. A step is its
reward and the next value estimate. -/
def lambdaReturns (gamma lambda last : α) (steps : List (α × α)) : List α :=
  (scanBack (fun (reward, next) later =>
    reward + gamma * ((1 - lambda) * next + lambda * later)) last steps).2 ++ [last]

theorem length_lambdaReturns (gamma lambda last : α) (steps : List (α × α)) :
    (lambdaReturns gamma lambda last steps).length = steps.length + 1 := by
  simp [lambdaReturns, length_scanBack]

/-- The mixed return of a step, less the value estimate. Memory for the returns of one row is taken
as given; only a matrix without rows can have `StepMatrix.entryLimit` columns or more, for which it
could not be reserved. -/
def tdLambda (lambda : α) : Estimator α where
  name := "td_lambda"
  estimate rewards returns values gamma extraSteps :=
    match h : rewards.cols with
    | 0 => .ok (StepMatrix.fill rewards.rows 0 0)
    | steps + 1 =>
        let kept := steps + 1 - extraSteps
        StepMatrix.tabulate rewards.rows kept fun b => do
          let last ← returns.get b steps
          let reads ← StepMatrix.readDown
            (fun t => do return (← rewards.get b t, ← values.get b (t + 1))) steps
          let baselines ← StepMatrix.readUp (values.get b) 0 kept
          let targets := lambdaReturns gamma lambda last reads.1
          return ⟨List.zipWith (· - ·) targets baselines.1, by
            simp [targets, length_lambdaReturns, reads.2, baselines.2, kept]⟩

/-- The decayed sum of the temporal differences from every step on. -/
def decayedSums (decay : α) (differences : List α) : List α :=
  (scanBack (fun difference running => difference + decay * running) 0 differences).2

/-- The decayed sum of the temporal differences. The last column has no difference. -/
def gae (lambda : α) : Estimator α where
  name := "gae"
  estimate rewards _ values gamma extraSteps :=
    let kept := rewards.cols - max extraSteps 1
    if rewards.cols < 2 then .ok (StepMatrix.fill rewards.rows kept 0)
    else
      StepMatrix.tabulate rewards.rows kept fun b => do
        let differences ← StepMatrix.readDown (fun t => do
          let reward ← rewards.get b t
          let next ← values.get b (t + 1)
          return reward + gamma * next - (← values.get b t)) (rewards.cols - 1)
        return takeRow kept (show kept ≤ rewards.cols - 1 by omega)
          ⟨decayedSums (gamma * lambda) differences.1, by
            simp [decayedSums, length_scanBack, differences.2]⟩

end Estimator
end ActorCritic
