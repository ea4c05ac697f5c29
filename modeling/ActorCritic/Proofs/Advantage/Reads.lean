import ActorCritic.Advantage.Estimator
import ActorCritic.Proofs.Grid

/-!
The estimators with the read as a parameter. The read of a matrix goes on into the next row where a
step is past the last of its row. A read that is refused there tells the two apart: what is
estimated with it has been estimated without a look outside of the matrix.
-/

namespace ActorCritic

namespace StepMatrix

variable {α : Type}

/-- A way to read the number at a row and a step. -/
abbrev Read (α : Type) := StepMatrix α → (row col : Nat) → Except Abort α

/-- The read that is refused past the last row and past the last step of a row. -/
def getInside : Read α := fun m row col =>
  if row < m.rows ∧ col < m.cols then m.get row col else .error .refused

/-- Inside of matrices that fit in memory the read gives their numbers. -/
def Read.Faithful [Zero α] (read : Read α) : Prop :=
  ∀ (m : StepMatrix α) (row col : Nat), m.entries.length < Count.limit →
    row < m.rows → col < m.cols → read m row col = .ok (m.entry row col)

theorem faithful_get [Zero α] : Read.Faithful (get (α := α)) :=
  fun _ _ _ hsize hrow hcol => get_eq_ok hsize hrow hcol

theorem faithful_getInside [Zero α] : Read.Faithful (getInside (α := α)) :=
  fun _ _ _ hsize hrow hcol => (if_pos ⟨hrow, hcol⟩).trans (get_eq_ok hsize hrow hcol)

end StepMatrix

namespace Estimator

variable {α : Type} [Scalar α]

/-- The returns of a row, mixed from its steps, less the value estimates of those that are kept. -/
def mixedRow {steps kept : Nat} (hkept : kept ≤ steps + 1) (gamma lambda last : α)
    (reads : StepMatrix.Row (α × α) steps) (baselines : StepMatrix.Row α kept) :
    StepMatrix.Row α kept :=
  ⟨List.zipWith (· - ·) (lambdaReturns gamma lambda last reads.1) baselines.1, by
    rw [List.length_zipWith, length_lambdaReturns, reads.2, baselines.2]
    exact Nat.min_eq_right hkept⟩

/-- The decayed sums of a row that are kept. There is no difference for its last step. -/
def decayedRow (cols extraSteps : Nat) (decay : α)
    (differences : StepMatrix.Row α (cols - 1)) : StepMatrix.Row α (cols - max extraSteps 1) :=
  takeRow (cols - max extraSteps 1) (by omega)
    ⟨decayedSums decay differences.1, (length_scanBack _ _ _).trans differences.2⟩

section Read

variable (read : StepMatrix.Read α)

def monteCarloBy : Estimator α where
  name := "monte_carlo"
  estimate _ returns values _ extraSteps :=
    let kept := returns.cols - extraSteps
    StepMatrix.tabulate returns.rows kept fun b =>
      StepMatrix.readUp (fun t => do return (← read returns b t) - (← read values b t)) 0 kept

def kStepBy : Estimator α where
  name := "td_k"
  estimate rewards _ values gamma extraSteps :=
    let kept := rewards.cols - extraSteps
    StepMatrix.tabulate rewards.rows kept fun b =>
      StepMatrix.readUp (fun t => do
        let ahead ← StepMatrix.readUp (read rewards b) t extraSteps
        let (sum, discount) := discounted gamma ahead.1
        let bootstrap := discount * (← read values b (t + extraSteps))
        return sum + bootstrap - (← read values b t)) 0 kept

def tdLambdaBy (lambda : α) : Estimator α where
  name := "td_lambda"
  estimate rewards returns values gamma extraSteps :=
    match _h : rewards.cols with
    | 0 => .ok (StepMatrix.fill rewards.rows 0 0)
    | steps + 1 =>
        let kept := steps + 1 - extraSteps
        StepMatrix.tabulate rewards.rows kept fun b => do
          let last ← read returns b steps
          let reads ← StepMatrix.readDown
            (fun t => do return (← read rewards b t, ← read values b (t + 1))) steps
          let baselines ← StepMatrix.readUp (read values b) 0 kept
          return mixedRow (Nat.sub_le _ _) gamma lambda last reads baselines

def gaeBy (lambda : α) : Estimator α where
  name := "gae"
  estimate rewards _ values gamma extraSteps :=
    let kept := rewards.cols - max extraSteps 1
    if rewards.cols < 2 then .ok (StepMatrix.fill rewards.rows kept 0)
    else
      StepMatrix.tabulate rewards.rows kept fun b => do
        let differences ← StepMatrix.readDown (fun t => do
          let reward ← read rewards b t
          let next ← read values b (t + 1)
          return reward + gamma * next - (← read values b t)) (rewards.cols - 1)
        return decayedRow rewards.cols extraSteps (gamma * lambda) differences

end Read

/-- The estimators of this library, each with the read as a parameter. -/
inductive ReadsBy : Estimator α → (StepMatrix.Read α → Estimator α) → Prop where
  | monteCarlo : ReadsBy monteCarlo monteCarloBy
  | kStep : ReadsBy kStep kStepBy
  | tdLambda (lambda : α) : ReadsBy (tdLambda lambda) (tdLambdaBy · lambda)
  | gae (lambda : α) : ReadsBy (gae lambda) (gaeBy · lambda)

/-- The estimators read with the read of matrices. -/
theorem ReadsBy.eq {e : Estimator α} {f : StepMatrix.Read α → Estimator α} (h : e.ReadsBy f) :
    f StepMatrix.get = e := by
  cases h with
  | monteCarlo => rfl
  | kStep => rfl
  | tdLambda lambda => rfl
  | gae lambda => rfl

end Estimator
end ActorCritic
