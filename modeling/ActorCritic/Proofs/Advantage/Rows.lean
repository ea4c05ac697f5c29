import ActorCritic.Proofs.Advantage.Bellman

/-!
Estimates row by row. What an estimator makes of a row is a formula of that row alone, the same for
every row and for every way of reading that is right inside of the matrices. So the estimate of
some rows above others is the one estimate above the other, to the last bit if the numbers are
rounded.
-/

namespace ActorCritic

namespace StepMatrix

variable {α : Type}

/-- The rows of one matrix above those of another with as many steps. -/
def stack (upper lower : StepMatrix α) (h : lower.cols = upper.cols) : StepMatrix α :=
  ⟨upper.rows + lower.rows, upper.cols, upper.entries ++ lower.entries, by
    rw [List.length_append, upper.size_eq, lower.size_eq, h, Nat.add_mul]⟩

section Stack

variable {upper lower : StepMatrix α} (h : lower.cols = upper.cols)
include h

theorem entryAt?_stack_upper {row : Nat} (hrow : row < upper.rows) (step : Nat) :
    (upper.stack lower h).entryAt? row step = upper.entryAt? row step := by
  by_cases hstep : step < upper.cols
  · have hposition : row * upper.cols + step < upper.entries.length := by
      rw [upper.size_eq]
      exact position_lt hrow hstep
    have hstack : row < upper.rows + lower.rows := Nat.lt_add_right lower.rows hrow
    simp only [entryAt?, stack, hrow, hstack, hstep, and_self, if_true]
    exact List.getElem?_append_left hposition
  · simp only [entryAt?, stack, hstep, and_false, if_false]

theorem entryAt?_stack_lower (row step : Nat) :
    (upper.stack lower h).entryAt? (upper.rows + row) step = lower.entryAt? row step := by
  simp only [entryAt?, stack, h, Nat.add_lt_add_iff_left]
  split
  · rw [Nat.add_mul, ← upper.size_eq, Nat.add_assoc,
      List.getElem?_append_right (Nat.le_add_right _ _), Nat.add_sub_cancel_left]
  · rfl

variable [Zero α]

theorem entry_stack_upper {row : Nat} (hrow : row < upper.rows) :
    (upper.stack lower h).entry row = upper.entry row :=
  funext fun step => congrArg (Option.getD · 0) (entryAt?_stack_upper h hrow step)

theorem entry_stack_lower (row : Nat) :
    (upper.stack lower h).entry (upper.rows + row) = lower.entry row :=
  funext fun step => congrArg (Option.getD · 0) (entryAt?_stack_lower h row step)

end Stack

theorem grid_add (upper lower cols : Nat) (f : Nat → Nat → α) :
    grid (upper + lower) cols f =
      (grid upper cols f).stack (grid lower cols fun row => f (upper + row)) rfl := by
  refine eq_of_entries rfl ?_
  simp only [grid, stack, List.range_add, List.map_append, List.flatten_append, List.map_map]
  rfl

end StepMatrix

namespace Estimator

variable {α : Type}

/-- Rewards, returns and values of one shape above others of as many steps are of one shape. -/
theorem OneShape.stack {rewards returns values rewards' returns' values' : StepMatrix α}
    (h : OneShape rewards returns values) (h' : OneShape rewards' returns' values')
    (hrewards : rewards'.cols = rewards.cols) (hreturns : returns'.cols = returns.cols)
    (hvalues : values'.cols = values.cols)
    (hsize : rewards.entries.length + rewards'.entries.length < Count.limit) :
    OneShape (rewards.stack rewards' hrewards) (returns.stack returns' hreturns)
      (values.stack values' hvalues) := by
  have hextent : ∀ {m m' : StepMatrix α} (hcols : m'.cols = m.cols), m.extent = rewards.extent →
      m'.extent = rewards'.extent →
      (m.stack m' hcols).extent = (rewards.stack rewards' hrewards).extent := by
    intro m m' _ hm hm'
    have hrows : m.rows = rewards.rows := congrArg Prod.fst hm
    have hrows' : m'.rows = rewards'.rows := congrArg Prod.fst hm'
    exact Prod.ext (congrArg₂ (· + ·) hrows hrows') (congrArg Prod.snd hm :)
  refine ⟨hextent hreturns h.returns h'.returns, hextent hvalues h.values h'.values, ?_⟩
  rw [StepMatrix.stack, List.length_append]
  exact hsize

variable [Scalar α]

/-- A number for every step of a row, from how many steps it has and from its rewards, returns and
values. -/
abbrev RowFormula (α : Type) := (cols : Nat) → (rewards returns values : Nat → α) → Nat → α

/-- The advantages that a formula gives for the rows of rewards, returns and values, less the last
steps, which are dropped. -/
def RowFormula.advantages (formula : RowFormula α) (dropped : Nat)
    (rewards returns values : StepMatrix α) : StepMatrix α :=
  .grid rewards.rows (rewards.cols - dropped) fun row =>
    formula rewards.cols (rewards.entry row) (returns.entry row) (values.entry row)

theorem RowFormula.advantages_stack (formula : RowFormula α) (dropped : Nat)
    {rewards returns values rewards' returns' values' : StepMatrix α}
    (h : OneShape rewards returns values) (hrewards : rewards'.cols = rewards.cols)
    (hreturns : returns'.cols = returns.cols) (hvalues : values'.cols = values.cols) :
    formula.advantages dropped (rewards.stack rewards' hrewards)
        (returns.stack returns' hreturns) (values.stack values' hvalues) =
      (formula.advantages dropped rewards returns values).stack
        (formula.advantages dropped rewards' returns' values')
        (congrArg (· - dropped) hrewards) := by
  have hreturnsRows : returns.rows = rewards.rows := congrArg Prod.fst h.returns
  have hvaluesRows : values.rows = rewards.rows := congrArg Prod.fst h.values
  refine (StepMatrix.grid_add rewards.rows rewards'.rows _ _).trans ?_
  refine StepMatrix.eq_of_entries rfl (congrArg₂ (· ++ ·) (congrArg StepMatrix.entries ?_)
    (congrArg StepMatrix.entries ?_))
  · refine StepMatrix.grid_congr fun row step hrow _ => ?_
    rw [StepMatrix.entry_stack_upper hrewards hrow,
      StepMatrix.entry_stack_upper hreturns (hreturnsRows ▸ hrow),
      StepMatrix.entry_stack_upper hvalues (hvaluesRows ▸ hrow)]
    rfl
  · rw [RowFormula.advantages, hrewards]
    refine StepMatrix.grid_congr fun row step _ _ => ?_
    have hreturnsRow := StepMatrix.entry_stack_lower hreturns row
    have hvaluesRow := StepMatrix.entry_stack_lower hvalues row
    rw [hreturnsRows] at hreturnsRow
    rw [hvaluesRows] at hvaluesRow
    rw [StepMatrix.entry_stack_lower hrewards, hreturnsRow, hvaluesRow]
    rfl

/-- Every estimator of this library has its formula, whatever the read gives outside of the
matrices. -/
theorem Drops.exists_formula {e : Estimator α} {extraSteps dropped : Nat}
    (hdrops : e.Drops extraSteps dropped) (gamma : α) :
    ∃ (f : StepMatrix.Read α → Estimator α) (formula : RowFormula α), e.ReadsBy f ∧
      ∀ (read : StepMatrix.Read α) (rewards returns values : StepMatrix α), read.Faithful →
        OneShape rewards returns values →
        (f read).estimate rewards returns values gamma extraSteps =
          .ok (formula.advantages dropped rewards returns values) := by
  cases hdrops with
  | monteCarlo =>
      exact ⟨_, fun _ _ returns values step => returns step - values step, .monteCarlo,
        fun _ _ _ _ hread h => monteCarloBy_estimate h hread gamma extraSteps⟩
  | kStep =>
      refine ⟨_, fun _ rewards _ values step =>
        let sums := discounted gamma ((List.range' step extraSteps).map rewards)
        sums.1 + sums.2 * values (step + extraSteps) - values step, .kStep, ?_⟩
      exact fun _ _ _ _ hread h => kStepBy_estimate h hread gamma extraSteps
  | tdLambda lambda =>
      refine ⟨_, fun cols rewards returns values step =>
        lambdaReturn gamma lambda (returns (cols - 1))
          ((List.range' step (cols - 1 - step)).map fun i => (rewards i, values (i + 1))) -
            values step, .tdLambda lambda, ?_⟩
      exact fun _ _ _ _ hread h => tdLambdaBy_estimate h hread lambda gamma extraSteps
  | gae lambda =>
      refine ⟨_, fun cols rewards _ values step =>
        decayedSum (gamma * lambda) ((List.range' step (cols - 1 - step)).map fun i =>
          rewards i + gamma * values (i + 1) - values i), .gae lambda, ?_⟩
      exact fun _ _ _ _ hread h => gaeBy_estimate h hread lambda gamma extraSteps

/-- No estimate of matrices of one shape looks outside of them or fails, and rows that lie above
others are estimated as they are alone. -/
theorem estimates_row_by_row {e : Estimator α} {extraSteps dropped : Nat}
    (hdrops : e.Drops extraSteps dropped) (gamma : α) {rewards returns values : StepMatrix α}
    (h : OneShape rewards returns values) :
    ∃ advantages, e.estimate rewards returns values gamma extraSteps = .ok advantages ∧
      (∃ f, e.ReadsBy f ∧ f StepMatrix.get = e ∧
        (f StepMatrix.getInside).estimate rewards returns values gamma extraSteps =
          .ok advantages) ∧
      advantages.extent = (rewards.rows, rewards.cols - dropped) ∧
      ∀ (rewards' returns' values' : StepMatrix α) (hrewards : rewards'.cols = rewards.cols)
        (hreturns : returns'.cols = returns.cols) (hvalues : values'.cols = values.cols),
        OneShape rewards' returns' values' →
        rewards.entries.length + rewards'.entries.length < Count.limit →
        ∃ advantages', e.estimate rewards' returns' values' gamma extraSteps = .ok advantages' ∧
          ∃ hcols : advantages'.cols = advantages.cols,
            e.estimate (rewards.stack rewards' hrewards) (returns.stack returns' hreturns)
              (values.stack values' hvalues) gamma extraSteps =
                .ok (advantages.stack advantages' hcols) := by
  obtain ⟨f, formula, hreads, hformula⟩ := hdrops.exists_formula gamma
  have hestimate : ∀ rewards returns values : StepMatrix α, OneShape rewards returns values →
      e.estimate rewards returns values gamma extraSteps =
        .ok (formula.advantages dropped rewards returns values) := by
    intro rewards returns values h
    have hget := hformula StepMatrix.get rewards returns values StepMatrix.faithful_get h
    rwa [hreads.eq] at hget
  refine ⟨_, hestimate _ _ _ h, ⟨f, hreads, hreads.eq, ?_⟩, rfl, ?_⟩
  · exact hformula StepMatrix.getInside rewards returns values StepMatrix.faithful_getInside h
  · intro rewards' returns' values' hrewards hreturns hvalues h' hsize
    refine ⟨_, hestimate _ _ _ h', congrArg (· - dropped) hrewards, ?_⟩
    rw [hestimate _ _ _ (h.stack h' hrewards hreturns hvalues hsize),
      formula.advantages_stack dropped h hrewards hreturns hvalues]

/-- Two slices of three steps in rounded numbers, looking two steps ahead. -/
theorem estimates_row_by_row_two_slices :
    let rewards : StepMatrix Float32 := ⟨1, 3, [1, 0, 9], rfl⟩
    let returns : StepMatrix Float32 := ⟨1, 3, [2, 2, 4], rfl⟩
    let values : StepMatrix Float32 := ⟨1, 3, [1, 3, 7], rfl⟩
    let rewards' : StepMatrix Float32 := ⟨1, 3, [4, 4, 9], rfl⟩
    let returns' : StepMatrix Float32 := ⟨1, 3, [8, 8, 8], rfl⟩
    let values' : StepMatrix Float32 := ⟨1, 3, [5, 0, 6], rfl⟩
    Drops 2 (kStep : Estimator Float32) 2 ∧ OneShape rewards returns values ∧
    OneShape rewards' returns' values' ∧
    rewards.entries.length + rewards'.entries.length < Count.limit ∧
    ∃ advantages advantages', advantages.extent = (1, 1) ∧
      (∃ f, ReadsBy kStep f ∧ f StepMatrix.get = kStep ∧
        (f StepMatrix.getInside).estimate rewards returns values (1 / 3) 2 = .ok advantages) ∧
      kStep.estimate rewards' returns' values' (1 / 3) 2 = .ok advantages' ∧
      ∃ hcols, kStep.estimate (rewards.stack rewards' rfl) (returns.stack returns' rfl)
        (values.stack values' rfl) (1 / 3) 2 = .ok (advantages.stack advantages' hcols) := by
  intro rewards returns values rewards' returns' values'
  have hdrops : Drops 2 (kStep : Estimator Float32) 2 := .kStep
  have h : OneShape rewards returns values := ⟨by decide, by decide, by decide⟩
  have h' : OneShape rewards' returns' values' := ⟨by decide, by decide, by decide⟩
  obtain ⟨advantages, -, hinside, hextent, hstack⟩ :=
    estimates_row_by_row hdrops (1 / 3) h
  obtain ⟨advantages', hlower, hcols, hboth⟩ :=
    hstack rewards' returns' values' rfl rfl rfl h' (by decide)
  exact ⟨hdrops, h, h', by decide, advantages, advantages', hextent, hinside, hlower, hcols,
    hboth⟩

end Estimator
end ActorCritic
