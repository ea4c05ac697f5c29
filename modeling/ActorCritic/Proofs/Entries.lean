import ActorCritic.Proofs.Attempt
import ActorCritic.StepTensor

/-!
Matrices and tensors read entry by entry. Keeping the first steps of every row moves entries within
the list that holds them, but leaves every one at its row, its step and its feature.
-/

namespace ActorCritic

/-- What is kept of block `r` is the beginning of block `r`. -/
theorem getElem?_keepInBlocks {β : Type} {size count keep r c : Nat} {xs : List β}
    (h : xs.length = count * size) (hkeep : keep ≤ size) (hr : r < count) (hc : c < keep) :
    (keepInBlocks size count keep xs)[r * keep + c]? = xs[r * size + c]? := by
  induction count generalizing xs r with
  | zero => omega
  | succ count ih =>
      have hlength : xs.length = count * size + size := by rw [h, Nat.succ_mul]
      have hfirst : ((xs.take size).take keep).length = keep := by
        rw [List.length_take, List.length_take]
        omega
      have hcut : keepInBlocks size (count + 1) keep xs =
          (xs.take size).take keep ++ keepInBlocks size count keep (xs.drop size) := rfl
      rw [hcut]
      cases r with
      | zero =>
          rw [List.getElem?_append_left (by omega), Nat.zero_mul, Nat.zero_mul, Nat.zero_add,
            List.getElem?_take_of_lt hc, List.getElem?_take_of_lt (by omega)]
      | succ r =>
          rw [Nat.succ_mul, Nat.succ_mul, List.getElem?_append_right (by omega), hfirst,
            show r * keep + keep + c - keep = r * keep + c by omega,
            ih (by rw [List.length_drop]; omega) (by omega), List.getElem?_drop]
          congr 1
          omega

namespace StepMatrix

variable {α : Type}

/-- The entry at a row and a step; there is none past the last row or the last step. -/
def entryAt? (m : StepMatrix α) (row step : Nat) : Option α :=
  if row < m.rows ∧ step < m.cols then m.entries[row * m.cols + step]? else none

theorem position_lt {rows cols row col : Nat} (hrow : row < rows) (hcol : col < cols) :
    row * cols + col < rows * cols := by
  calc row * cols + col < row * cols + cols := by omega
    _ = (row + 1) * cols := (Nat.succ_mul row cols).symm
    _ ≤ rows * cols := Nat.mul_le_mul_right cols hrow

theorem exists_entryAt? (m : StepMatrix α) {row step : Nat} (hrow : row < m.rows)
    (hstep : step < m.cols) : ∃ x, m.entryAt? row step = some x := by
  have hlt : row * m.cols + step < m.entries.length := by
    rw [m.size_eq]
    exact position_lt hrow hstep
  rw [entryAt?, if_pos ⟨hrow, hstep⟩, List.getElem?_eq_getElem hlt]
  exact ⟨_, rfl⟩

theorem entryAt?_map {β : Type} (m : StepMatrix α) (f : α → β) (row step : Nat) :
    (m.map f).entryAt? row step = (m.entryAt? row step).map f := by
  by_cases hin : row < m.rows ∧ step < m.cols
  · simp [entryAt?, map, hin]
  · simp [entryAt?, map, hin]

/-- Two matrices of the same extents, combined entry by entry. -/
theorem exists_ofEntries_zipWith {β γ : Type} {a : StepMatrix α} {b : StepMatrix β}
    {f : α → β → γ} (hextent : a.extent = b.extent) (hsize : b.rows * b.cols < Count.limit) :
    ∃ m, ofEntries b.rows b.cols (List.zipWith f a.entries b.entries) = .ok m ∧
      m.extent = b.extent ∧
      ∀ row step x y, a.entryAt? row step = some x → b.entryAt? row step = some y →
        m.entryAt? row step = some (f x y) := by
  have hrows : a.rows = b.rows := congrArg Prod.fst hextent
  have hcols : a.cols = b.cols := congrArg Prod.snd hextent
  have hlength : (List.zipWith f a.entries b.entries).length = b.rows * b.cols := by
    rw [List.length_zipWith, a.size_eq, b.size_eq, hrows, hcols, Nat.min_self]
  refine ⟨⟨b.rows, b.cols, _, hlength⟩, ?_, rfl, ?_⟩
  · refine Attempt.bind_eq_ok.2 ⟨_, Attempt.mapError_eq_ok.2 (Count.mul_eq_ok.2 ⟨hsize, rfl⟩), ?_⟩
    rw [dif_pos hlength]
    rfl
  · intro row step x y hx hy
    simp only [entryAt?, hrows, hcols] at hx hy ⊢
    split at hx
    · next hin =>
        rw [if_pos hin] at hy ⊢
        rw [List.getElem?_zipWith, hx, hy]
    · cases hx

/-- The first steps of the matrix, for all of its rows. -/
structure IsPrefix (p m : StepMatrix α) (length : Nat) : Prop where
  extent_eq : p.extent = (m.rows, length)
  entry_eq : ∀ row step, step < length → p.entryAt? row step = m.entryAt? row step

theorem isPrefix_truncate (m : StepMatrix α) {length : Nat} (h : length ≤ m.cols) :
    (m.truncate length).IsPrefix m length := by
  have hcols : min length m.cols = length := Nat.min_eq_left h
  refine ⟨Prod.ext rfl hcols, ?_⟩
  intro row step hstep
  simp only [entryAt?, truncate, hcols]
  by_cases hrow : row < m.rows
  · rw [if_pos ⟨hrow, hstep⟩, if_pos ⟨hrow, by omega⟩]
    exact getElem?_keepInBlocks m.size_eq h hrow hstep
  · rw [if_neg (fun hin => hrow hin.1), if_neg (fun hin => hrow hin.1)]

theorem isPrefix_of_timePrefix {m p : StepMatrix α} {length : Nat} (h : length ≤ m.cols)
    (hp : m.timePrefix length = .ok p) : p.IsPrefix m length := by
  unfold timePrefix at hp
  split at hp
  · cases hp
    obtain rfl : length = m.cols := by omega
    exact ⟨rfl, fun _ _ _ => rfl⟩
  · split at hp
    · cases hp
    · cases hp
      exact isPrefix_truncate m h

/-- A range that drops steps is refused only where it is empty. -/
theorem exists_timePrefix (m : StepMatrix α) (length : Nat) (hrows : 0 < m.rows)
    (hlength : 0 < length ∨ m.cols ≤ length) : ∃ p, m.timePrefix length = .ok p := by
  unfold timePrefix
  split
  · exact ⟨_, rfl⟩
  · rw [if_neg (by omega)]
    exact ⟨_, rfl⟩

end StepMatrix

namespace StepTensor

variable {α : Type}

/-- The entry at a row, a step and a feature; there is none past the last of each. -/
def entryAt? (t : StepTensor α) (row step feature : Nat) : Option α :=
  if row < t.batch ∧ step < t.time ∧ feature < t.features then
    t.entries[(row * t.time + step) * t.features + feature]?
  else none

/-- The first steps of the tensor, for all of its rows, with all of their features. -/
structure IsPrefix (p t : StepTensor α) (length : Nat) : Prop where
  extent_eq : p.extent = (t.batch, length)
  features_eq : p.features = t.features
  entry_eq : ∀ row step feature, step < length →
    p.entryAt? row step feature = t.entryAt? row step feature

/-- The features of a step lie in the block of its row. -/
theorem position_eq (row step time features feature : Nat) :
    (row * time + step) * features + feature =
      row * (time * features) + (step * features + feature) := by
  rw [Nat.add_mul, Nat.mul_assoc, Nat.add_assoc]

theorem isPrefix_of_timePrefix {t p : StepTensor α} {length : Nat} (h : length ≤ t.time)
    (hp : t.timePrefix length = .ok p) : p.IsPrefix t length := by
  unfold timePrefix at hp
  split at hp
  · cases hp
    obtain rfl : length = t.time := by omega
    exact ⟨rfl, rfl, fun _ _ _ _ => rfl⟩
  · split at hp
    · cases hp
    · cases hp
      refine ⟨rfl, rfl, ?_⟩
      intro row step feature hstep
      simp only [entryAt?]
      by_cases hin : row < t.batch ∧ feature < t.features
      · rw [if_pos ⟨hin.1, hstep, hin.2⟩, if_pos ⟨hin.1, by omega, hin.2⟩, position_eq,
          position_eq]
        exact getElem?_keepInBlocks t.size_eq (Nat.mul_le_mul_right _ h) hin.1
          (StepMatrix.position_lt hstep hin.2)
      · rw [if_neg (fun hall => hin ⟨hall.1, hall.2.2⟩),
          if_neg (fun hall => hin ⟨hall.1, hall.2.2⟩)]

theorem exists_timePrefix (t : StepTensor α) (length : Nat) (hbatch : 0 < t.batch)
    (hfeatures : 0 < t.features) (hlength : 0 < length ∨ t.time ≤ length) :
    ∃ p, t.timePrefix length = .ok p := by
  unfold timePrefix
  split
  · exact ⟨_, rfl⟩
  · rw [if_neg (by omega)]
    exact ⟨_, rfl⟩

/-- One number per step is the tensor's only feature. -/
theorem entryAt?_ofSteps (m : StepMatrix α) (row step : Nat) :
    (ofSteps m).entryAt? row step 0 = m.entryAt? row step := by
  simp [entryAt?, StepMatrix.entryAt?, ofSteps]

theorem toSteps?_ofSteps (m : StepMatrix α) : (ofSteps m).toSteps? = some m := rfl

theorem exists_toSteps? {t : StepTensor α} (h : t.features = 1) :
    ∃ steps, t.toSteps? = some steps := by
  rw [toSteps?, dif_pos h]
  exact ⟨_, rfl⟩

theorem entryAt?_of_toSteps? {t : StepTensor α} {m : StepMatrix α} (h : t.toSteps? = some m) :
    t.features = 1 ∧ m.extent = t.extent ∧
      ∀ row step, m.entryAt? row step = t.entryAt? row step 0 := by
  unfold toSteps? at h
  split at h
  · next hone =>
      cases h
      refine ⟨hone, rfl, ?_⟩
      intro row step
      simp [entryAt?, StepMatrix.entryAt?, hone]
  · cases h

end StepTensor
end ActorCritic
