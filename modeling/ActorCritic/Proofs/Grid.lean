import ActorCritic.Proofs.Entries

/-!
Matrices as functions of a row and a step. Reads inside a matrix do not fail and give its entries,
so a matrix that is computed entry by entry from such reads is the grid of the computed numbers.
-/

namespace ActorCritic

variable {α : Type}

/-- In rows of one length, an entry is found by its row and its place there. -/
theorem getElem?_flatten_of_forall {size : Nat} {rows : List (List α)}
    (h : ∀ r ∈ rows, r.length = size) {row step : Nat} (hstep : step < size) :
    rows.flatten[row * size + step]? = rows[row]?.bind (·[step]?) := by
  induction rows generalizing row with
  | nil => simp
  | cons first rows ih =>
      have hfirst : first.length = size := h first List.mem_cons_self
      rw [List.flatten_cons]
      cases row with
      | zero =>
          rw [Nat.zero_mul, Nat.zero_add, List.getElem?_append_left (by omega)]
          rfl
      | succ row =>
          rw [Nat.succ_mul, List.getElem?_append_right (by omega), hfirst,
            show row * size + size + step - size = row * size + step by omega,
            ih fun r hr => h r (List.mem_cons_of_mem first hr)]
          rfl

namespace StepMatrix

theorem eq_of_entries {m n : StepMatrix α} (hextent : m.extent = n.extent)
    (h : m.entries = n.entries) : m = n := by
  obtain ⟨rows, cols, entries, hsize⟩ := m
  cases hextent
  cases h
  rfl

/-- Matrices are equal if they have the same rows and steps and the same entries there. -/
theorem ext_entryAt? {m n : StepMatrix α} (hextent : m.extent = n.extent)
    (h : ∀ row step, row < m.rows → step < m.cols → m.entryAt? row step = n.entryAt? row step) :
    m = n := by
  have hrows : m.rows = n.rows := congrArg Prod.fst hextent
  have hcols : m.cols = n.cols := congrArg Prod.snd hextent
  refine eq_of_entries hextent (List.ext_getElem? fun i => ?_)
  have hm := m.size_eq
  have hn : n.entries.length = m.rows * m.cols := by rw [n.size_eq, hrows, hcols]
  by_cases hi : i < m.rows * m.cols
  · have hpos : 0 < m.cols := Nat.pos_of_ne_zero fun hzero => by simp [hzero] at hi
    have hrow : i / m.cols < m.rows := Nat.div_lt_of_lt_mul (Nat.mul_comm m.rows _ ▸ hi)
    have hstep : i % m.cols < m.cols := Nat.mod_lt i hpos
    have hentry := h (i / m.cols) (i % m.cols) hrow hstep
    rw [entryAt?, entryAt?, if_pos ⟨hrow, hstep⟩, ← hrows, ← hcols, if_pos ⟨hrow, hstep⟩,
      Nat.div_add_mod'] at hentry
    exact hentry
  · rw [List.getElem?_eq_none (by omega), List.getElem?_eq_none (by omega)]

/-- The matrix of a function of the row and the step. -/
def grid (rows cols : Nat) (f : Nat → Nat → α) : StepMatrix α :=
  ⟨rows, cols, ((List.range rows).map fun row => (List.range cols).map (f row)).flatten, by
    rw [length_flatten_of_forall cols]
    · simp
    · intro line hline
      obtain ⟨row, -, rfl⟩ := List.mem_map.1 hline
      simp⟩

theorem entryAt?_grid {rows cols : Nat} (f : Nat → Nat → α) {row step : Nat} (hrow : row < rows)
    (hstep : step < cols) : (grid rows cols f).entryAt? row step = some (f row step) := by
  have hlines : ∀ line ∈ (List.range rows).map fun row => (List.range cols).map (f row),
      line.length = cols := by
    intro line hline
    obtain ⟨row, -, rfl⟩ := List.mem_map.1 hline
    simp
  refine (if_pos ⟨hrow, hstep⟩).trans ((getElem?_flatten_of_forall hlines hstep).trans ?_)
  simp [hrow, hstep]

theorem grid_congr {rows cols : Nat} {f g : Nat → Nat → α}
    (h : ∀ row step, row < rows → step < cols → f row step = g row step) :
    grid rows cols f = grid rows cols g := by
  refine ext_entryAt? rfl fun row step (hrow : row < rows) (hstep : step < cols) => ?_
  rw [entryAt?_grid f hrow hstep, entryAt?_grid g hrow hstep, h row step hrow hstep]

theorem fill_eq_grid (rows cols : Nat) (x : α) :
    fill rows cols x = grid rows cols fun _ _ => x := by
  refine ext_entryAt? rfl fun row step (hrow : row < rows) (hstep : step < cols) => ?_
  rw [entryAt?_grid _ hrow hstep]
  exact (if_pos ⟨hrow, hstep⟩).trans (List.getElem?_replicate_of_lt (position_lt hrow hstep))

section Entry

variable [Zero α]

/-- The number at a row and a step, zero past the last row or the last step. -/
def entry (m : StepMatrix α) (row step : Nat) : α := (m.entryAt? row step).getD 0

theorem entryAt?_eq_entry (m : StepMatrix α) {row step : Nat} (hrow : row < m.rows)
    (hstep : step < m.cols) : m.entryAt? row step = some (m.entry row step) := by
  obtain ⟨x, hx⟩ := m.exists_entryAt? hrow hstep
  rw [entry, hx]
  rfl

theorem entry_map {β : Type} [Zero β] (m : StepMatrix α) (f : α → β) {row step : Nat}
    (hrow : row < m.rows) (hstep : step < m.cols) :
    (m.map f).entry row step = f (m.entry row step) := by
  rw [entry, entryAt?_map, m.entryAt?_eq_entry hrow hstep]
  rfl

theorem entry_grid {rows cols : Nat} (f : Nat → Nat → α) {row step : Nat} (hrow : row < rows)
    (hstep : step < cols) : (grid rows cols f).entry row step = f row step := by
  rw [entry, entryAt?_grid f hrow hstep]
  rfl

/-- Reads inside a matrix that fits in memory give its entries. -/
theorem get_eq_ok {m : StepMatrix α} (hsize : m.entries.length < Count.limit) {row col : Nat}
    (hrow : row < m.rows) (hcol : col < m.cols) : m.get row col = .ok (m.entry row col) := by
  have hposition : row * m.cols + col < m.entries.length := by
    rw [m.size_eq]
    exact position_lt hrow hcol
  have hread := m.entryAt?_eq_entry hrow hcol
  rw [entryAt?, if_pos ⟨hrow, hcol⟩] at hread
  have hmul : Count.mul row m.cols = .ok (row * m.cols) := Count.mul_eq_ok.2 ⟨by omega, rfl⟩
  have hadd : Count.add (row * m.cols) col = .ok (row * m.cols + col) :=
    Count.add_eq_ok.2 ⟨by omega, rfl⟩
  simp only [get, position, hmul, hadd, Attempt.ok_bind, hread]
  rfl

end Entry

section Scan

theorem readUp_eq_ok {f : Nat → Except Abort α} {g : Nat → α} {start count : Nat}
    (h : ∀ i, start ≤ i → i < start + count → f i = .ok (g i)) :
    readUp f start count = .ok ⟨(List.range' start count).map g, by simp⟩ := by
  induction count generalizing start with
  | zero => rfl
  | succ count ih =>
      have hrest : readUp f (start + 1) count =
          .ok ⟨(List.range' (start + 1) count).map g, by simp⟩ :=
        ih fun i hi hlt => h i (by omega) (by omega)
      simp only [readUp, h start (Nat.le_refl start) (by omega), hrest, Attempt.ok_bind]
      rfl

theorem readDown_eq_ok {f : Nat → Except Abort α} {g : Nat → α} {count : Nat}
    (h : ∀ i, i < count → f i = .ok (g i)) :
    readDown f count = .ok ⟨(List.range count).map g, by simp⟩ := by
  induction count with
  | zero => rfl
  | succ count ih =>
      simp only [readDown, h count (by omega), ih fun i hi => h i (by omega), Attempt.ok_bind,
        List.range_succ, List.map_append]
      rfl

/-- The rows that are computed are the rows of the grid. -/
theorem tabulate_eq_ok {rows cols : Nat} {f : Nat → Except Abort (Row α cols)}
    {g : Nat → Nat → α}
    (h : ∀ row, row < rows → ∃ line, f row = .ok line ∧ line.1 = (List.range cols).map (g row)) :
    tabulate rows cols f = .ok (grid rows cols g) := by
  let line (row : Nat) : Row α cols := ⟨(List.range cols).map (g row), by simp⟩
  have hlines : ∀ row, 0 ≤ row → row < 0 + rows → f row = .ok (line row) := by
    intro row _ hrow
    obtain ⟨⟨_, _⟩, hf, rfl⟩ := h row (by omega)
    exact hf
  simp only [tabulate, readUp_eq_ok hlines, Attempt.ok_bind]
  refine congrArg Except.ok (eq_of_entries rfl (congrArg List.flatten ?_))
  rw [List.map_map, ← List.range_eq_range']
  rfl

end Scan

end StepMatrix
end ActorCritic
