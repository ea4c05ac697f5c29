import ActorCritic.Proofs.Grid
import ActorCritic.Proofs.RowLists

/-!
What the operations do to a matrix as a grid. However a matrix was made, its entries are as many as
fit in memory, so reads inside it do not fail; a write changes one entry of the grid, although
entries lie row after row; and cutting columns off leaves the others where they are, although it
moves them within the list of entries.
-/

namespace ActorCritic
namespace StepMatrix

variable {α β : Type}

/-- Different places of a grid lie at different positions. -/
theorem position_injective {cols row step row' step' : Nat} (hstep : step < cols)
    (hstep' : step' < cols) (h : row * cols + step = row' * cols + step') :
    row = row' ∧ step = step' := by
  have hrow : row = row' := by
    refine Nat.le_antisymm (Nat.not_lt.1 fun hlt => ?_) (Nat.not_lt.1 fun hlt => ?_)
    · have hbefore := position_lt hlt hstep'
      omega
    · have hbefore := position_lt hlt hstep
      omega
  subst hrow
  exact ⟨rfl, Nat.add_left_cancel h⟩

theorem entryAt?_truncate (m : StepMatrix α) (k row step : Nat) :
    (m.truncate k).entryAt? row step = if step < k then m.entryAt? row step else none := by
  have hcut : m.truncate k = m.truncate (min k m.cols) := by
    simp only [truncate, Nat.min_assoc, Nat.min_self]
  have hprefix := m.isPrefix_truncate (Nat.min_le_right k m.cols)
  rw [← hcut] at hprefix
  by_cases hk : step < k
  · rw [if_pos hk]
    by_cases hcols : step < m.cols
    · exact hprefix.entry_eq row step (Nat.lt_min.2 ⟨hk, hcols⟩)
    · rw [entryAt?, entryAt?, if_neg (fun hin => hcols (Nat.lt_min.1 hin.2).2),
        if_neg (fun hin => hcols hin.2)]
  · rw [if_neg hk, entryAt?, if_neg (fun hin => hk (Nat.lt_min.1 hin.2).1)]

theorem truncate_truncate (m : StepMatrix α) (j k : Nat) :
    (m.truncate j).truncate k = m.truncate (min j k) := by
  refine ext_entryAt? (Prod.ext rfl ?_) fun row step _ _ => ?_
  · change min k (min j m.cols) = min (min j k) m.cols
    omega
  · simp only [entryAt?_truncate, Nat.lt_min]
    by_cases hj : step < j
    · simp [hj]
    · simp [hj]

theorem map_truncate (m : StepMatrix α) (f : α → β) (k : Nat) :
    (m.map f).truncate k = (m.truncate k).map f := by
  refine ext_entryAt? rfl fun row step _ _ => ?_
  rw [entryAt?_map, entryAt?_truncate, entryAt?_truncate, entryAt?_map]
  split <;> rfl

/-- The entries are as many as fit in memory. -/
def FitsMemory (m : StepMatrix α) : Prop := m.entries.length < Count.limit

section Access

variable {m n : StepMatrix α} {row step : Nat} {x : α}

/-- The positions inside a matrix are counts. -/
theorem position_eq_ok (hm : m.FitsMemory) (hrow : row < m.rows) (hstep : step < m.cols) :
    m.position row step = .ok (row * m.cols + step) ∧
      row * m.cols + step < m.entries.length := by
  have hlt : row * m.cols + step < m.entries.length := by
    rw [m.size_eq]
    exact position_lt hrow hstep
  have hlimit : row * m.cols + step < Count.limit := Nat.lt_trans hlt hm
  have hmul : Count.mul row m.cols = .ok (row * m.cols) :=
    Count.mul_eq_ok.2 ⟨Nat.lt_of_le_of_lt (Nat.le_add_right _ _) hlimit, rfl⟩
  refine ⟨?_, hlt⟩
  rw [position, hmul]
  exact Count.add_eq_ok.2 ⟨hlimit, rfl⟩

theorem get_of_entryAt? (hm : m.FitsMemory) (h : m.entryAt? row step = some x) :
    m.get row step = .ok x := by
  unfold entryAt? at h
  split at h
  · next hin =>
      rw [get, (position_eq_ok hm hin.1 hin.2).1, Attempt.ok_bind]
      simp only [h]
      rfl
  · cases h

/-- A row is read as it is in the grid. -/
theorem row_of_entryAt? (hm : m.FitsMemory) (h : m.entryAt? row step = some x) :
    ∃ xs, m.row row = .ok xs ∧ xs.length = m.cols ∧ xs[step]? = some x := by
  unfold entryAt? at h
  split at h
  · next hin =>
      have hrows : m.rows < Count.limit := by
        refine Nat.lt_of_le_of_lt ?_ hm
        rw [m.size_eq]
        exact Nat.le_mul_of_pos_right m.rows (Nat.zero_lt_of_lt hin.2)
      refine ⟨_, row_eq_ok hrows hm hin.1, ?_, ?_⟩
      · have hlast : (row + 1) * m.cols ≤ m.entries.length := by
          rw [m.size_eq]
          exact Nat.mul_le_mul_right m.cols hin.1
        rw [Nat.succ_mul] at hlast
        rw [List.length_take, List.length_drop]
        omega
      · rw [List.getElem?_take_of_lt hin.2, List.getElem?_drop, h]
  · cases h

theorem set_eq_ok : m.set row step x = .ok n ↔
    ∃ i, m.position row step = .ok i ∧ i < m.entries.length ∧
      n.extent = m.extent ∧ n.entries = m.entries.set i x := by
  unfold set
  constructor
  · intro h
    obtain ⟨i, hi, h⟩ := Attempt.bind_eq_ok.1 h
    split at h
    · next hlt =>
        cases h
        exact ⟨i, hi, hlt, rfl, rfl⟩
    · cases h
  · rintro ⟨i, hi, hlt, hextent, hentries⟩
    refine Attempt.bind_eq_ok.2 ⟨i, hi, ?_⟩
    rw [if_pos hlt]
    refine congrArg Except.ok ?_
    exact eq_of_entries hextent.symm hentries.symm

/-- A write inside a matrix changes the entry there and no other one. -/
theorem exists_set (hm : m.FitsMemory) (hrow : row < m.rows) (hstep : step < m.cols) (x : α) :
    ∃ n, m.set row step x = .ok n ∧ n.extent = m.extent ∧
      ∀ row' step', row' < m.rows → step' < m.cols →
        n.entryAt? row' step' =
          if row' = row ∧ step' = step then some x else m.entryAt? row' step' := by
  obtain ⟨hposition, hlt⟩ := position_eq_ok hm hrow hstep
  let written : StepMatrix α :=
    { m with entries := m.entries.set (row * m.cols + step) x, size_eq := by simp [m.size_eq] }
  refine ⟨written, set_eq_ok.2 ⟨_, hposition, hlt, rfl, rfl⟩, rfl, ?_⟩
  intro row' step' hrow' hstep'
  have hthere : written.entryAt? row' step' =
      (m.entries.set (row * m.cols + step) x)[row' * m.cols + step']? := if_pos ⟨hrow', hstep'⟩
  rw [hthere]
  split
  · next hsame =>
      rw [hsame.1, hsame.2]
      exact List.getElem?_set_self hlt
  · next hother =>
      rw [entryAt?, if_pos ⟨hrow', hstep'⟩]
      refine List.getElem?_set_ne fun heq => hother ?_
      obtain ⟨h₁, h₂⟩ := position_injective hstep hstep' heq
      exact ⟨h₁.symm, h₂.symm⟩

end Access

/-- The matrices that are made by these operations, in whatever order. A write may be any that is
not out of bounds. -/
inductive Built [Scalar α] : StepMatrix α → Prop where
  | ofEntries {rows cols : Nat} {entries : List α} {m : StepMatrix α}
      (h : ofEntries rows cols entries = .ok m) : Built m
  | zeros {rows cols : Nat} {m : StepMatrix α} (h : zeros rows cols = .ok m) : Built m
  | ofTensor {t : Tensor α} {m : StepMatrix α} (h : ofTensor t = .ok m) : Built m
  | set {m n : StepMatrix α} {row col : Nat} {x : α} (hm : Built m)
      (h : m.set row col x = .ok n) : Built n
  | truncate {m : StepMatrix α} (hm : Built m) (cols : Nat) : Built (m.truncate cols)
  | map {m : StepMatrix α} (hm : Built m) (f : α → α) : Built (m.map f)
  | normalize {m : StepMatrix α} (hm : Built m) (epsilon : α) : Built (m.normalize epsilon)

namespace FitsMemory

variable {m n : StepMatrix α}

theorem of_length_le (hm : m.FitsMemory) {n : StepMatrix β}
    (h : n.entries.length ≤ m.entries.length) : n.FitsMemory := Nat.lt_of_le_of_lt h hm

theorem ofEntries {rows cols : Nat} {entries : List α} (h : ofEntries rows cols entries = .ok m) :
    m.FitsMemory := by
  obtain ⟨hlimit, hlength, rfl⟩ := ofEntries_eq_ok.1 h
  exact Nat.lt_of_le_of_lt (Nat.le_of_eq hlength) hlimit

theorem zeros [Zero α] {rows cols : Nat} (h : zeros rows cols = .ok m) : m.FitsMemory := by
  obtain ⟨size, hsize, h⟩ := Attempt.bind_eq_ok.1 h
  obtain ⟨hlimit, rfl⟩ := Count.mul_eq_ok.1 hsize
  split at h
  · cases h
    exact Nat.lt_of_le_of_lt (Nat.le_of_eq List.length_replicate) hlimit
  · cases h

theorem ofTensor {t : Tensor α} (h : ofTensor t = .ok m) : m.FitsMemory := by
  unfold StepMatrix.ofTensor at h
  split at h
  · exact ofEntries h
  · cases h

theorem set (hm : m.FitsMemory) {row col : Nat} {x : α} (h : m.set row col x = .ok n) :
    n.FitsMemory := by
  obtain ⟨i, -, -, -, hentries⟩ := set_eq_ok.1 h
  exact hm.of_length_le (Nat.le_of_eq (by rw [hentries, List.length_set]))

theorem truncate (hm : m.FitsMemory) (k : Nat) : (m.truncate k).FitsMemory := by
  refine hm.of_length_le ?_
  rw [(m.truncate k).size_eq, m.size_eq]
  exact Nat.mul_le_mul_left m.rows (Nat.min_le_right k m.cols)

theorem map (hm : m.FitsMemory) (f : α → β) : (m.map f).FitsMemory :=
  hm.of_length_le (Nat.le_of_eq (List.length_map f))

end FitsMemory

theorem Built.fitsMemory [Scalar α] {m : StepMatrix α} (hm : m.Built) : m.FitsMemory := by
  induction hm with
  | ofEntries h => exact .ofEntries h
  | zeros h => exact .zeros h
  | ofTensor h => exact .ofTensor h
  | set _ h ih => exact ih.set h
  | truncate _ k ih => exact ih.truncate k
  | map _ f ih => exact ih.map f
  | normalize _ epsilon ih => exact ih.map _

/-- What was put into a tensor is read back as it was. -/
theorem ofTensor_toTensor {m : StepMatrix α} (hm : m.FitsMemory) :
    ofTensor m.toTensor = .ok m := by
  refine ofEntries_eq_ok.2 ⟨?_, m.size_eq, rfl⟩
  rw [← m.size_eq]
  exact hm

/-- A matrix is a grid, however it was made: reads inside it give what stands there in the row, a
write changes the one entry, cutting columns off leaves the entries before the cut, the smaller one
of two cuts is what is left, and neither a map before a cut nor a way through a tensor makes a
difference. Nothing is asked of the extents, which may be zero, and the numbers may be of any
kind. -/
theorem built_matrices_are_grids [Scalar α] {m : StepMatrix α} (hm : m.Built) :
    m.entries.length = m.rows * m.cols ∧
    (∀ row step, row < m.rows → step < m.cols → ∃ x xs, m.get row step = .ok x ∧
      m.row row = .ok xs ∧ xs.length = m.cols ∧ xs[step]? = some x) ∧
    (∀ row step x, row < m.rows → step < m.cols → ∃ n, m.set row step x = .ok n ∧
      n.extent = m.extent ∧ ∀ row' step', row' < m.rows → step' < m.cols →
        n.get row' step' = if row' = row ∧ step' = step then .ok x else m.get row' step') ∧
    (∀ k, (m.truncate k).extent = (m.rows, min k m.cols) ∧
      ∀ row step, row < m.rows → step < min k m.cols →
        (m.truncate k).get row step = m.get row step) ∧
    (∀ j k, (m.truncate j).truncate k = m.truncate (min j k)) ∧
    (∀ (f : α → α) k, (m.map f).truncate k = (m.truncate k).map f) ∧
    ofTensor m.toTensor = .ok m := by
  have hfits := hm.fitsMemory
  refine ⟨m.size_eq, ?_, ?_, ?_, m.truncate_truncate, fun f k => m.map_truncate f k,
    ofTensor_toTensor hfits⟩
  · intro row step hrow hstep
    obtain ⟨x, hx⟩ := m.exists_entryAt? hrow hstep
    obtain ⟨xs, hxs, hlength, hentry⟩ := row_of_entryAt? hfits hx
    exact ⟨x, xs, get_of_entryAt? hfits hx, hxs, hlength, hentry⟩
  · intro row step x hrow hstep
    obtain ⟨n, hset, hextent, hentries⟩ := exists_set hfits hrow hstep x
    refine ⟨n, hset, hextent, fun row' step' hrow' hstep' => ?_⟩
    have hthere := hentries row' step' hrow' hstep'
    split
    · next hsame =>
        rw [if_pos hsame] at hthere
        exact get_of_entryAt? (hfits.set hset) hthere
    · next hother =>
        rw [if_neg hother] at hthere
        obtain ⟨y, hy⟩ := m.exists_entryAt? hrow' hstep'
        rw [get_of_entryAt? hfits hy]
        exact get_of_entryAt? (hfits.set hset) (hthere.trans hy)
  · refine fun k => ⟨rfl, fun row step hrow hstep => ?_⟩
    obtain ⟨hk, hcols⟩ := Nat.lt_min.1 hstep
    obtain ⟨y, hy⟩ := m.exists_entryAt? hrow hcols
    rw [get_of_entryAt? hfits hy]
    refine get_of_entryAt? (hfits.truncate k) ?_
    rw [entryAt?_truncate, if_pos hk, hy]

namespace Sample

def twoRows : StepMatrix Float32 := ⟨2, 3, [1, 2, 3, 4, 5, 9], rfl⟩

/-- The first entry of the second row is another one, and the last column is gone. -/
def writtenAndCut : StepMatrix Float32 := ⟨2, 2, [1, 2, 7, 5], rfl⟩

theorem built_writtenAndCut : writtenAndCut.Built := by
  have hmade : ofEntries 2 3 twoRows.entries = .ok twoRows := rfl
  have hset : twoRows.set 1 0 7 = .ok ⟨2, 3, [1, 2, 3, 7, 5, 9], rfl⟩ := rfl
  exact .truncate (.set (.ofEntries hmade) hset) 2

end Sample

/-- A matrix that was written to and cut, and one of three rows without a column. -/
theorem built_matrices_are_grids_cut :
    Sample.writtenAndCut.Built ∧
    (∃ x xs, Sample.writtenAndCut.get 1 0 = .ok x ∧ Sample.writtenAndCut.row 1 = .ok xs ∧
      xs.length = 2 ∧ xs[0]? = some x) ∧
    (∃ n, Sample.writtenAndCut.set 0 1 9 = .ok n ∧ n.get 0 1 = .ok 9 ∧ n.get 1 0 = .ok 7) ∧
    (Sample.writtenAndCut.truncate 1).get 1 0 = .ok 7 ∧
    ∃ none : StepMatrix Float32, zeros 3 0 = .ok none ∧ ofTensor none.toTensor = .ok none ∧
      (none.truncate 5).extent = (3, 0) := by
  have hbuilt := Sample.built_writtenAndCut
  obtain ⟨-, hread, hwrite, hcut, -⟩ := built_matrices_are_grids hbuilt
  refine ⟨hbuilt, hread 1 0 (by decide) (by decide), ?_, (hcut 1).2 1 0 (by decide) (by decide), ?_⟩
  · obtain ⟨n, hset, -, hentries⟩ := hwrite 0 1 9 (by decide) (by decide)
    exact ⟨n, hset, hentries 0 1 (by decide) (by decide), hentries 1 0 (by decide) (by decide)⟩
  · have hnone : (zeros 3 0 : Except Abort (StepMatrix Float32)) = .ok ⟨3, 0, [], rfl⟩ := rfl
    obtain ⟨-, -, -, hcut, -, -, hback⟩ := built_matrices_are_grids (.zeros hnone)
    exact ⟨_, hnone, hback, (hcut 5).1⟩

end StepMatrix
end ActorCritic
