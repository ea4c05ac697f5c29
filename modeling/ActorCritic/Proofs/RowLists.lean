import ActorCritic.Proofs.Attempt
import ActorCritic.StepMatrix

/-!
Matrices from lists of rows. The rows are joined and only the number of all entries is compared with
what the first row promises. That number is right for rows of one length, which are then read back
one by one, and it can be right for others, which are accepted too and run into each other.
-/

namespace ActorCritic
namespace StepMatrix

variable {α : Type} {rows : List (List α)} {m : StepMatrix α}

/-- The length of the first row, zero if there is none. -/
def width (rows : List (List α)) : Nat := rows.head?.elim 0 List.length

/-- All rows have one length. -/
def SameLength (rows : List (List α)) : Prop := ∀ r ∈ rows, ∀ s ∈ rows, r.length = s.length

theorem sameLength_iff : SameLength rows ↔ ∀ r ∈ rows, r.length = width rows := by
  cases rows with
  | nil => exact ⟨nofun, nofun⟩
  | cons first rows =>
      constructor
      · exact fun h r hr => h r hr first List.mem_cons_self
      · exact fun h r hr s hs => (h r hr).trans (h s hs).symm

theorem SameLength.length_flatten (h : SameLength rows) :
    rows.flatten.length = rows.length * width rows :=
  length_flatten_of_forall (width rows) (sameLength_iff.1 h)

theorem ofEntries_eq_ok {height cols : Nat} {entries : List α} :
    ofEntries height cols entries = .ok m ↔
      height * cols < Count.limit ∧
        ∃ h : entries.length = height * cols, m = ⟨height, cols, entries, h⟩ := by
  unfold ofEntries
  constructor
  · intro h
    obtain ⟨size, hsize, h⟩ := Attempt.bind_eq_ok.1 h
    obtain ⟨hlimit, -⟩ := Count.mul_eq_ok.1 (Attempt.mapError_eq_ok.1 hsize)
    split at h
    · next hlength => exact ⟨hlimit, hlength, (Except.ok.inj h).symm⟩
    · cases h
  · rintro ⟨hlimit, hlength, rfl⟩
    refine Attempt.bind_eq_ok.2 ⟨_, Attempt.mapError_eq_ok.2 (Count.mul_eq_ok.2 ⟨hlimit, rfl⟩), ?_⟩
    rw [dif_pos hlength]
    rfl

theorem ofEntries_eq_error {height cols : Nat} {entries : List α} :
    ofEntries height cols entries = Attempt.fail (.matrixData height cols entries.length) ↔
      height * cols < Count.limit ∧ entries.length ≠ height * cols := by
  unfold ofEntries
  constructor
  · intro h
    obtain h | ⟨size, hsize, h⟩ := Attempt.bind_eq_error.1 h
    · obtain ⟨cause, -, hcause⟩ := Attempt.mapError_eq_error.1 h
      cases hcause
    · obtain ⟨hlimit, -⟩ := Count.mul_eq_ok.1 (Attempt.mapError_eq_ok.1 hsize)
      split at h
      · cases h
      · next hlength => exact ⟨hlimit, hlength⟩
  · rintro ⟨hlimit, hlength⟩
    refine Attempt.bind_eq_error.2 (.inr ⟨_, Attempt.mapError_eq_ok.2
      (Count.mul_eq_ok.2 ⟨hlimit, rfl⟩), ?_⟩)
    rw [dif_neg hlength]
    rfl

/-- A row is a block of the entries, if it is one of a matrix that fits in memory. -/
theorem row_eq_ok (hrows : m.rows < Count.limit) (hsize : m.entries.length < Count.limit) {i : Nat}
    (hi : i < m.rows) : m.row i = .ok ((m.entries.drop (i * m.cols)).take m.cols) := by
  have hlast : (i + 1) * m.cols ≤ m.entries.length := by
    rw [m.size_eq]
    exact Nat.mul_le_mul_right m.cols hi
  have hstep : (i + 1) * m.cols = i * m.cols + m.cols := Nat.succ_mul i m.cols
  have hfirst : Count.mul i m.cols = .ok (i * m.cols) := Count.mul_eq_ok.2 ⟨by omega, rfl⟩
  have hnext : Count.add i 1 = .ok (i + 1) := Count.add_eq_ok.2 ⟨by omega, rfl⟩
  have hend : Count.mul (i + 1) m.cols = .ok ((i + 1) * m.cols) :=
    Count.mul_eq_ok.2 ⟨by omega, rfl⟩
  simp only [row, hfirst, hnext, hend, Attempt.ok_bind]
  rw [if_pos hlast, show (i + 1) * m.cols - i * m.cols = m.cols by omega]
  rfl

/-- Joined rows of one length are cut where they were joined. -/
theorem take_drop_flatten {size : Nat} (h : ∀ r ∈ rows, r.length = size) {i : Nat}
    (hi : i < rows.length) : (rows.flatten.drop (i * size)).take size = rows[i] := by
  induction rows generalizing i with
  | nil => exact absurd hi (Nat.not_lt_zero i)
  | cons first rows ih =>
      have hfirst : first.length = size := h first List.mem_cons_self
      cases i with
      | zero => simp [← hfirst]
      | succ i =>
          rw [List.flatten_cons, Nat.succ_mul, Nat.add_comm, ← List.drop_drop,
            List.drop_left' hfirst]
          exact ih (fun r hr => h r (List.mem_cons_of_mem first hr)) (Nat.lt_of_succ_lt_succ hi)

/-- The matrix has the rows of the list. -/
def Keeps (m : StepMatrix α) (rows : List (List α)) : Prop :=
  m.rows = rows.length ∧ ∀ i (hi : i < rows.length), m.row i = .ok rows[i]

section Fits

variable (hrows : rows.length < Count.limit) (hsize : rows.flatten.length < Count.limit)
include hrows hsize

/-- A row that is read has as many entries as the first one, so rows that are kept have one
length. -/
theorem keeps_iff_sameLength (h : ofRows rows = .ok m) : m.Keeps rows ↔ SameLength rows := by
  obtain ⟨-, hlength, rfl⟩ := ofEntries_eq_ok.1 h
  let joined : StepMatrix α := ⟨rows.length, width rows, rows.flatten, hlength⟩
  have hread {i : Nat} (hi : i < rows.length) :
      joined.row i = .ok ((rows.flatten.drop (i * width rows)).take (width rows)) :=
    row_eq_ok hrows hsize hi
  constructor
  · rintro ⟨-, hkept⟩
    refine sameLength_iff.2 fun r hr => ?_
    obtain ⟨i, hi, rfl⟩ := List.mem_iff_getElem.1 hr
    have hlast : (i + 1) * width rows ≤ rows.flatten.length := by
      rw [hlength]
      exact Nat.mul_le_mul_right _ hi
    rw [← Except.ok.inj ((hread hi).symm.trans (hkept i hi)), List.length_take, List.length_drop]
    rw [Nat.succ_mul] at hlast
    exact Nat.min_eq_left (by omega)
  · intro hsame
    refine ⟨rfl, fun i hi => ?_⟩
    rw [← take_drop_flatten (sameLength_iff.1 hsame) hi]
    exact hread hi

/-- Rows are accepted exactly if they have as many entries together as rows of the length of the
first one would, and they are refused for that number otherwise. They are accepted and kept apart
exactly if all have one length. -/
theorem rows_are_kept_iff_same_length :
    ((∃ m, ofRows rows = .ok m) ↔ rows.flatten.length = rows.length * width rows) ∧
    (ofRows rows =
        Attempt.fail (.matrixData rows.length (width rows) rows.flatten.length) ↔
      rows.flatten.length ≠ rows.length * width rows ∧
        rows.length * width rows < Count.limit) ∧
    ((∃ m, ofRows rows = .ok m ∧ m.Keeps rows) ↔ SameLength rows) := by
  have haccepted : (∃ m, ofRows rows = .ok m) ↔
      rows.flatten.length = rows.length * width rows := by
    constructor
    · rintro ⟨m, h⟩
      exact (ofEntries_eq_ok.1 h).2.1
    · intro hlength
      exact ⟨_, ofEntries_eq_ok.2 ⟨hlength ▸ hsize, hlength, rfl⟩⟩
  refine ⟨haccepted, ofEntries_eq_error.trans And.comm, ?_⟩
  constructor
  · rintro ⟨m, h, hkeeps⟩
    exact (keeps_iff_sameLength hrows hsize h).1 hkeeps
  · intro hsame
    obtain ⟨m, h⟩ := haccepted.2 hsame.length_flatten
    exact ⟨m, h, (keeps_iff_sameLength hrows hsize h).2 hsame⟩

end Fits

namespace Sample

/-- The third row makes up for the second. -/
def unevenRows : List (List Float32) := [[1, 2], [3], [4, 5, 6]]

end Sample

/-- Rows of one length are kept, and rows of which the last one makes up for another are accepted
without being kept. -/
theorem rows_are_kept_iff_same_length_made_up :
    Sample.unevenRows.length < Count.limit ∧ Sample.unevenRows.flatten.length < Count.limit ∧
    (∃ m, ofRows [[1, 2], [(3 : Float32), 4]] = .ok m ∧ m.Keeps [[1, 2], [3, 4]]) ∧
    (∃ m, ofRows Sample.unevenRows = .ok m) ∧
    ¬∃ m, ofRows Sample.unevenRows = .ok m ∧ m.Keeps Sample.unevenRows := by
  have hrows : Sample.unevenRows.length < Count.limit := by decide
  have hsize : Sample.unevenRows.flatten.length < Count.limit := by decide
  obtain ⟨haccepted, -, hkept⟩ := rows_are_kept_iff_same_length hrows hsize
  have hrows' : [[1, 2], [(3 : Float32), 4]].length < Count.limit := by decide
  obtain ⟨-, -, hsquare⟩ := rows_are_kept_iff_same_length hrows' (by decide)
  refine ⟨hrows, hsize, hsquare.2 ?_, haccepted.2 rfl, fun h => ?_⟩
  · exact sameLength_iff.2 (by simp [width])
  · exact absurd (hkept.1 h [1, 2] (by simp [Sample.unevenRows]) [3] (by simp [Sample.unevenRows]))
      (by decide)

/-- Rows of different lengths are accepted, and the second one takes in the first entry of the
third. -/
theorem uneven_rows_are_accepted :
    ¬SameLength Sample.unevenRows ∧
    ∃ m, ofRows Sample.unevenRows = .ok m ∧ m.row 1 = .ok [3, 4] ∧
      Sample.unevenRows[1]? = some [3] := by
  refine ⟨fun h => ?_, _, rfl, rfl, rfl⟩
  exact absurd (h [1, 2] (by simp [Sample.unevenRows]) [3] (by simp [Sample.unevenRows]))
    (by decide)

end StepMatrix
end ActorCritic
