import ActorCritic.Count
import ActorCritic.Error.Shape
import ActorCritic.Tensor

/-!
Matrices with a row per episode slice and a column per time step. Entries lie row after row,
and a read at a row and a column is a read at the position `row * cols + col`: a column past
the end of a row reaches into the next one, and only a position past the last entry is out of
bounds.
-/

namespace ActorCritic

structure StepMatrix (α : Type) where
  rows : Nat
  cols : Nat
  entries : List α
  size_eq : entries.length = rows * cols
deriving DecidableEq

namespace StepMatrix

variable {α β : Type}

/-- Fails unless there is exactly one entry per row and column. -/
def ofEntries (rows cols : Nat) (entries : List α) : Attempt ShapeError (StepMatrix α) := do
  let _ ← Count.mul rows cols
  if h : entries.length = rows * cols then return ⟨rows, cols, entries, h⟩
  else Attempt.fail (.matrixData rows cols entries.length)

/-- The number of entries from which on no memory can be reserved for them. -/
def entryLimit : Nat := Nat.pow 2 61

def fill (rows cols : Nat) (x : α) : StepMatrix α :=
  ⟨rows, cols, List.replicate (rows * cols) x, List.length_replicate⟩

def zeros [Zero α] (rows cols : Nat) : Except Abort (StepMatrix α) := do
  let size ← Count.mul rows cols
  if size < entryLimit then return fill rows cols 0 else throw .refused

/-- The rows one after another; the first row gives the number of columns. -/
def ofRows (rows : List (List α)) : Attempt ShapeError (StepMatrix α) :=
  ofEntries rows.length (rows.head?.elim 0 List.length) rows.flatten

def extent (m : StepMatrix α) : Nat × Nat := (m.rows, m.cols)

def position (m : StepMatrix α) (row col : Nat) : Except Abort Nat := do
  Count.add (← Count.mul row m.cols) col

def get (m : StepMatrix α) (row col : Nat) : Except Abort α := do
  let i ← m.position row col
  match m.entries[i]? with
  | some x => return x
  | none => throw (.outOfBounds m.entries.length i)

def set (m : StepMatrix α) (row col : Nat) (x : α) : Except Abort (StepMatrix α) := do
  let i ← m.position row col
  if i < m.entries.length then
    return { m with entries := m.entries.set i x, size_eq := by simp [m.size_eq] }
  else throw (.outOfBounds m.entries.length i)

def row (m : StepMatrix α) (row : Nat) : Except Abort (List α) := do
  let first ← Count.mul row m.cols
  let last ← Count.mul (← Count.add row 1) m.cols
  if last ≤ m.entries.length then return (m.entries.drop first).take (last - first)
  else throw .refused

/-- Keeps the first columns, all of them when there are fewer. -/
def truncate (m : StepMatrix α) (cols : Nat) : StepMatrix α :=
  ⟨m.rows, min cols m.cols, keepInBlocks m.cols m.rows (min cols m.cols) m.entries,
    length_keepInBlocks m.size_eq (Nat.min_le_right _ _)⟩

/-- The first columns as a range of a tensor. A range that drops columns may not be empty. -/
def timePrefix (m : StepMatrix α) (length : Nat) : Except Abort (StepMatrix α) :=
  if m.cols ≤ length then .ok m
  else if length = 0 ∨ m.rows = 0 then .error .refused
  else .ok (m.truncate length)

def map (f : α → β) (m : StepMatrix α) : StepMatrix β :=
  ⟨m.rows, m.cols, m.entries.map f, by simp [m.size_eq]⟩

/-- Same extents and equal numbers, so that a matrix that holds NaN equals none. -/
def equals [BEq α] (a b : StepMatrix α) : Bool :=
  a.rows == b.rows && a.cols == b.cols && a.entries == b.entries

def toTensor (m : StepMatrix α) : Tensor α :=
  ⟨[m.rows, m.cols], m.entries, by simp [m.size_eq]⟩

def ofTensor? (t : Tensor α) : Option (StepMatrix α) :=
  match h : t.shape with
  | [rows, cols] => some ⟨rows, cols, t.entries, by simp [t.size_eq, h]⟩
  | _ => none

/-- The matrix of a tensor that was read back, which is checked like any other list of entries. -/
def ofTensor (t : Tensor α) : Attempt ShapeError (StepMatrix α) :=
  match t.shape with
  | [rows, cols] => ofEntries rows cols t.entries
  | _ => .error (.abort .refused)

section Statistics

variable [Scalar α]

/-- Zero when there are no entries. -/
def mean (m : StepMatrix α) : α :=
  if m.entries.isEmpty then 0
  else Scalar.sum m.entries / Scalar.ofCount m.entries.length

/-- The population standard deviation, zero when there are no entries. -/
def std (m : StepMatrix α) : α :=
  if m.entries.isEmpty then 0
  else
    let mean := m.mean
    Scalar.sqrt
      (Scalar.sum (m.entries.map fun x => (x - mean) * (x - mean)) /
        Scalar.ofCount m.entries.length)

/-- Centres the entries and divides them by their deviation, `epsilon` added. -/
def normalize (m : StepMatrix α) (epsilon : α) : StepMatrix α :=
  let mean := m.mean
  let std := m.std
  m.map fun x => (x - mean) / (std + epsilon)

end Statistics

section Scan

abbrev Row (α : Type) (n : Nat) := { xs : List α // xs.length = n }

/-- Reads at `start`, `start + 1`, … and stops at the first abort. -/
def readUp (f : Nat → Except Abort α) : (start count : Nat) → Except Abort (Row α count)
  | _, 0 => .ok ⟨[], rfl⟩
  | start, count + 1 => do
      let x ← f start
      let xs ← readUp f (start + 1) count
      return ⟨x :: xs.1, by simp [xs.2]⟩

/-- Reads at `count - 1`, …, `0` and stops at the first abort; the reads are returned in the
order of their positions. -/
def readDown (f : Nat → Except Abort α) : (count : Nat) → Except Abort (Row α count)
  | 0 => .ok ⟨[], rfl⟩
  | count + 1 => do
      let x ← f count
      let xs ← readDown f count
      return ⟨xs.1 ++ [x], by simp [xs.2]⟩

/-- The matrix whose rows are computed one after another. -/
def tabulate (rows cols : Nat) (f : Nat → Except Abort (Row α cols)) :
    Except Abort (StepMatrix α) := do
  let lines ← readUp f 0 rows
  return ⟨rows, cols, (lines.1.map Subtype.val).flatten, by
    rw [length_flatten_of_forall cols]
    · simp [lines.2]
    · intro b hb
      obtain ⟨r, _, rfl⟩ := List.mem_map.1 hb
      exact r.2⟩

end Scan

end StepMatrix
end ActorCritic
