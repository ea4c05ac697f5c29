/-!
Row-major data as consecutive blocks of one size: cutting a list into blocks, keeping the first
entries of every block, and adding blocks entry by entry.
-/

namespace ActorCritic

variable {α : Type}

/-- The first `count` blocks of `size` entries each. -/
def blocks (size : Nat) : (count : Nat) → List α → List (List α)
  | 0, _ => []
  | count + 1, xs => xs.take size :: blocks size count (xs.drop size)

@[simp] theorem length_blocks (size count : Nat) (xs : List α) :
    (blocks size count xs).length = count := by
  induction count generalizing xs with
  | zero => rfl
  | succ n ih => simp [blocks, ih]

theorem length_of_mem_blocks {size count : Nat} {xs b : List α}
    (h : xs.length = count * size) (hb : b ∈ blocks size count xs) : b.length = size := by
  induction count generalizing xs with
  | zero => simp [blocks] at hb
  | succ n ih =>
      have hxs : xs.length = n * size + size := by rw [h, Nat.succ_mul]
      cases hb with
      | head => simp; omega
      | tail _ hb => exact ih (by simp; omega) hb

theorem flatten_blocks {size count : Nat} {xs : List α} (h : xs.length = count * size) :
    (blocks size count xs).flatten = xs := by
  induction count generalizing xs with
  | zero => simpa [blocks] using (List.eq_nil_of_length_eq_zero (by simpa using h)).symm
  | succ n ih =>
      have hxs : xs.length = n * size + size := by rw [h, Nat.succ_mul]
      simp [blocks, @ih (xs.drop size) (by simp; omega)]

theorem length_flatten_of_forall (size : Nat) {bs : List (List α)}
    (h : ∀ b ∈ bs, b.length = size) : bs.flatten.length = bs.length * size := by
  induction bs with
  | nil => simp
  | cons b bs ih =>
      simp [h b (by simp), ih fun c hc => h c (by simp [hc]), Nat.succ_mul, Nat.add_comm]

/-- The first `keep` entries of every block. -/
def keepInBlocks (size count keep : Nat) (xs : List α) : List α :=
  ((blocks size count xs).map (·.take keep)).flatten

theorem length_keepInBlocks {size count keep : Nat} {xs : List α}
    (h : xs.length = count * size) (hk : keep ≤ size) :
    (keepInBlocks size count keep xs).length = count * keep := by
  rw [keepInBlocks, length_flatten_of_forall keep, List.length_map, length_blocks]
  intro b hb
  obtain ⟨c, hc, rfl⟩ := List.mem_map.1 hb
  rw [List.length_take, length_of_mem_blocks h hc, Nat.min_eq_left hk]

/-- The sum of blocks of `size` entries, entry by entry. -/
def addBlocks [Zero α] [Add α] (size : Nat) : List (List α) → List α
  | [] => List.replicate size 0
  | [b] => b
  | b :: bs => List.zipWith (· + ·) b (addBlocks size bs)

theorem length_addBlocks [Zero α] [Add α] {size : Nat} {bs : List (List α)}
    (h : ∀ b ∈ bs, b.length = size) : (addBlocks size bs).length = size := by
  induction bs with
  | nil => simp [addBlocks]
  | cons b bs ih =>
      have hb := h b (by simp)
      have hbs := ih fun c hc => h c (by simp [hc])
      cases bs with
      | nil => simpa [addBlocks] using hb
      | cons c cs => simp [addBlocks, hb, hbs]

end ActorCritic
