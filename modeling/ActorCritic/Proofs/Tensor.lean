import ActorCritic.Tensor

/-!
Tensors of one shape as functions of the position of an entry. Between equal shapes nothing is
repeated and nothing is summed, so operations on such tensors do not fail and work position by
position.
-/

namespace ActorCritic
namespace Tensor

variable {α β γ : Type}

theorem commonShape?_self (shape : List Nat) : commonShape? shape shape = some shape := by
  induction shape with
  | nil => rfl
  | cons extent shape ih => simp [commonShape?, ih]

theorem stretches_self (shape : List Nat) : Stretches shape shape := by
  induction shape with
  | nil => trivial
  | cons extent shape ih => exact ⟨.inl rfl, ih⟩

/-- What leaves every block as it is leaves the whole as it is. -/
theorem flatten_map_blocks {size count : Nat} {f : List α → List α} {xs : List α}
    (h : xs.length = count * size) (hf : ∀ block, block.length = size → f block = block) :
    ((blocks size count xs).map f).flatten = xs := by
  have hsame : ∀ block ∈ blocks size count xs, f block = id block :=
    fun block hblock => hf block (length_of_mem_blocks h hblock)
  rw [List.map_congr_left hsame, List.map_id, flatten_blocks h]

theorem stretch_self {shape : List Nat} {xs : List α} (h : xs.length = entryCount shape) :
    stretch shape shape xs = xs := by
  induction shape generalizing xs with
  | nil => rfl
  | cons extent shape ih =>
      rw [stretch, if_pos rfl]
      exact flatten_map_blocks h fun _ => ih

theorem collapse_self [Zero α] [Add α] {shape : List Nat} {xs : List α}
    (h : xs.length = entryCount shape) : collapse shape shape xs = xs := by
  induction shape generalizing xs with
  | nil => rfl
  | cons extent shape ih =>
      rw [collapse, if_pos rfl]
      exact flatten_map_blocks h fun _ => ih

/-- The tensor of a function of the position. -/
def ofFn (shape : List Nat) (f : Nat → α) : Tensor α :=
  ⟨shape, (List.range (entryCount shape)).map f, by simp⟩

theorem eq_of_entries {s t : Tensor α} (hshape : s.shape = t.shape)
    (hentries : s.entries = t.entries) : s = t := by
  cases s
  cases hshape
  cases hentries
  rfl

theorem shape_ofFn (shape : List Nat) (f : Nat → α) : (ofFn shape f).shape = shape := rfl

theorem map_ofFn (shape : List Nat) (f : Nat → α) (g : α → β) :
    (ofFn shape f).map g = ofFn shape fun i => g (f i) :=
  eq_of_entries rfl (List.map_map ..)

theorem combine_ofFn (h : α → β → γ) (shape : List Nat) (f : Nat → α) (g : Nat → β) :
    combine h (ofFn shape f) (ofFn shape g) = .ok (ofFn shape fun i => h (f i) (g i)) := by
  have hself : commonShape? (ofFn shape f).shape (ofFn shape g).shape = some shape :=
    commonShape?_self shape
  unfold combine
  split
  · next hnone => cases hself.symm.trans hnone
  · next common hcommon =>
      obtain rfl := Option.some.inj (hself.symm.trans hcommon)
      refine congrArg Except.ok (eq_of_entries rfl ?_)
      have hf : stretch shape shape (ofFn shape f).entries = (ofFn shape f).entries :=
        stretch_self (ofFn shape f).size_eq
      have hg : stretch shape shape (ofFn shape g).entries = (ofFn shape g).entries :=
        stretch_self (ofFn shape g).size_eq
      calc List.zipWith h (stretch shape shape (ofFn shape f).entries)
            (stretch shape shape (ofFn shape g).entries)
          = List.zipWith h (ofFn shape f).entries (ofFn shape g).entries := by rw [hf, hg]
        _ = (ofFn shape fun i => h (f i) (g i)).entries :=
            (List.zipWith_map ..).trans List.zipWith_self

theorem sumTo_ofFn [Zero α] [Add α] (shape : List Nat) (f : Nat → α) :
    (ofFn shape f).sumTo shape = .ok (ofFn shape f) :=
  (dif_pos (stretches_self shape)).trans
    (congrArg Except.ok (eq_of_entries rfl (collapse_self (ofFn shape f).size_eq)))

section Entry

variable [Zero α]

/-- The entry at a position, zero past the last. -/
def entry (t : Tensor α) (i : Nat) : α := t.entries.getD i 0

theorem entry_ofFn {shape : List Nat} (f : Nat → α) {i : Nat} (h : i < entryCount shape) :
    (ofFn shape f).entry i = f i := by
  simp [entry, ofFn, h]

theorem ofFn_entry {t : Tensor α} {shape : List Nat} (h : t.shape = shape) :
    ofFn shape t.entry = t := by
  subst h
  refine eq_of_entries rfl (List.ext_getElem (by simp [ofFn, t.size_eq]) fun i _ hi => ?_)
  simp [ofFn, entry, hi]

end Entry

end Tensor
end ActorCritic
