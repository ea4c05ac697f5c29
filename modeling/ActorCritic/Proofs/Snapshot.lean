import ActorCritic.Proofs.Attempt
import ActorCritic.Snapshot

/-!
What a copy of layers leaves in its target: the layers of the range are those of the source, all
others are as before, and every layer has as many tensors as before.
-/

namespace ActorCritic
namespace Snapshot

variable {α : Type}

/-- How many tensors each layer has. -/
def layout (s : Snapshot α) : List Nat := s.layers.map List.length

/-- Both snapshots have the layers `first`, …, `last - 1`, bit for bit the same. -/
structure SameWithin (first last : Nat) (a b : Snapshot α) : Prop where
  last_le_left : last ≤ a.layerCount
  last_le_right : last ≤ b.layerCount
  layer_eq : ∀ i, first ≤ i → i < last → a.layer i = b.layer i

/-- The snapshots differ in no layer but `first`, …, `last - 1`. -/
structure SameOutside (first last : Nat) (a b : Snapshot α) : Prop where
  layerCount_eq : a.layerCount = b.layerCount
  layer_eq : ∀ i, i < first ∨ last ≤ i → a.layer i = b.layer i

theorem SameWithin.symm {first last : Nat} {a b : Snapshot α} (h : a.SameWithin first last b) :
    b.SameWithin first last a :=
  ⟨h.last_le_right, h.last_le_left, fun i hf hl => (h.layer_eq i hf hl).symm⟩

theorem SameOutside.refl (first last : Nat) (a : Snapshot α) : a.SameOutside first last a :=
  ⟨rfl, fun _ _ => rfl⟩

theorem layer_eq_getElem (s : Snapshot α) {i : Nat} (h : i < s.layers.length) :
    s.layer i = s.layers[i] := by
  simp [layer, List.getD_eq_getElem?_getD, List.getElem?_eq_getElem h]

theorem ext_layers {a b : Snapshot α} (hcount : a.layerCount = b.layerCount)
    (h : ∀ i, i < a.layerCount → a.layer i = b.layer i) : a = b := by
  obtain ⟨as⟩ := a
  obtain ⟨bs⟩ := b
  congr 1
  apply List.ext_getElem hcount
  intro i ha hb
  rw [← layer_eq_getElem ⟨as⟩ ha, ← layer_eq_getElem ⟨bs⟩ hb]
  exact h i ha

theorem checkRange_eq_ok {first last layerCount : Nat} {u : Unit} :
    checkRange first last layerCount = .ok u ↔ first ≤ last ∧ last ≤ layerCount := by
  unfold checkRange
  split
  · next h =>
      simp
      omega
  · next h =>
      simp
      omega

theorem firstMismatch?_eq_none {source target : Snapshot α} {first last : Nat} :
    firstMismatch? source target first last = none ↔
      ∀ i, first ≤ i → i < last → source.shapes i = target.shapes i := by
  simp only [firstMismatch?, range, List.find?_eq_none, List.mem_range'_1, decide_eq_true_eq,
    ne_eq, Classical.not_not]
  constructor
  · intro h i hf hl
    exact h i ⟨hf, by omega⟩
  · rintro h i ⟨hf, hl⟩
    exact h i hf (by omega)

theorem copyLayers_eq_ok {source target r : Snapshot α} {first last : Nat} :
    source.copyLayers target first last = .ok r ↔
      first ≤ last ∧ last ≤ source.layerCount ∧ last ≤ target.layerCount ∧
      (∀ i, first ≤ i → i < last → source.shapes i = target.shapes i) ∧
      ⟨target.layers.take first ++ (source.layers.drop first).take (last - first) ++
        target.layers.drop last⟩ = r := by
  rw [← firstMismatch?_eq_none]
  unfold copyLayers
  simp only [Attempt.bind_eq_ok, checkRange_eq_ok]
  cases firstMismatch? source target first last with
  | none =>
      simp only [Attempt.pure_eq_ok, exists_const]
      constructor
      · rintro ⟨⟨hle, hs⟩, ⟨-, ht⟩, hr⟩
        exact ⟨hle, hs, ht, trivial, hr⟩
      · rintro ⟨hle, hs, ht, -, hr⟩
        exact ⟨⟨hle, hs⟩, ⟨hle, ht⟩, hr⟩
  | some i => simp [throw, throwThe, MonadExceptOf.throw]

theorem layer_copyLayers {source target r : Snapshot α} {first last : Nat}
    (h : source.copyLayers target first last = .ok r) (i : Nat) :
    r.layer i = if first ≤ i ∧ i < last then source.layer i else target.layer i := by
  obtain ⟨hle, hs, ht, -, rfl⟩ := copyLayers_eq_ok.1 h
  simp only [layer, layerCount, List.getD_eq_getElem?_getD] at *
  grind

theorem layerCount_copyLayers {source target r : Snapshot α} {first last : Nat}
    (h : source.copyLayers target first last = .ok r) : r.layerCount = target.layerCount := by
  obtain ⟨hle, hs, ht, -, rfl⟩ := copyLayers_eq_ok.1 h
  simp only [layerCount, List.length_append, List.length_take, List.length_drop] at *
  omega

theorem sameWithin_copyLayers {source target r : Snapshot α} {first last : Nat}
    (h : source.copyLayers target first last = .ok r) : source.SameWithin first last r := by
  obtain ⟨-, hs, ht, -, -⟩ := copyLayers_eq_ok.1 h
  refine ⟨hs, by rwa [layerCount_copyLayers h], ?_⟩
  intro i hf hl
  rw [layer_copyLayers h, if_pos ⟨hf, hl⟩]

theorem sameOutside_copyLayers {source target r : Snapshot α} {first last : Nat}
    (h : source.copyLayers target first last = .ok r) : target.SameOutside first last r := by
  refine ⟨(layerCount_copyLayers h).symm, ?_⟩
  intro i hi
  rw [layer_copyLayers h, if_neg (by omega)]

/-- The shapes of the tensors, layer by layer. -/
def outline (s : Snapshot α) : List (List (List Nat)) := s.layers.map (List.map Tensor.shape)

theorem layout_eq_map_outline (s : Snapshot α) : s.layout = s.outline.map List.length := by
  simp [layout, outline]

theorem map_shape_tensors (s : Snapshot α) : s.tensors.map Tensor.shape = s.outline.flatten :=
  List.map_flatten

/-- Layers are copied only where their shapes agree, so all shapes stay. -/
theorem outline_copyLayers {source target r : Snapshot α} {first last : Nat}
    (h : source.copyLayers target first last = .ok r) : r.outline = target.outline := by
  have hcount := layerCount_copyLayers h
  obtain ⟨-, -, -, hshapes, -⟩ := copyLayers_eq_ok.1 h
  apply List.ext_getElem
  · simpa [outline, layerCount] using hcount
  · intro i hr ht
    simp only [outline, List.length_map] at hr ht
    simp only [outline, List.getElem_map, ← layer_eq_getElem r hr, ← layer_eq_getElem target ht]
    rw [layer_copyLayers h]
    split
    · next hi => exact hshapes i hi.1 hi.2
    · rfl

theorem layout_copyLayers {source target r : Snapshot α} {first last : Nat}
    (h : source.copyLayers target first last = .ok r) : r.layout = target.layout := by
  rw [layout_eq_map_outline, outline_copyLayers h, layout_eq_map_outline]

/-- The range is one of both snapshots, and its layers have the same shapes in both. -/
structure Matches (first last : Nat) (source target : Snapshot α) : Prop where
  ordered : first ≤ last
  last_le_source : last ≤ source.layerCount
  last_le_target : last ≤ target.layerCount
  shapes_eq : ∀ i, first ≤ i → i < last → source.shapes i = target.shapes i

theorem exists_copyLayers_iff {source target : Snapshot α} {first last : Nat} :
    (∃ r, source.copyLayers target first last = .ok r) ↔ source.Matches first last target := by
  simp only [copyLayers_eq_ok]
  constructor
  · rintro ⟨_, hle, hs, ht, hshapes, -⟩
    exact ⟨hle, hs, ht, hshapes⟩
  · rintro ⟨hle, hs, ht, hshapes⟩
    exact ⟨_, hle, hs, ht, hshapes, rfl⟩

/-- A copy changes nothing exactly if the target had the source's layers already. -/
theorem copyLayers_eq_self_iff {source target r : Snapshot α} {first last : Nat}
    (h : source.copyLayers target first last = .ok r) :
    r = target ↔ source.SameWithin first last target := by
  constructor
  · rintro rfl
    exact sameWithin_copyLayers h
  · intro hsame
    apply ext_layers (layerCount_copyLayers h)
    intro i _
    rw [layer_copyLayers h]
    split
    · next hi => exact hsame.layer_eq i hi.1 hi.2
    · rfl

end Snapshot
end ActorCritic
