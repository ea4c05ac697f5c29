import ActorCritic.Network.Basic
import ActorCritic.Proofs.Attempt
import ActorCritic.Proofs.Snapshot

/-!
Networks and snapshots of their parameters. A snapshot that a network took and that kept its
grouping into layers is, once loaded, the snapshot that the network takes next.
-/

namespace ActorCritic

/-- A sum that succeeds is the sum. -/
theorem Count.eq_of_sum {xs : List Nat} {n : Nat} (h : Count.sum xs = .ok n) :
    xs.foldr (· + ·) 0 = n := by
  have hfold : ∀ start, xs.foldlM Count.add start = .ok n → start + xs.foldr (· + ·) 0 = n := by
    clear h
    induction xs with
    | nil =>
        intro start h
        exact Except.ok.inj h
    | cons x xs ih =>
        intro start h
        obtain ⟨next, hnext, h⟩ := Attempt.bind_eq_ok.1 h
        obtain ⟨-, rfl⟩ := Count.add_eq_ok.1 hnext
        rw [List.foldr_cons, ← Nat.add_assoc]
        exact ih _ h
  have hsum := hfold 0 h
  omega

section Regroup

variable {β : Type}

/-- Parts put together and cut at their own sizes are the parts again. -/
theorem regroup_flatten (parts : List (List β)) :
    regroup (parts.map List.length) parts.flatten = parts := by
  induction parts with
  | nil => rfl
  | cons part parts ih => simp [regroup, ih]

/-- Sizes that sum to a list's length are the sizes of the parts it is cut into. -/
theorem map_length_regroup {sizes : List Nat} {xs : List β}
    (h : sizes.foldr (· + ·) 0 = xs.length) :
    (regroup sizes xs).map List.length = sizes := by
  induction sizes generalizing xs with
  | nil => rfl
  | cons size sizes ih =>
      rw [List.foldr_cons] at h
      have hrest : sizes.foldr (· + ·) 0 = (xs.drop size).length := by
        rw [List.length_drop]
        omega
      rw [regroup, List.map_cons, ih hrest, List.length_take, Nat.min_eq_left (by omega)]

/-- Nothing is lost between the parts. -/
theorem flatten_regroup {sizes : List Nat} {xs : List β} (h : sizes.foldr (· + ·) 0 = xs.length) :
    (regroup sizes xs).flatten = xs := by
  induction sizes generalizing xs with
  | nil => exact (List.eq_nil_of_length_eq_zero h.symm).symm
  | cons size sizes ih =>
      rw [List.foldr_cons] at h
      have hrest : sizes.foldr (· + ·) 0 = (xs.drop size).length := by
        rw [List.length_drop]
        omega
      rw [regroup, List.flatten_cons, ih hrest, List.take_append_drop]

end Regroup

namespace Network

variable {α ι ο : Type}

theorem weights_eq_ok {n : Network α ι ο} {s : Snapshot α} :
    n.weights = .ok s ↔
      Count.sum n.layerCounts = .ok n.params.length ∧ ⟨regroup n.layerCounts n.values⟩ = s := by
  unfold weights
  simp only [Attempt.bind_eq_ok, Attempt.guard_eq_ok, Attempt.pure_eq_ok, ne_eq,
    Classical.not_not]
  constructor
  · rintro ⟨expected, hsum, rfl, hs⟩
    exact ⟨Attempt.mapError_eq_ok.1 hsum, hs⟩
  · rintro ⟨hsum, hs⟩
    exact ⟨_, Attempt.mapError_eq_ok.2 hsum, rfl, hs⟩

theorem layout_weights {n : Network α ι ο} {s : Snapshot α} (h : n.weights = .ok s) :
    s.layout = n.layerCounts := by
  obtain ⟨hsum, rfl⟩ := weights_eq_ok.1 h
  exact map_length_regroup (by rw [Count.eq_of_sum hsum, values, List.length_map])

theorem tensors_weights {n : Network α ι ο} {s : Snapshot α} (h : n.weights = .ok s) :
    s.tensors = n.values := by
  obtain ⟨hsum, rfl⟩ := weights_eq_ok.1 h
  exact flatten_regroup (by rw [Count.eq_of_sum hsum, values, List.length_map])

/-- A snapshot is loaded if it has as many tensors as the network has parameters, of the same shapes
one by one, and the network's layers cover its parameters. -/
theorem load_cases {n m : Network α ι ο} {s : Snapshot α} :
    n.load s = .ok m ↔
      Count.sum n.layerCounts = .ok n.params.length ∧ n.params.length = s.tensors.length ∧
        firstMisfit? 0 n.params s.tensors = none ∧
        { n with params := List.zipWith (fun p t => { p with value := t }) n.params s.tensors } =
          m := by
  unfold load
  constructor
  · intro h
    obtain ⟨expected, hsum, h⟩ := Attempt.bind_eq_ok.1 h
    obtain ⟨hcount, h⟩ := Attempt.guard_eq_ok.1 h
    cases hmisfit : firstMisfit? 0 n.params s.tensors with
    | some e => simp [hmisfit, Attempt.fail, bind, Except.bind] at h
    | none =>
        simp only [hmisfit, Attempt.guard_eq_ok, Attempt.pure_eq_ok] at h
        obtain ⟨hlength, hm⟩ := h
        simp only [ne_eq, Classical.not_not, Snapshot.tensorCount] at hcount hlength
        rw [hlength, ← hcount]
        exact ⟨Attempt.mapError_eq_ok.1 hsum, rfl, rfl, hm⟩
  · rintro ⟨hsum, hlength, hmisfit, hm⟩
    refine Attempt.bind_eq_ok.2 ⟨_, Attempt.mapError_eq_ok.2 hsum, ?_⟩
    refine Attempt.guard_eq_ok.2 ⟨not_not_intro hlength, ?_⟩
    simp only [hmisfit, Attempt.guard_eq_ok, Attempt.pure_eq_ok]
    exact ⟨not_not_intro hlength, hm⟩

theorem firstMisfit?_eq_none {index : Nat} {params : List (Param α)} {tensors : List (Tensor α)}
    (h : params.map (·.value.shape) = tensors.map Tensor.shape) :
    firstMisfit? index params tensors = none := by
  induction params generalizing index tensors with
  | nil => cases tensors <;> rfl
  | cons p ps ih =>
      cases tensors with
      | nil => cases h
      | cons t ts =>
          obtain ⟨hshape, hrest⟩ := List.cons.inj h
          rw [firstMisfit?, if_pos hshape]
          exact ih hrest

/-- A network takes every snapshot with the shapes of its own. -/
theorem exists_load {n : Network α ι ο} {s v : Snapshot α} (hv : n.weights = .ok v)
    (h : s.outline = v.outline) : ∃ m, n.load s = .ok m := by
  have hshapes : n.params.map (·.value.shape) = s.tensors.map Tensor.shape := by
    calc n.params.map (·.value.shape)
        = v.tensors.map Tensor.shape := by rw [tensors_weights hv, values, List.map_map]; rfl
      _ = s.tensors.map Tensor.shape := by simp only [Snapshot.map_shape_tensors, h]
  have hlength : n.params.length = s.tensors.length := by
    simpa only [List.length_map] using congrArg List.length hshapes
  exact ⟨_, load_cases.2 ⟨(weights_eq_ok.1 hv).1, hlength, firstMisfit?_eq_none hshapes, rfl⟩⟩

/-- Loading keeps the network's layers, and puts the snapshot's tensors into the parameters. -/
theorem load_eq_ok {n m : Network α ι ο} {s : Snapshot α} (h : n.load s = .ok m) :
    Count.sum m.layerCounts = .ok m.params.length ∧ m.layerCounts = n.layerCounts ∧
      m.values = s.tensors := by
  obtain ⟨hsum, hlength, -, rfl⟩ := load_cases.1 h
  refine ⟨?_, rfl, ?_⟩
  · rw [List.length_zipWith, ← hlength, Nat.min_self]
    exact hsum
  · apply List.ext_getElem
    · simp [values, hlength]
    · intro i _ _
      simp [values]

/-- The parameters that a fitting snapshot was loaded into take the same snapshots as before. -/
theorem firstMisfit?_loaded {index other : Nat} {params : List (Param α)}
    {loaded tensors : List (Tensor α)} (hlength : params.length = loaded.length)
    (hfits : firstMisfit? other params loaded = none) :
    firstMisfit? index (List.zipWith (fun p t => { p with value := t }) params loaded) tensors =
      firstMisfit? index params tensors := by
  induction params generalizing index other loaded tensors with
  | nil => simp
  | cons p ps ih =>
      cases loaded with
      | nil => cases hlength
      | cons l ls =>
          rw [firstMisfit?] at hfits
          split at hfits
          · next hshape =>
              cases tensors with
              | nil => simp [firstMisfit?]
              | cons t ts =>
                  rw [List.zipWith_cons_cons, firstMisfit?, firstMisfit?, hshape,
                    ih (Nat.succ.inj hlength) hfits]
          · cases hfits

theorem zipWith_loaded {params : List (Param α)} {loaded : List (Tensor α)}
    (hlength : params.length = loaded.length) (tensors : List (Tensor α)) :
    List.zipWith (fun p t => { p with value := t })
        (List.zipWith (fun p t => { p with value := t }) params loaded) tensors =
      List.zipWith (fun p t => { p with value := t }) params tensors := by
  induction params generalizing loaded tensors with
  | nil => simp
  | cons p ps ih =>
      cases loaded with
      | nil => cases hlength
      | cons l ls =>
          cases tensors with
          | nil => simp
          | cons t ts => simp [ih (Nat.succ.inj hlength)]

/-- Loading leaves no trace of the values that were there before: a second snapshot is taken or
refused, and changes the network, as if it were the first. -/
theorem load_load {n m : Network α ι ο} {s : Snapshot α} (h : n.load s = .ok m)
    (s' : Snapshot α) : m.load s' = n.load s' := by
  obtain ⟨-, hlength, hmisfit, rfl⟩ := load_cases.1 h
  simp only [load, firstMisfit?_loaded hlength hmisfit, zipWith_loaded hlength,
    List.length_zipWith, ← hlength, Nat.min_self]

theorem weights_of_load {n m : Network α ι ο} {s v : Snapshot α} (h : n.load s = .ok m)
    (hv : n.weights = .ok v) (hlayout : s.layout = v.layout) : m.weights = .ok s := by
  obtain ⟨hsum, hcounts, hvalues⟩ := load_eq_ok h
  refine weights_eq_ok.2 ⟨hsum, ?_⟩
  rw [hcounts, hvalues, ← layout_weights hv, ← hlayout]
  exact congrArg Snapshot.mk (regroup_flatten s.layers)

/-- The state of a network has no tensors, so only its layers can differ from another's. -/
theorem layout_state (n : Network α ι ο) :
    n.state.layout = List.replicate n.layerCounts.length 0 := by
  simp [state, Snapshot.empty, Snapshot.layout]

theorem state_eq_of_layout {n : Network α ι ο} {s : Snapshot α}
    (h : s.layout = n.state.layout) : n.state = s := by
  obtain ⟨layers⟩ := s
  rw [layout_state] at h
  refine congrArg Snapshot.mk (Eq.symm (List.eq_replicate_iff.2 ?_))
  obtain ⟨hlength, hempty⟩ := List.eq_replicate_iff.1 h
  refine ⟨by simpa [Snapshot.layout] using hlength, ?_⟩
  intro layer hlayer
  exact List.eq_nil_of_length_eq_zero (hempty _ (List.mem_map_of_mem hlayer))

theorem withState_of_layout {n : Network α ι ο} {s : Snapshot α}
    (h : s.layout = n.state.layout) : n.withState s = .ok n := by
  have hempty : n.state.tensorCount = 0 := by
    simp [state, Snapshot.empty, Snapshot.tensorCount, Snapshot.tensors]
  rw [withState, ← state_eq_of_layout h, if_pos hempty]

end Network
end ActorCritic
