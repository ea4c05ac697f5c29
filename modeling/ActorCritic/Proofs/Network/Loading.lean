import Mathlib.Algebra.GroupWithZero.Nat
import Mathlib.Data.Nat.Find
import ActorCritic.Proofs.Action
import ActorCritic.Proofs.Network.Snapshot
import ActorCritic.Trainer.Gradient

/-!
Which snapshots a network takes, and what it says of the others. The layers of the network, the
tensors of the snapshot and the parameters have to be as many, and every tensor has to have the
shape of the parameter at its place; how the tensors are grouped into layers does not matter.
-/

namespace ActorCritic

theorem Count.sum_eq (xs : List Nat) :
    Count.sum xs = if xs.sum < limit then .ok xs.sum else .error (.overflow .add) := by
  -- Every partial sum has to be a count; the largest of them is the sum itself.
  have hfold : ∀ start, start < limit → xs.foldlM Count.add start =
      if start + xs.sum < limit then .ok (start + xs.sum) else .error (.overflow .add) := by
    induction xs with
    | nil =>
        intro start hstart
        rw [List.sum_nil, Nat.add_zero, if_pos hstart]
        rfl
    | cons x xs ih =>
        intro start hstart
        rw [List.foldlM_cons, List.sum_cons, ← Nat.add_assoc, Count.add]
        split
        · next hnext => exact ih _ hnext
        · next hnext =>
            rw [if_neg (by omega)]
            rfl
  have hsum := hfold 0 (Nat.pow_pos (by decide))
  rwa [Nat.zero_add] at hsum

namespace Network

variable {α ι ο : Type} {n m : Network α ι ο} {s v : Snapshot α}

/-- The tensor at a place has the shape of the parameter there, if there are both. -/
def FitsAt (n : Network α ι ο) (s : Snapshot α) (i : Nat) : Prop :=
  ∀ p t, n.params[i]? = some p → s.tensors[i]? = some t → p.value.shape = t.shape

/-- There is a tensor of the right shape for every parameter, and the layers of the network have
as many. -/
structure Fits (n : Network α ι ο) (s : Snapshot α) : Prop where
  layers : n.layerCounts.sum = s.tensorCount
  params : n.params.length = s.tensorCount
  shapes : ∀ i, n.FitsAt s i

/-- Another network, with the tensors of the snapshot in the parameters and no other difference. -/
structure TakesOver (n : Network α ι ο) (s : Snapshot α) (m : Network α ι ο) : Prop where
  values : m.values = s.tensors
  ids : m.params.map Param.id = n.params.map Param.id
  layerCounts : m.layerCounts = n.layerCounts
  run : m.run = n.run

/-- A rule for each thing that can be wrong with a snapshot, with those that are looked at before
ruled out, and one for a snapshot that fits. -/
inductive Loading (n : Network α ι ο) (s : Snapshot α) :
    Attempt ParamsError (Network α ι ο) → Prop where
  | overflow (far : Count.limit ≤ n.layerCounts.sum) :
      Loading n s (.error (.abort (.overflow .add)))
  | uncovered (near : n.layerCounts.sum < Count.limit)
      (layers : n.layerCounts.sum ≠ s.tensorCount) :
      Loading n s (.error (.error (.layout n.layerCounts.sum s.tensorCount)))
  | misfit (near : n.layerCounts.sum < Count.limit) (layers : n.layerCounts.sum = s.tensorCount)
      {i : Nat} {p : Param α} {t : Tensor α} (param : n.params[i]? = some p)
      (tensor : s.tensors[i]? = some t) (shape : p.value.shape ≠ t.shape)
      (before : ∀ j < i, n.FitsAt s j) :
      Loading n s (.error (.error (.paramShape i p.value.shape t.shape)))
  | surplus (near : n.layerCounts.sum < Count.limit) (layers : n.layerCounts.sum = s.tensorCount)
      (shapes : ∀ i, n.FitsAt s i) (params : n.params.length ≠ s.tensorCount) :
      Loading n s (.error (.error (.layout n.params.length s.tensorCount)))
  | loaded (near : n.layerCounts.sum < Count.limit) (fits : n.Fits s) {m : Network α ι ο}
      (takesOver : n.TakesOver s m) : Loading n s (.ok m)

theorem firstMisfit?_eq_none_of_forall {k : Nat} {params : List (Param α)}
    {tensors : List (Tensor α)}
    (h : ∀ (i : Nat) (p : Param α) (t : Tensor α), params[i]? = some p → tensors[i]? = some t →
      p.value.shape = t.shape) :
    firstMisfit? k params tensors = none := by
  induction params generalizing k tensors with
  | nil => cases tensors <;> rfl
  | cons p ps ih =>
      cases tensors with
      | nil => rfl
      | cons t ts =>
          rw [firstMisfit?, if_pos (h 0 p t rfl rfl)]
          exact ih fun i q u hq hu => h (i + 1) q u hq hu

theorem firstMisfit?_eq_some {k i : Nat} {params : List (Param α)} {tensors : List (Tensor α)}
    {p : Param α} {t : Tensor α} (hp : params[i]? = some p) (ht : tensors[i]? = some t)
    (hshape : p.value.shape ≠ t.shape)
    (hbefore : ∀ j < i, ∀ (q : Param α) (u : Tensor α), params[j]? = some q →
      tensors[j]? = some u → q.value.shape = u.shape) :
    firstMisfit? k params tensors = some (.paramShape (k + i) p.value.shape t.shape) := by
  induction params generalizing k i tensors with
  | nil => cases hp
  | cons q qs ih =>
      cases tensors with
      | nil => cases ht
      | cons u us =>
          cases i with
          | zero =>
              cases hp
              cases ht
              rw [firstMisfit?, if_neg hshape]
              rfl
          | succ i =>
              rw [firstMisfit?, if_pos (hbefore 0 (Nat.succ_pos i) q u rfl rfl), ih hp ht]
              · rw [Nat.add_assoc, Nat.add_comm 1]
              · exact fun j hj => hbefore (j + 1) (Nat.succ_lt_succ hj)

/-- A network is told by its parameters' identities and values, its layers and its function. -/
theorem TakesOver.eq_zipWith (h : n.TakesOver s m) (hlength : n.params.length = s.tensorCount) :
    { n with params := List.zipWith (fun p t => { p with value := t }) n.params s.tensors } =
      m := by
  obtain ⟨params, layerCounts, run⟩ := m
  obtain ⟨hvalues, hids, rfl, rfl⟩ := h
  congr 1
  have hcount : n.params.length = params.length := by
    simpa only [List.length_map] using congrArg List.length hids.symm
  apply List.ext_getElem
  · rw [List.length_zipWith, ← Snapshot.tensorCount, ← hlength, Nat.min_self, hcount]
  · intro i hzip hi
    have hn : i < n.params.length := hcount ▸ hi
    have hid : params[i].id = n.params[i].id := by
      simpa only [List.getElem?_map, List.getElem?_eq_getElem hi, List.getElem?_eq_getElem hn,
        Option.map_some, Option.some.injEq] using congrArg (·[i]?) hids
    have hvalue : s.tensors[i]? = some params[i].value := by
      simpa [Network.values, hi] using congrArg (·[i]?) hvalues.symm
    obtain ⟨_, hvalue⟩ := List.getElem?_eq_some_iff.1 hvalue
    rw [List.getElem_zipWith, hvalue, ← hid]

theorem takesOver_of_load (h : n.load s = .ok m) : n.TakesOver s m := by
  obtain ⟨-, hcounts, hvalues⟩ := load_eq_ok h
  obtain ⟨-, hlength, -, rfl⟩ := load_cases.1 h
  refine ⟨hvalues, ?_, hcounts, rfl⟩
  rw [List.map_zipWith]
  exact List.ext_getElem (by simp [hlength]) fun i _ _ => by simp

namespace Loading

theorem exists_outcome (n : Network α ι ο) (s : Snapshot α) : ∃ r, n.Loading s r := by
  by_cases far : Count.limit ≤ n.layerCounts.sum
  · exact ⟨_, overflow far⟩
  have near := Nat.not_le.1 far
  by_cases layers : n.layerCounts.sum = s.tensorCount
  · by_cases shapes : ∀ i, n.FitsAt s i
    · by_cases params : n.params.length = s.tensorCount
      · have hsum : Count.sum n.layerCounts = .ok n.params.length := by
          rw [Count.sum_eq, if_pos near, layers, params]
        have hnone := firstMisfit?_eq_none_of_forall (k := 0) shapes
        have hload := load_cases.2 ⟨hsum, params, hnone, rfl⟩
        exact ⟨_, loaded near ⟨layers, params, shapes⟩ (takesOver_of_load hload)⟩
      · exact ⟨_, surplus near layers shapes params⟩
    · classical
      have hmisfit := Classical.not_forall.1 shapes
      obtain ⟨p, t, hp, ht, hshape⟩ : ∃ (p : Param α) (t : Tensor α),
          n.params[Nat.find hmisfit]? = some p ∧ s.tensors[Nat.find hmisfit]? = some t ∧
            p.value.shape ≠ t.shape := by
        simpa only [FitsAt, Classical.not_forall, exists_prop] using Nat.find_spec hmisfit
      exact ⟨_, misfit near layers hp ht hshape fun j hj =>
        Classical.not_not.1 (Nat.find_min hmisfit hj)⟩
  · exact ⟨_, uncovered near layers⟩

/-- What a rule says is what comes of loading. -/
theorem load_eq {r : Attempt ParamsError (Network α ι ο)} (h : n.Loading s r) : n.load s = r := by
  have hsum (near : n.layerCounts.sum < Count.limit) :
      (liftM (Count.sum n.layerCounts) : Attempt ParamsError Nat) = .ok n.layerCounts.sum := by
    rw [Count.sum_eq, if_pos near]
    rfl
  cases h with
  | overflow far =>
      rw [load, Count.sum_eq, if_neg (Nat.not_lt.2 far)]
      rfl
  | uncovered near layers =>
      rw [load, hsum near, Attempt.ok_bind, if_pos layers]
      rfl
  | misfit near layers hp ht shape before =>
      have hmisfit := firstMisfit?_eq_some (k := 0) hp ht shape before
      rw [Nat.zero_add] at hmisfit
      rw [load, hsum near, Attempt.ok_bind, if_neg (not_not_intro layers), hmisfit]
      rfl
  | surplus near layers shapes params =>
      have hnone := firstMisfit?_eq_none_of_forall (k := 0) shapes
      rw [load, hsum near, Attempt.ok_bind, if_neg (not_not_intro layers), hnone]
      simp only [if_pos params]
      rfl
  | loaded near fits takesOver =>
      refine load_cases.2 ⟨?_, fits.params, ?_, takesOver.eq_zipWith fits.params⟩
      · rw [Count.sum_eq, if_pos near, fits.layers, fits.params]
      · exact firstMisfit?_eq_none_of_forall fits.shapes

end Loading

theorem load_eq_iff {r : Attempt ParamsError (Network α ι ο)} : n.load s = r ↔ n.Loading s r := by
  constructor
  · rintro rfl
    obtain ⟨r, h⟩ := Loading.exists_outcome n s
    rwa [h.load_eq]
  · exact Loading.load_eq

/-- What was loaded is what is read, grouped into the layers of the network. -/
theorem exists_weights_of_load (h : n.load s = .ok m) :
    ∃ v, m.weights = .ok v ∧ v.tensors = s.tensors ∧ v.layout = n.layerCounts := by
  obtain ⟨hsum, hcounts, hvalues⟩ := load_eq_ok h
  have hweights : m.weights = .ok _ := weights_eq_ok.2 ⟨hsum, rfl⟩
  refine ⟨_, hweights, ?_, ?_⟩
  · rw [tensors_weights hweights, hvalues]
  · rw [layout_weights hweights, hcounts]

/-- What a network says of itself leaves it as it is. -/
theorem load_own_weights (h : n.weights = .ok v) : n.load v = .ok n := by
  obtain ⟨m, hload⟩ := exists_load h rfl
  obtain ⟨hsum, hlength, hnone, -⟩ := load_cases.1 hload
  have hown : n.TakesOver v n := ⟨(tensors_weights h).symm, rfl, rfl, rfl⟩
  exact load_cases.2 ⟨hsum, hlength, hnone, hown.eq_zipWith hlength⟩

end Network

section Trainer

variable {σ κ β ι ο μ : Type}

/-- A trainer whose network refuses a snapshot says why, and is as it was. -/
theorem GradientTrainer.setWeights_eq_error {s : Snapshot Float32}
    {x y : GradientTrainer σ κ β ι ο μ × World Float32 σ} {e : Failure (Error Float32)}
    (h : Trainer.setWeights s x = (.error e, y)) :
    (∃ cause, x.1.network.load s = .error cause ∧ cause.map .params = e) ∧ y = x := by
  obtain h | ⟨network, u, -, h⟩ := Action.bind_eq_error.1 (Action.read_bind_eq.1 h)
  · obtain ⟨hload, rfl⟩ := Action.lift_eq.1 h
    exact ⟨Attempt.mapError_eq_error.1 hload, rfl⟩
  · cases h

end Trainer

namespace Network

variable {α ι ο : Type}

/-- A network whose layers have a number of parameters takes exactly the snapshots that fit. It
then has their tensors in its own layers and is otherwise the same, so that its own weights leave
it as it is. Of all faults the first is told, and a trainer with the network stays as it is. -/
theorem fitting_snapshots_load (n : Network α ι ο) (s : Snapshot α) :
    (∀ r, n.load s = r ↔ n.Loading s r) ∧
    (n.layerCounts.sum < Count.limit → ((∃ m, n.load s = .ok m) ↔ n.Fits s)) ∧
    (∀ m, n.load s = .ok m → n.TakesOver s m ∧
      ∃ v, m.weights = .ok v ∧ v.tensors = s.tensors ∧ v.layout = n.layerCounts) ∧
    (∀ v, n.weights = .ok v → n.load v = .ok n) ∧
    ∀ (σ κ β ι' ο' μ : Type) (x y : GradientTrainer σ κ β ι' ο' μ × World Float32 σ)
        (w : Snapshot Float32) (e : Failure (Error Float32)),
      Trainer.setWeights w x = (.error e, y) →
        (∃ cause, x.1.network.load w = .error cause ∧ cause.map .params = e) ∧ y = x := by
  refine ⟨fun r => load_eq_iff, fun near => ?_, fun m h => ?_, fun v => load_own_weights, ?_⟩
  · constructor
    · rintro ⟨m, h⟩
      cases load_eq_iff.1 h with
      | loaded near fits takesOver => exact fits
    · intro fits
      obtain ⟨r, h⟩ := Loading.exists_outcome n s
      cases h with
      | loaded near fits takesOver => exact ⟨_, (Loading.loaded near fits takesOver).load_eq⟩
      | overflow far => exact absurd near (Nat.not_lt.2 far)
      | uncovered near layers => exact absurd fits.layers layers
      | misfit near layers hp ht shape before => exact absurd (fits.shapes _ _ _ hp ht) shape
      | surplus near layers shapes params => exact absurd fits.params params
  · exact ⟨takesOver_of_load h, exists_weights_of_load h⟩
  · exact fun σ κ β ι' ο' μ x y w e => GradientTrainer.setWeights_eq_error

section Sample

/-- A layer of two parameters. -/
def pairedParams : Network Nat Unit Unit where
  params := [⟨7, .fill [2] 0⟩, ⟨3, .fill [1] 0⟩]
  layerCounts := [2]
  run _ _ := .error .refused

/-- The same shapes in two layers. -/
def splitPair : Snapshot Nat := ⟨[[.fill [2] 5], [.fill [1] 6]]⟩

def swappedPair : Snapshot Nat := ⟨[[.fill [1] 5, .fill [2] 6]]⟩

def paramlessTrainer : GradientTrainer Unit Unit Unit Unit Unit Unit where
  name := "value"
  network := ⟨[], [], fun _ _ => .error .refused⟩
  optimizer := .sgd
  memory := []
  schedule _ := 1
  score _ _ := .error (.abort .refused)
  source := ⟨fun w => (.ok (), w), fun _ stream => (none, stream)⟩
  trainStream := none
  evalStream := none
  step := 0
  checkpointer := none
  loggers := []
  history := []

theorem fitting_snapshots_load_split_pair :
    pairedParams.Fits splitPair ∧
    (∃ m, pairedParams.load splitPair = .ok m ∧ m.params.map Param.id = [7, 3] ∧
      m.weights = .ok ⟨[[.fill [2] 5, .fill [1] 6]]⟩) ∧
    pairedParams.load swappedPair = .error (.error (.paramShape 0 [2] [1])) ∧
    pairedParams.load ⟨[[.fill [2] 0, .fill [1] 0]]⟩ = .ok pairedParams ∧
    let x : GradientTrainer Unit Unit Unit Unit Unit Unit × World Float32 Unit :=
      (paramlessTrainer, ⟨(), .empty, [], 0⟩)
    Trainer.setWeights ⟨[[.fill [1] 1]]⟩ x = (.error (.error (.params (.layout 0 1))), x) := by
  obtain ⟨-, hfits, hloaded, hown, hrefused⟩ := fitting_snapshots_load pairedParams splitPair
  obtain ⟨hrules, -⟩ := fitting_snapshots_load pairedParams swappedPair
  refine ⟨(hfits (by decide)).1 ⟨_, rfl⟩, ⟨_, rfl, (hloaded _ rfl).1.ids, rfl⟩, ?_, ?_, ?_⟩
  · have hfirst : ∀ j < 0, pairedParams.FitsAt swappedPair j := fun j hj => absurd hj (by omega)
    have hmisfit : (Tensor.fill [2] 0).shape ≠ (Tensor.fill [1] 5).shape := by decide
    exact (hrules _).2 (.misfit (by decide) (by decide) rfl rfl hmisfit hfirst)
  · exact hown _ rfl
  · intro x
    have herror : (Trainer.setWeights ⟨[[.fill [1] 1]]⟩ x).1 =
        .error (.error (.params (.layout 0 1))) := rfl
    exact Prod.ext herror (hrefused _ _ _ _ _ _ x _ _ _ (Action.eq_of_fst herror)).2

/-- The layers are said to have more parameters than can be counted. -/
def countlessLayers : Network Nat Unit Unit where
  params := [⟨0, .fill [1] 0⟩, ⟨1, .fill [1] 0⟩]
  layerCounts := [Count.limit - 1, 1]
  run _ _ := .error .refused

/-- The layers do not cover the parameters, but no error says so. -/
theorem countless_layers_abort :
    let s : Snapshot Nat := ⟨[[.fill [1] 5, .fill [1] 6]]⟩
    countlessLayers.layerCounts.sum ≠ s.tensorCount ∧
    countlessLayers.load s ≠
      .error (.error (.layout countlessLayers.layerCounts.sum s.tensorCount)) ∧
    countlessLayers.load s = .error (.abort (.overflow .add)) := by
  intro s
  have habort : countlessLayers.load s = .error (.abort (.overflow .add)) :=
    Loading.load_eq (.overflow (by decide))
  refine ⟨by decide, ?_, habort⟩
  rw [habort]
  nofun

end Sample

end Network
end ActorCritic
