import ActorCritic.Proofs.Network.Snapshot
import ActorCritic.ValueTarget

/-!
What refreshes make of a value target: its weights and its state are those of the last snapshots
that fitted, its version counts those that fitted, and nothing of earlier ones is left.
-/

namespace ActorCritic

/-- The same tensors in the same order; grouped into layers alike, the snapshots are the same. -/
structure Snapshot.SameTensors {α : Type} (a b : Snapshot α) : Prop where
  tensors_eq : a.tensors = b.tensors
  eq_of_layout : a.layout = b.layout → a = b

theorem Snapshot.sameTensors_of_eq {α : Type} {a b : Snapshot α} (h : a.tensors = b.tensors) :
    a.SameTensors b := by
  refine ⟨h, fun hlayout => ?_⟩
  calc a = ⟨regroup a.layout a.tensors⟩ := congrArg Snapshot.mk (regroup_flatten a.layers).symm
    _ = ⟨regroup b.layout b.tensors⟩ := by rw [hlayout, h]
    _ = b := congrArg Snapshot.mk (regroup_flatten b.layers)

namespace ValueTarget

variable {α : Type} {t u : ValueTarget α} {weights state : Snapshot α}

/-- The target has the weights and the state that the snapshots were taken of. -/
structure Holds (t : ValueTarget α) (weights state : Snapshot α) : Prop where
  weights : ∃ w, t.weights = .ok w ∧ w.SameTensors weights
  state : t.state.SameTensors state

theorem refresh_eq_ok :
    t.refresh weights state = .ok u ↔
      t.network.load weights = .ok u.network ∧ state.tensorCount = 0 ∧
        u.version = t.version + 1 := by
  unfold refresh
  simp only [Attempt.bind_eq_ok, Attempt.pure_eq_ok]
  constructor
  · rintro ⟨loaded, hload, network, hstate, rfl⟩
    replace hstate := Attempt.mapError_eq_ok.1 hstate
    unfold Network.withState at hstate
    split at hstate
    · next hempty =>
        cases hstate
        exact ⟨hload, hempty, rfl⟩
    · cases hstate
  · rintro ⟨hload, hempty, hversion⟩
    refine ⟨u.network, hload, u.network, ?_, ?_⟩
    · rw [Network.withState, if_pos hempty]
      rfl
    · rw [← hversion]

theorem holds_of_refresh (h : t.refresh weights state = .ok u) : u.Holds weights state := by
  obtain ⟨hload, hempty, -⟩ := refresh_eq_ok.1 h
  obtain ⟨hsum, -, hvalues⟩ := Network.load_eq_ok hload
  have hweights : u.weights = .ok _ := Network.weights_eq_ok.2 ⟨hsum, rfl⟩
  refine ⟨⟨_, hweights, Snapshot.sameTensors_of_eq ?_⟩, Snapshot.sameTensors_of_eq ?_⟩
  · rw [Network.tensors_weights hweights, hvalues]
  · rw [List.eq_nil_of_length_eq_zero hempty]
    simp [ValueTarget.state, Network.state, Snapshot.empty, Snapshot.tensors]

theorem Holds.of_network_eq (h : t.Holds weights state) (hnetwork : u.network = t.network) :
    u.Holds weights state := by
  obtain ⟨⟨w, hw, hsame⟩, hstate⟩ := h
  refine ⟨⟨w, ?_, hsame⟩, ?_⟩
  · rw [ValueTarget.weights, hnetwork]
    exact hw
  · rw [ValueTarget.state, hnetwork]
    exact hstate

theorem version_of_refresh (h : t.refresh weights state = .ok u) : u.version = t.version + 1 :=
  (refresh_eq_ok.1 h).2.2

/-- Refreshes that succeed one after another, each with weights and a state. -/
def refreshes (t : ValueTarget α) (loads : List (Snapshot α × Snapshot α)) :
    Attempt ParamsError (ValueTarget α) :=
  loads.foldlM (fun t load => t.refresh load.1 load.2) t

theorem refreshes_append_eq_ok {loads more : List (Snapshot α × Snapshot α)} :
    t.refreshes (loads ++ more) = .ok u ↔
      ∃ v, t.refreshes loads = .ok v ∧ v.refreshes more = .ok u := by
  unfold refreshes
  rw [List.foldlM_append]
  exact Attempt.bind_eq_ok

theorem refreshes_singleton :
    t.refreshes [(weights, state)] = t.refresh weights state := by
  unfold refreshes
  simp

/-- The second target is the first after some refreshes. -/
def LeadsTo (t u : ValueTarget α) : Prop := ∃ loads, t.refreshes loads = .ok u

theorem LeadsTo.refl (t : ValueTarget α) : t.LeadsTo t := ⟨[], rfl⟩

theorem LeadsTo.refresh {v : ValueTarget α} (h : t.LeadsTo u)
    (hrefresh : u.refresh weights state = .ok v) : t.LeadsTo v := by
  obtain ⟨loads, hloads⟩ := h
  exact ⟨loads ++ [(weights, state)],
    refreshes_append_eq_ok.2 ⟨u, hloads, refreshes_singleton.trans hrefresh⟩⟩

/-- Refreshes change the network at most by loading weights into the one that was there first. -/
theorem LeadsTo.network (h : t.LeadsTo u) :
    u.network = t.network ∨ ∃ weights, t.network.load weights = .ok u.network := by
  obtain ⟨loads, hloads⟩ := h
  induction loads generalizing t with
  | nil =>
      cases hloads
      exact .inl rfl
  | cons load loads ih =>
      obtain ⟨v, hv, hloads⟩ := Attempt.bind_eq_ok.1 hloads
      obtain ⟨hload, -⟩ := refresh_eq_ok.1 hv
      obtain hsame | ⟨weights, hweights⟩ := ih hloads
      · rw [hsame]
        exact .inr ⟨load.1, hload⟩
      · rw [Network.load_load hload] at hweights
        exact .inr ⟨weights, hweights⟩

theorem version_of_refreshes {loads : List (Snapshot α × Snapshot α)}
    (h : t.refreshes loads = .ok u) : u.version = t.version + loads.length := by
  induction loads generalizing t with
  | nil =>
      cases h
      rfl
  | cons load loads ih =>
      obtain ⟨v, hv, h⟩ := Attempt.bind_eq_ok.1 h
      rw [ih h, version_of_refresh hv, List.length_cons]
      omega

end ValueTarget
end ActorCritic
