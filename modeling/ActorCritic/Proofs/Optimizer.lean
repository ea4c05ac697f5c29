import ActorCritic.Optimizer
import ActorCritic.Proofs.Attempt

/-!
What an update reads of the optimizer's memory, and what it leaves there, whatever the rule. It
reads and replaces what is remembered of the parameters that it moves, and of no others. So two
memories that agree on the parameters of a network cannot be told apart by training the network. A
rule that counts its updates is never made to forget them: it counts on from where it was.
-/

namespace ActorCritic

variable {α β μ : Type}

namespace OptimizerMemory

variable {i : Nat} {ids : List Nat} {memory memory' : OptimizerMemory μ}

/-- Of the parameters the same is remembered in both, or nothing. -/
def AgreeOn (ids : List Nat) (memory memory' : OptimizerMemory μ) : Prop :=
  ∀ i ∈ ids, memory.lookup i = memory'.lookup i

/-- The number of updates of a parameter, as it is remembered. -/
def updatesOf (memory : OptimizerMemory μ) (updates : μ → Nat) (i : Nat) : Nat :=
  (memory.lookup i).elim 0 updates

theorem AgreeOn.refl (ids : List Nat) (memory : OptimizerMemory μ) : AgreeOn ids memory memory :=
  fun _ _ => rfl

theorem lookup_filter_ne (memory : OptimizerMemory μ) (i j : Nat) :
    (memory.filter fun entry => entry.1 ≠ i).lookup j =
      if j = i then none else memory.lookup j := by
  induction memory with
  | nil => simp
  | cons entry memory ih =>
      obtain ⟨k, m⟩ := entry
      by_cases hk : k = i
      · subst hk
        by_cases hj : j = k
        · simpa [hj] using ih
        · simpa [hj, List.lookup_cons, beq_eq_false_iff_ne.2 hj] using ih
      · by_cases hj : j = k
        · simp [hk, hj]
        · simpa [hk, List.lookup_cons, beq_eq_false_iff_ne.2 hj] using ih

theorem lookup_remember (memory : OptimizerMemory μ) (i j : Nat) (remembered : Option μ) :
    (memory.remember i remembered).lookup j = if j = i then remembered else memory.lookup j := by
  unfold remember
  cases remembered with
  | none => exact lookup_filter_ne memory i j
  | some m =>
      change List.lookup j ((i, m) :: memory.filter _) = _
      rw [List.lookup_cons, lookup_filter_ne]
      by_cases hj : j = i
      · simp [hj]
      · simp [hj, beq_eq_false_iff_ne.2 hj]

theorem AgreeOn.remember (h : AgreeOn ids memory memory') (remembered : Option μ) :
    AgreeOn ids (memory.remember i remembered) (memory'.remember i remembered) := by
  intro j hj
  rw [lookup_remember, lookup_remember, h j hj]

end OptimizerMemory

namespace Optimizer

open OptimizerMemory

section Rule

variable {o : Optimizer α μ} {rate : α} {p q : Param α} {params moved : List (Param α)}
  {gradient : Tensor α} {gradients : List (Tensor α)} {i : Nat} {ids : List Nat}
  {memory memory' rest : OptimizerMemory μ}

/-- A parameter is moved by its value, its gradient and what is remembered of it. -/
theorem updateParam_eq_ok :
    o.updateParam rate p gradient memory = .ok (q, rest) ↔
      ∃ value remembered,
        o.move rate p.value gradient (memory.lookup p.id) = .ok (value, remembered) ∧
        { p with value := value } = q ∧ memory.remember p.id remembered = rest := by
  constructor
  · intro h
    obtain ⟨⟨value, remembered⟩, hmove, h⟩ := Attempt.bind_eq_ok.1 h
    obtain ⟨hq, hrest⟩ := Prod.mk.inj (Attempt.pure_eq_ok.1 h)
    exact ⟨value, remembered, hmove, hq, hrest⟩
  · rintro ⟨value, remembered, hmove, rfl, rfl⟩
    exact Attempt.bind_eq_ok.2 ⟨(value, remembered), hmove, rfl⟩

theorem id_updateParam (h : o.updateParam rate p gradient memory = .ok (q, rest)) :
    q.id = p.id := by
  obtain ⟨_, _, -, rfl, -⟩ := updateParam_eq_ok.1 h
  rfl

/-- Both attempts fail alike, or they give the same, and memories that agree. -/
inductive SameMove (ids : List Nat) :
    Except Abort (β × OptimizerMemory μ) → Except Abort (β × OptimizerMemory μ) → Prop
  | failed (a : Abort) : SameMove ids (.error a) (.error a)
  | moved {x : β} {memory memory' : OptimizerMemory μ} (agree : AgreeOn ids memory memory') :
      SameMove ids (.ok (x, memory)) (.ok (x, memory'))

theorem updateParam_sameMove (hp : p.id ∈ ids) (h : AgreeOn ids memory memory') :
    SameMove ids (o.updateParam rate p gradient memory)
      (o.updateParam rate p gradient memory') := by
  rw [updateParam, updateParam, h p.id hp]
  cases o.move rate p.value gradient (memory'.lookup p.id) with
  | error a => exact .failed a
  | ok result => exact .moved (h.remember result.2)

/-- Of the memory, only what it holds of the parameters has a say in an update. -/
theorem update_sameMove (hids : ∀ p ∈ params, p.id ∈ ids) (h : AgreeOn ids memory memory') :
    SameMove ids (o.update rate params gradients memory)
      (o.update rate params gradients memory') := by
  induction params generalizing gradients memory memory' with
  | nil =>
      simp only [update]
      exact .moved h
  | cons p params ih =>
      cases gradients with
      | nil =>
          simp only [update]
          exact .moved h
      | cons g gradients =>
      simp only [update]
      generalize hfirst : o.updateParam rate p g memory = first
      generalize hfirst' : o.updateParam rate p g memory' = first'
      have hsame : SameMove ids first first' := by
        rw [← hfirst, ← hfirst']
        exact updateParam_sameMove (hids p List.mem_cons_self) h
      cases hsame with
      | failed a => exact .failed a
      | @moved q memory memory' hagree =>
      have hrest : SameMove ids (o.update rate params gradients memory)
          (o.update rate params gradients memory') :=
        ih (fun r hr => hids r (List.mem_cons_of_mem p hr)) hagree
      simp only [Attempt.ok_bind]
      generalize o.update rate params gradients memory = later at hrest ⊢
      generalize o.update rate params gradients memory' = later' at hrest ⊢
      cases hrest with
      | failed a => exact .failed a
      | moved hagree => exact .moved hagree

/-- An update that is made: parameter by parameter, as far as there are gradients. -/
inductive Updated (o : Optimizer α μ) (rate : α) :
    List (Param α) → List (Tensor α) → OptimizerMemory μ → List (Param α) → OptimizerMemory μ → Prop
  | nil (gradients : List (Tensor α)) (memory : OptimizerMemory μ) :
      Updated o rate [] gradients memory [] memory
  | left (params : List (Param α)) (memory : OptimizerMemory μ) :
      Updated o rate params [] memory params memory
  | cons {p q : Param α} {params moved : List (Param α)} {gradient : Tensor α}
      {gradients : List (Tensor α)} {memory between rest : OptimizerMemory μ} :
      o.updateParam rate p gradient memory = .ok (q, between) →
      Updated o rate params gradients between moved rest →
      Updated o rate (p :: params) (gradient :: gradients) memory (q :: moved) rest

theorem updated_of_update (h : o.update rate params gradients memory = .ok (moved, rest)) :
    Updated o rate params gradients memory moved rest := by
  induction params generalizing gradients memory moved rest with
  | nil =>
      simp only [update] at h
      cases h
      exact .nil gradients memory
  | cons p params ih =>
      cases gradients with
      | nil =>
          simp only [update] at h
          cases h
          exact .left (p :: params) memory
      | cons g gradients =>
          obtain ⟨⟨q, between⟩, hfirst, h⟩ := Attempt.bind_eq_ok.1 h
          obtain ⟨⟨qs, after⟩, hlater, h⟩ := Attempt.bind_eq_ok.1 h
          cases h
          exact .cons hfirst (ih hlater)

theorem Updated.map_id (h : Updated o rate params gradients memory moved rest) :
    moved.map Param.id = params.map Param.id := by
  induction h with
  | nil gradients memory => rfl
  | left params memory => rfl
  | cons hfirst _ ih => rw [List.map_cons, List.map_cons, ih, id_updateParam hfirst]

theorem Updated.length_eq (h : Updated o rate params gradients memory moved rest) :
    moved.length = params.length := by
  simpa using congrArg List.length h.map_id

theorem lookup_updateParam (h : o.updateParam rate p gradient memory = .ok (q, rest))
    (hi : i ≠ p.id) : rest.lookup i = memory.lookup i := by
  obtain ⟨_, _, -, -, rfl⟩ := updateParam_eq_ok.1 h
  rw [lookup_remember, if_neg hi]

/-- An update leaves what is remembered of all other parameters as it is. -/
theorem Updated.lookup_eq (h : Updated o rate params gradients memory moved rest)
    (hi : i ∉ params.map Param.id) : rest.lookup i = memory.lookup i := by
  induction h with
  | nil gradients memory => rfl
  | left params memory => rfl
  | cons hfirst _ ih =>
      rw [List.map_cons, List.mem_cons, not_or] at hi
      rw [ih hi.2, lookup_updateParam hfirst hi.1]

/-- The rule remembers the number of its updates. -/
def Counts (o : Optimizer α μ) (updates : μ → Nat) : Prop :=
  ∀ rate value gradient remembered value' remembered',
    o.move rate value gradient remembered = .ok (value', remembered') →
    ∃ m, remembered' = some m ∧ updates m = remembered.elim 0 updates + 1

theorem Counts.updatesOf_updateParam {updates : μ → Nat} (hcounts : o.Counts updates)
    (h : o.updateParam rate p gradient memory = .ok (q, rest)) :
    rest.updatesOf updates i = memory.updatesOf updates i + [p.id].count i := by
  obtain ⟨value, remembered, hmove, -, rfl⟩ := updateParam_eq_ok.1 h
  obtain ⟨m, rfl, hm⟩ := hcounts _ _ _ _ _ _ hmove
  by_cases hi : i = p.id
  · subst hi
    rw [List.count_singleton_self, updatesOf, lookup_remember, if_pos rfl]
    exact hm
  · rw [List.count_singleton, updatesOf, lookup_remember, if_neg hi,
      if_neg (by simpa using Ne.symm hi)]
    rfl

/-- With a gradient for every parameter, one update more is counted of each one. -/
theorem Updated.updatesOf_eq {updates : μ → Nat} (hcounts : o.Counts updates)
    (h : Updated o rate params gradients memory moved rest)
    (hcovers : params.length ≤ gradients.length) :
    rest.updatesOf updates i =
      memory.updatesOf updates i + (params.map Param.id).count i := by
  induction h with
  | nil gradients memory => rfl
  | left params memory =>
      obtain rfl := List.length_eq_zero_iff.1 (Nat.le_zero.1 hcovers)
      rfl
  | @cons p q params _ _ _ memory _ _ hfirst _ ih =>
      have hcount : ((p :: params).map Param.id).count i =
          [p.id].count i + (params.map Param.id).count i := by
        rw [List.map_cons, List.count_cons, List.count_singleton, Nat.add_comm]
      rw [ih (Nat.le_of_succ_le_succ hcovers), hcounts.updatesOf_updateParam hfirst, hcount,
        Nat.add_assoc]

end Rule

section Adam

variable [Scalar α] {gradient : Tensor α} {previous : Option (Moments α)} {moments : Moments α}

theorem updates_observe (h : observe gradient previous = .ok moments) :
    moments.updates = previous.elim 0 Moments.updates + 1 := by
  cases previous with
  | none =>
      cases h
      rfl
  | some m =>
      obtain ⟨first, -, h⟩ := Attempt.bind_eq_ok.1 h
      obtain ⟨second, -, h⟩ := Attempt.bind_eq_ok.1 h
      cases h
      rfl

theorem counts_adam : (adam : Optimizer α (Moments α)).Counts Moments.updates := by
  intro rate value gradient remembered value' remembered' h
  obtain ⟨moments, hmoments, h⟩ := Attempt.bind_eq_ok.1 h
  obtain ⟨step, -, h⟩ := Attempt.bind_eq_ok.1 h
  obtain ⟨moved, -, h⟩ := Attempt.bind_eq_ok.1 h
  cases h
  exact ⟨moments, rfl, updates_observe hmoments⟩

end Adam

end Optimizer
end ActorCritic
