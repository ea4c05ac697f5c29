/-!
Named numbers in the order of their names.
-/

namespace ActorCritic

/-- Names increase from the front to the back of the list. -/
abbrev Metrics (α : Type) := List (String × α)

namespace Metrics

variable {α : Type}

def insert (name : String) (x : α) : Metrics α → Metrics α
  | [] => [(name, x)]
  | (other, y) :: rest =>
      if name < other then (name, x) :: (other, y) :: rest
      else if name = other then (name, x) :: rest
      else (other, y) :: insert name x rest

def ofList (entries : List (String × α)) : Metrics α :=
  entries.foldl (fun m entry => insert entry.1 entry.2 m) []

def get? (m : Metrics α) (name : String) : Option α := m.lookup name

theorem get?_insert_self (name : String) (x : α) (m : Metrics α) :
    (m.insert name x).get? name = some x := by
  induction m with
  | nil => simp [insert, get?]
  | cons entry rest ih =>
      obtain ⟨key, y⟩ := entry
      simp only [insert]
      split
      · simp [get?]
      · split
        · simp [get?]
        · next h => simpa [get?, List.lookup_cons, beq_eq_false_iff_ne.2 h] using ih

theorem get?_insert_of_ne {name other : String} (h : other ≠ name) (x : α) (m : Metrics α) :
    (m.insert name x).get? other = m.get? other := by
  induction m with
  | nil => simp [insert, get?, List.lookup_cons, beq_eq_false_iff_ne.2 h]
  | cons entry rest ih =>
      obtain ⟨key, y⟩ := entry
      simp only [insert]
      split
      · simp [get?, List.lookup_cons, beq_eq_false_iff_ne.2 h]
      · split
        · next e => simp [get?, List.lookup_cons, ← e, beq_eq_false_iff_ne.2 h]
        · simp only [get?, List.lookup_cons] at ih ⊢
          split
          · rfl
          · exact ih

/-- What is computed from every entry is found under its name. -/
theorem get?_map {β : Type} (f : String → α → β) (m : Metrics α) (name : String) :
    get? (m.map fun entry => (entry.1, f entry.1 entry.2)) name = (m.get? name).map (f name) := by
  induction m with
  | nil => rfl
  | cons entry rest ih =>
      obtain ⟨key, y⟩ := entry
      simp only [get?, List.map_cons, List.lookup_cons] at ih ⊢
      cases h : name == key with
      | true =>
          obtain rfl := eq_of_beq h
          rfl
      | false => exact ih

def names (m : Metrics α) : List String := m.map Prod.fst

theorem mem_names_insert {name other : String} {x : α} {m : Metrics α} :
    other ∈ (m.insert name x).names ↔ other = name ∨ other ∈ m.names := by
  induction m with
  | nil => simp [insert, names]
  | cons entry rest ih =>
      obtain ⟨key, y⟩ := entry
      simp only [names] at ih
      simp only [insert]
      split
      · simp [names]
      · split
        · next h => simp [names, h]
        · simp only [names, List.map_cons, List.mem_cons, ih]
          exact or_left_comm

/-- Every name stands once, and the names increase. -/
def Ordered (m : Metrics α) : Prop := m.names.Pairwise (· < ·)

theorem Ordered.insert {m : Metrics α} (h : m.Ordered) (name : String) (x : α) :
    (m.insert name x).Ordered := by
  induction m with
  | nil => exact List.pairwise_singleton _ _
  | cons entry rest ih =>
      obtain ⟨key, y⟩ := entry
      obtain ⟨hfirst, hrest⟩ := List.pairwise_cons.1 h
      simp only [Metrics.insert]
      split
      · next hlt =>
          refine List.pairwise_cons.2 ⟨fun other hother => ?_, h⟩
          obtain rfl | hother := List.mem_cons.1 hother
          · exact hlt
          · exact String.lt_trans hlt (hfirst other hother)
      · next hlt =>
          split
          · next heq =>
              subst heq
              exact List.pairwise_cons.2 ⟨hfirst, hrest⟩
          · next hne =>
              refine List.pairwise_cons.2 ⟨fun other hother => ?_, ih hrest⟩
              obtain rfl | hother := mem_names_insert.1 hother
              · exact Std.lt_of_le_of_ne (String.not_lt.1 hlt) (Ne.symm hne)
              · exact hfirst other hother

end Metrics
end ActorCritic
