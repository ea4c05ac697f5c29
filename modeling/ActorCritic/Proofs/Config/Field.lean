import Mathlib.Data.List.Forall2
import ActorCritic.Config.Field

/-!
Fields as places of a configuration. A configuration is put together by copying the fields of
another one, in any order; once every field has been copied, the two are the same.
-/

namespace ActorCritic
namespace Config

section Places

variable (c : Config)

theorem CountField.get_set (n : Nat) (f g : CountField) :
    g.get (f.set c n) = if f = g then n else g.get c := by
  cases f <;> cases g <;> rfl

theorem FlagField.get_set (b : Bool) (f g : FlagField) :
    g.get (f.set c b) = if f = g then b else g.get c := by
  cases f <;> cases g <;> rfl

theorem FlagField.get_setCount (n : Nat) (f : CountField) (g : FlagField) :
    g.get (f.set c n) = g.get c := by
  cases f <;> cases g <;> rfl

theorem CountField.get_setFlag (b : Bool) (f : FlagField) (g : CountField) :
    g.get (f.set c b) = g.get c := by
  cases f <;> cases g <;> rfl

theorem CountField.outputDir_set (n : Nat) (f : CountField) :
    (f.set c n).outputDir = c.outputDir := by
  cases f <;> rfl

theorem FlagField.outputDir_set (b : Bool) (f : FlagField) :
    (f.set c b).outputDir = c.outputDir := by
  cases f <;> rfl

theorem CountField.get_setDir (dir : Option String) (g : CountField) :
    g.get { c with outputDir := dir } = g.get c := by
  cases g <;> rfl

theorem FlagField.get_setDir (dir : Option String) (g : FlagField) :
    g.get { c with outputDir := dir } = g.get c := by
  cases g <;> rfl

end Places

/-- The two configurations have the same in this field. -/
def SameAt (c d : Config) : Field → Prop
  | .count f => f.get d = f.get c
  | .flag f => f.get d = f.get c
  | .outputDir => d.outputDir = c.outputDir

/-- The second configuration with this field from the first. -/
def copy (c d : Config) : Field → Config
  | .count f => f.set d (f.get c)
  | .flag f => f.set d (f.get c)
  | .outputDir => { d with outputDir := c.outputDir }

variable {c d : Config}

/-- A copied field is the same afterwards, and no other field changes. -/
theorem sameAt_copy (f g : Field) : SameAt c (copy c d f) g ↔ f = g ∨ SameAt c d g := by
  cases f with
  | count f =>
      cases g with
      | count g =>
          rw [copy, SameAt, SameAt, CountField.get_set, Field.count.injEq]
          split
          · next h => simp [h]
          · next h => simp [h]
      | flag g => simp [copy, SameAt, FlagField.get_setCount]
      | outputDir => simp [copy, SameAt, CountField.outputDir_set]
  | flag f =>
      cases g with
      | count g => simp [copy, SameAt, CountField.get_setFlag]
      | flag g =>
          rw [copy, SameAt, SameAt, FlagField.get_set, Field.flag.injEq]
          split
          · next h => simp [h]
          · next h => simp [h]
      | outputDir => simp [copy, SameAt, FlagField.outputDir_set]
  | outputDir =>
      cases g with
      | count g => simp [copy, SameAt, CountField.get_setDir]
      | flag g => simp [copy, SameAt, FlagField.get_setDir]
      | outputDir => simp [copy, SameAt]

/-- The second configuration with these fields from the first, one after the other. -/
def copyAll (c d : Config) (fields : List Field) : Config := fields.foldl (copy c) d

theorem sameAt_copyAll (fields : List Field) (g : Field) :
    SameAt c (copyAll c d fields) g ↔ g ∈ fields ∨ SameAt c d g := by
  induction fields generalizing d with
  | nil => simp [copyAll]
  | cons f fields ih =>
      rw [copyAll, List.foldl_cons]
      refine ih.trans ?_
      rw [sameAt_copy, List.mem_cons]
      grind

theorem eq_of_sameAt (h : ∀ f, SameAt c d f) : d = c := by
  have hcount (f : CountField) : f.get d = f.get c := h (.count f)
  have hflag (f : FlagField) : f.get d = f.get c := h (.flag f)
  have hdir : d.outputDir = c.outputDir := h .outputDir
  cases c
  cases d
  rw [mk.injEq]
  exact ⟨hcount .valueBatchSize, hcount .valueTrainStepsPerEpoch, hcount .valueEvalsPerEpoch,
    hcount .valueEvalSteps, hcount .policyBatchSize, hcount .policyTrainStepsPerEpoch,
    hcount .policyEvalsPerEpoch, hcount .policyEvalSteps, hcount .maxSliceLength,
    hcount .addedPolicySliceLength, hcount .replayEpochs, hflag .scaleValueTargets,
    hcount .sharedLayers, hflag .copyOptimizerSlots, hdir⟩

namespace Field

theorem mem_all (f : Field) : f ∈ all := by
  cases f with
  | count f => cases f <;> decide
  | flag f => cases f <;> decide
  | outputDir => decide

theorem nodup_all : all.Nodup := by decide

theorem ofName?_name (f : Field) : ofName? f.name = some f := by
  cases f with
  | count f => cases f <;> rfl
  | flag f => cases f <;> rfl
  | outputDir => rfl

theorem ofName?_eq_none {name : String} (h : ∀ f : Field, f.name ≠ name) : ofName? name = none := by
  rw [ofName?, List.find?_eq_none]
  intro f _
  simpa using h f

end Field

/-- The fields among the names of members, in their order. -/
def known {α : Type} (members : List (String × α)) : List Field :=
  members.filterMap fun m => Field.ofName? m.1

theorem known_cons {α : Type} (m : String × α) (members : List (String × α)) :
    known (m :: members) = (Field.ofName? m.1).toList ++ known members := by
  rw [known, List.filterMap_cons]
  cases Field.ofName? m.1 <;> rfl

theorem known_fields {α : Type} (value : Field → α) (fields : List Field) :
    known (fields.map fun f => (f.name, value f)) = fields := by
  induction fields with
  | nil => rfl
  | cons f fields ih => rw [List.map_cons, known_cons, ih, Field.ofName?_name]; rfl

theorem known_foreign {α : Type} {members : List (String × α)}
    (h : ∀ m ∈ members, ∀ f : Field, f.name ≠ m.1) : known members = [] := by
  rw [known, List.filterMap_eq_nil_iff]
  exact fun m hm => Field.ofName?_eq_none (h m hm)

theorem known_eq_of_forall₂ {α β : Type} {R : α → β → Prop} {members : List (String × α)}
    {read : List (String × β)}
    (h : List.Forall₂ (fun m r => m.1 = r.1 ∧ R m.2 r.2) members read) :
    known read = known members := by
  induction h with
  | nil => rfl
  | cons hm _ ih => rw [known_cons, known_cons, ih, hm.1]

end Config
end ActorCritic
