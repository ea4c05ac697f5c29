import ActorCritic.Batch.Source
import ActorCritic.Proofs.Action
import ActorCritic.Proofs.Attempt
import ActorCritic.Trainer.Basic

/-!
Failures of the schedule. Whether a step fits the rounds of an epoch is the coordinator's question
alone: a trainer that gets its batches from a task fails for many causes, but never for that one.
-/

namespace ActorCritic

variable {α σ ρ : Type}

/-- The trainer's step does not fit the rounds of an epoch. -/
def Failure.IsSchedule : Failure (Error α) → Prop
  | .error (.schedule _) => True
  | _ => False

theorem not_isSchedule_of_widen {ε β : Type} {x : Attempt ε β} {f : ε → Error α}
    {e : Failure (Error α)} (hf : ∀ c, ¬(Failure.error (f c)).IsSchedule)
    (h : x.widen f = .error e) : ¬e.IsSchedule := by
  obtain ⟨cause, -, rfl⟩ := Attempt.mapError_eq_error.1 h
  cases cause with
  | abort a => exact id
  | error c => exact hf c

theorem not_isSchedule_of_ofParams {β : Type} {x : Except ParamsError β}
    {e : Failure (Error α)} (h : Run.ofParams x = .error e) : ¬e.IsSchedule := by
  obtain ⟨c, -, rfl⟩ := Attempt.mapError_eq_error.1 h
  exact id

theorem not_isSchedule_of_ofCheckpoint {β : Type} {x : Except CheckpointError β}
    {e : Failure (Error α)} (h : Run.ofCheckpoint x = .error e) : ¬e.IsSchedule := by
  obtain ⟨c, -, rfl⟩ := Attempt.mapError_eq_error.1 h
  exact id

namespace BatchSource

variable {κ β : Type}

/-- No batch of any stream fails because of the schedule. -/
def Unscheduled (source : BatchSource α σ κ β) : Prop :=
  ∀ supply stream e rest, source.pull supply stream = (some (.error e), rest) → ¬e.IsSchedule

/-- A batch built from a trajectory fails at most because of its extents. -/
theorem unscheduled_ofTask (task : Task α) (request : SliceRequest)
    (build : ValueTarget α → Trajectory α → Attempt ShapeError β) :
    (BatchSource.ofTask task request build).Unscheduled := by
  intro supply stream e rest h
  have hitem := congrArg Prod.fst h
  obtain ⟨trajectory, -, hbuild⟩ := Option.map_eq_some_iff.1 hitem
  exact not_isSchedule_of_widen (fun _ => id) hbuild

end BatchSource

theorem ValueBatchBuilder.unscheduled_source [Add α] [Mul α] [Div α] (b : ValueBatchBuilder α)
    (task : Task α) : (b.source task).Unscheduled :=
  BatchSource.unscheduled_ofTask task b.plan.request b.build

theorem PolicyBatchBuilder.unscheduled_source [Mul α] (b : PolicyBatchBuilder α)
    (task : Task α) : (b.source task).Unscheduled :=
  BatchSource.unscheduled_ofTask task b.plan.request b.build

namespace Trainer

/-- The action keeps `P` of the trainer, and never fails because of the schedule. -/
abbrev Keeps {β : Type} (P : ρ → Prop) (a : Action α (ρ × World α σ) β) : Prop :=
  Action.Respects (fun x => P x.1) (¬·.IsSchedule) a

variable [Trainer α σ ρ]

/-- All that a run asks of its trainers keeps `P` of them and works without a schedule. -/
structure KeepsSchedule (P : ρ → Prop) : Prop where
  weights (t : ρ) : P t → ∀ e, Trainer.weights t = .error e → ¬e.IsSchedule
  setWeights (s : Snapshot α) : Keeps P (Trainer.setWeights s)
  setState (s : Snapshot α) : Keeps P (Trainer.setState s)
  setSlots (s : Snapshot α) : Keeps P (Trainer.setSlots s)
  trainRound (steps evalSteps : Nat) : Keeps P (Trainer.trainRound steps evalSteps)

/-- However long the trainer is used, its own work never fails because of the schedule, which is
the coordinator's alone. -/
def Unscheduled (t : ρ) : Prop := ∃ P : ρ → Prop, P t ∧ KeepsSchedule P

end Trainer
end ActorCritic
