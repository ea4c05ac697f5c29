import ActorCritic.Proofs.Coordinator.Phase

/-!
Where an attempt can fail because of the schedule. With trainers whose own work never does, only
the two questions for the remaining rounds can, so an attempt does not if both are answered.
-/

namespace ActorCritic
namespace Coordinator

variable {α ρ τ : Type} [Trainer α (Supply α) ρ] [Trainer α (Supply α) τ]
  {V : ρ → Prop} {P : τ → Prop}

/-- The trainers of a session have these properties. -/
def Session.Has (V : ρ → Prop) (P : τ → Prop) (s : Session α ρ τ) : Prop :=
  V s.1.valueTrainer ∧ P s.1.policyTrainer

/-- The action keeps the trainers' properties, and never fails because of the schedule. -/
abbrev Keeps {β : Type} (V : ρ → Prop) (P : τ → Prop) (a : CoordinatorAction α ρ τ β) : Prop :=
  Action.Respects (Session.Has V P) (¬·.IsSchedule) a

omit [Trainer α (Supply α) ρ] [Trainer α (Supply α) τ] in
theorem keeps_onValue {β : Type} {a : Action α (ρ × RunWorld α) β} (ha : Trainer.Keeps V a) :
    Keeps V P (onValue a : CoordinatorAction α ρ τ β) :=
  ha.within (fun _ hs => hs.1) fun _ _ hs hx => ⟨hx, hs.2⟩

omit [Trainer α (Supply α) ρ] [Trainer α (Supply α) τ] in
theorem keeps_onPolicy {β : Type} {a : Action α (τ × RunWorld α) β} (ha : Trainer.Keeps P a) :
    Keeps V P (onPolicy a : CoordinatorAction α ρ τ β) :=
  ha.within (fun _ hs => hs.2) fun _ _ hs hx => ⟨hs.1, hx⟩

variable (hV : Trainer.KeepsSchedule V) (hP : Trainer.KeepsSchedule P)
include hV hP

theorem keeps_round (config : Config) (role : Role) :
    Keeps V P (round config role : CoordinatorAction α ρ τ Unit) := by
  cases role with
  | value => exact keeps_onValue (hV.trainRound _ _)
  | policy => exact keeps_onPolicy (hP.trainRound _ _)

omit [Trainer α (Supply α) τ] hP in
theorem keeps_refreshTarget : Keeps V P (refreshTarget : CoordinatorAction α ρ τ Nat) := by
  refine Action.Respects.read_bind fun s hs => ?_
  refine Action.Respects.bind (Action.Respects.lift fun e he => ?_) fun weights => ?_
  · exact hV.weights _ hs.1 e he
  refine Action.Respects.bind (Action.Respects.lift fun e he => ?_) fun target => ?_
  · exact not_isSchedule_of_widen (fun _ => id) he
  refine Action.Respects.bind (Action.Respects.update fun _ h => h) fun _ => ?_
  exact Action.Respects.pure _

theorem keeps_copyPolicyToValue : Keeps V P (copyPolicyToValue : CoordinatorAction α ρ τ Unit) :=
  Action.Respects.read_bind fun _ hs =>
    keeps_onValue (keeps_copyLayersFrom hV (hP.weights _ hs.2))

theorem keeps_copyValueToPolicy : Keeps V P (copyValueToPolicy : CoordinatorAction α ρ τ Unit) :=
  Action.Respects.read_bind fun _ hs =>
    keeps_onPolicy (keeps_copyLayersFrom hP (hV.weights _ hs.1))

theorem keeps_prepareValuePhase (config : Config) (collected : Snapshot α) :
    Keeps V P (prepareValuePhase config collected : CoordinatorAction α ρ τ Unit) := by
  have hrefresh : Keeps V P (do
      let _ ← refreshTarget : CoordinatorAction α ρ τ Unit) :=
    (keeps_refreshTarget hV).bind fun _ => Action.Respects.pure ()
  refine (keeps_onPolicy (hP.setState _)).bind fun _ => ?_
  split
  · exact (keeps_copyPolicyToValue hV hP).bind fun _ => hrefresh
  · exact hrefresh

/-- Opening the value phase fails because of the schedule only if the value trainer's question for
its remaining rounds does. -/
theorem openValuePhase_outcome {config : Config} {epoch : Nat} {collected : Snapshot α}
    {s t : Session α ρ τ} {r : Run α Nat} (hs : s.Has V P)
    (h : openValuePhase config epoch collected s = (r, t)) :
    (∃ u e, prepareValuePhase config collected s = (.ok (), u) ∧
      remainingValueRounds epoch u = (.error e, t) ∧ r = .error e) ∨
    t.Has V P ∧ ∀ e, r = .error e → ¬e.IsSchedule := by
  have hprepare := keeps_prepareValuePhase hV hP config collected
  obtain ⟨e, herror, rfl⟩ | ⟨⟨⟩, u, hu, h⟩ := Action.bind_eq.1 h
  · refine .inr ⟨hprepare.keeps herror hs, ?_⟩
    rintro _ ⟨⟩
    exact hprepare.cause herror hs
  cases r with
  | error e => exact .inl ⟨u, e, hu, h, rfl⟩
  | ok n =>
      obtain ⟨-, rfl⟩ := remainingValueRounds_eq.1 h
      exact .inr ⟨hprepare.keeps hu hs, fun e he => by cases he⟩

theorem openPolicyPhase_outcome {config : Config} {epoch n : Nat} {s t : Session α ρ τ}
    {r : Run α PolicyOpening} (hs : s.Has V P)
    (h : openPolicyPhase config epoch n s = (r, t)) :
    (∃ e, remainingPolicyRounds epoch s = (.error e, t) ∧ r = .error e) ∨
    t.Has V P ∧ ∀ e, r = .error e → ¬e.IsSchedule := by
  obtain ⟨e, herror, rfl⟩ | ⟨rounds, u, hrounds, h⟩ := Action.bind_eq.1 h
  · exact .inl ⟨e, herror, rfl⟩
  obtain ⟨-, rfl⟩ := remainingPolicyRounds_eq.1 hrounds
  refine .inr (Action.Respects.outcome ?_ h hs)
  split
  · refine (keeps_copyValueToPolicy hV hP).bind fun _ => ?_
    exact (keeps_refreshTarget hV).bind fun _ => Action.Respects.pure _
  · exact (keeps_refreshTarget hV).bind fun _ => Action.Respects.pure _

theorem has_of_reaches {epoch : Nat} {collected : Snapshot α} {s t : Session α ρ τ}
    {stage : Stage} {log : List CompletedRound} (hs : s.Has V P)
    (h : Reaches epoch collected s stage log t) : t.Has V P := by
  induction h with
  | called => exact hs
  | openValue hopen =>
      obtain ⟨_, e, -, -, herror⟩ | ⟨ht, -⟩ := openValuePhase_outcome hV hP hs hopen
      · cases herror
      · exact ht
  | valueRound _ _ hround ih => exact (keeps_round hV hP _ _).keeps hround ih
  | openPolicy _ hopen ih =>
      obtain ⟨e, -, herror⟩ | ⟨ht, -⟩ := openPolicyPhase_outcome hV hP ih hopen
      · cases herror
      · exact ht
  | policyRound _ _ hround ih => exact (keeps_round hV hP _ _).keeps hround ih

/-- An attempt whose remaining rounds can be told does not fail because of the schedule. -/
theorem trainEpoch_not_isSchedule [LawfulTrainer ρ] [LawfulTrainer τ] {epoch : Nat}
    {collected : Snapshot α} {s t : Session α ρ τ} {e : Failure (Error α)} (hs : s.Has V P)
    (hvalue : ∃ n, remainingRounds (s.reading .value).step epoch s.config.valueTrainStepsPerEpoch
      s.config.valueEvalsPerEpoch = .ok n)
    (hpolicy : ∀ n log u, Reaches epoch collected s (.valuePhase n n) log u →
      ∃ k, remainingRounds (u.reading .policy).step epoch u.config.policyTrainStepsPerEpoch
        u.config.policyEvalsPerEpoch = .ok k)
    (h : trainEpoch epoch collected s = (.error e, t)) : ¬e.IsSchedule := by
  obtain h | ⟨n, i, log, u, hreach, h⟩ | ⟨n, log, u, hreach, h⟩ | ⟨n, p, i, log, u, hreach, h⟩ :=
    trainEpoch_eq_error h
  · obtain ⟨u, _, hu, hremaining, -⟩ | ⟨-, hcause⟩ := openValuePhase_outcome hV hP hs h
    · obtain ⟨n, hn⟩ := hvalue
      have hopened := valuePhaseOpened_of_prepareValuePhase hu
      -- The copy and the refresh before the question leave the trainer's step alone.
      have hok : remainingValueRounds epoch u = (.ok n, u) := by
        refine remainingValueRounds_eq.2 ⟨?_, rfl⟩
        rw [← hopened.value.step]
        simpa only [Session.config, hopened.plan] using hn
      rw [hok] at hremaining
      cases hremaining
    · exact hcause e rfl
  · exact (keeps_round hV hP _ _).cause h (has_of_reaches hV hP hs hreach)
  · obtain ⟨_, hremaining, -⟩ | ⟨-, hcause⟩ :=
      openPolicyPhase_outcome hV hP (has_of_reaches hV hP hs hreach) h
    · obtain ⟨k, hk⟩ := hpolicy n log u hreach
      rw [remainingPolicyRounds_eq.2 ⟨hk, rfl⟩] at hremaining
      cases hremaining
    · exact hcause e rfl
  · exact (keeps_round hV hP _ _).cause h (has_of_reaches hV hP hs hreach)

end Coordinator
end ActorCritic
