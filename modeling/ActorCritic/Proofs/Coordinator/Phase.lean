import ActorCritic.Proofs.Coordinator.Attempt
import ActorCritic.Proofs.Trainer.Sharing

/-!
What the pieces of an attempt do to the two trainers. A piece acts on one trainer at a time and
leaves the plan and the other trainer alone; only rounds count steps.
-/

namespace ActorCritic
namespace Coordinator

variable {α ρ τ : Type}

theorem onValue_eq {β : Type} {a : Action α (ρ × RunWorld α) β} {s t : Session α ρ τ}
    {r : Run α β} :
    onValue a s = (r, t) ↔
      ∃ x, a (s.1.valueTrainer, s.2) = (r, x) ∧ ({ s.1 with valueTrainer := x.1 }, x.2) = t :=
  Action.within_eq

theorem onPolicy_eq {β : Type} {a : Action α (τ × RunWorld α) β} {s t : Session α ρ τ}
    {r : Run α β} :
    onPolicy a s = (r, t) ↔
      ∃ x, a (s.1.policyTrainer, s.2) = (r, x) ∧
        ({ s.1 with policyTrainer := x.1 }, x.2) = t :=
  Action.within_eq

theorem repeated_onValue (a : Action α (ρ × RunWorld α) Unit) (n : Nat) :
    Action.repeated (onValue a : CoordinatorAction α ρ τ Unit) n =
      onValue (Action.repeated a n) := by
  refine Action.repeated_within ?_ ?_ ?_ a n
  · exact fun _ _ => rfl
  · exact fun _ _ _ => rfl
  · exact fun _ => rfl

theorem repeated_onPolicy (a : Action α (τ × RunWorld α) Unit) (n : Nat) :
    Action.repeated (onPolicy a : CoordinatorAction α ρ τ Unit) n =
      onPolicy (Action.repeated a n) := by
  refine Action.repeated_within ?_ ?_ ?_ a n
  · exact fun _ _ => rfl
  · exact fun _ _ _ => rfl
  · exact fun _ => rfl

variable [Trainer α (Supply α) ρ] [Trainer α (Supply α) τ]

omit [Trainer α (Supply α) τ] in
/-- A refresh changes nothing but the value target. -/
theorem coordinator_of_refreshTarget {s t : Session α ρ τ} {r : Run α Nat}
    (h : refreshTarget s = (r, t)) : t.1 = s.1 := by
  replace h := Action.read_bind_eq.1 h
  obtain ⟨e, hweights, -⟩ | ⟨weights, _, hweights, h⟩ := Action.bind_eq.1 h
  · rw [(Action.lift_eq.1 hweights).2]
  obtain ⟨-, rfl⟩ := Action.lift_eq.1 hweights
  obtain ⟨e, htarget, -⟩ | ⟨target, _, htarget, h⟩ := Action.bind_eq.1 h
  · rw [(Action.lift_eq.1 htarget).2]
  obtain ⟨-, rfl⟩ := Action.lift_eq.1 htarget
  cases h
  rfl

theorem remainingValueRounds_eq {epoch n : Nat} {s t : Session α ρ τ} :
    remainingValueRounds epoch s = (.ok n, t) ↔
      remainingRounds (s.reading .value).step epoch s.config.valueTrainStepsPerEpoch
        s.config.valueEvalsPerEpoch = .ok n ∧ s = t :=
  Action.lift_eq.trans (and_congr_left' Attempt.mapError_eq_ok)

theorem remainingPolicyRounds_eq {epoch n : Nat} {s t : Session α ρ τ} :
    remainingPolicyRounds epoch s = (.ok n, t) ↔
      remainingRounds (s.reading .policy).step epoch s.config.policyTrainStepsPerEpoch
        s.config.policyEvalsPerEpoch = .ok n ∧ s = t :=
  Action.lift_eq.trans (and_congr_left' Attempt.mapError_eq_ok)

/-- The policy gets the collected state, and then, where layers are shared, the value trainer gets
the policy's. -/
theorem prepareValuePhase_eq_ok {config : Config} {collected : Snapshot α} {s t : Session α ρ τ}
    (h : prepareValuePhase config collected s = (.ok (), t)) :
    ∃ (x : τ × RunWorld α) (y : ρ × RunWorld α) (w : RunWorld α),
      Trainer.setState collected (s.1.policyTrainer, s.2) = (.ok (), x) ∧
      (if 0 < config.sharedLayers then
        copyLayersFrom 0 s.config.sharedLayers x.1 s.config.copyOptimizerSlots
          (s.1.valueTrainer, x.2) = (.ok (), y)
      else y.1 = s.1.valueTrainer) ∧
      ({ s.1 with valueTrainer := y.1, policyTrainer := x.1 }, w) = t := by
  obtain ⟨⟨⟩, u, hset, h⟩ := Action.bind_eq_ok.1 h
  obtain ⟨x, hx, rfl⟩ := onPolicy_eq.1 hset
  by_cases hshared : 0 < config.sharedLayers
  · simp only [hshared, if_true] at h ⊢
    obtain ⟨⟨⟩, v, hcopy, h⟩ := Action.bind_eq_ok.1 h
    obtain ⟨y, hy, rfl⟩ := onValue_eq.1 (Action.read_bind_eq.1 hcopy)
    obtain ⟨version, w, hrefresh, h⟩ := Action.bind_eq_ok.1 h
    obtain ⟨-, rfl⟩ := Action.pure_eq_ok.1 h
    have hcoordinator := coordinator_of_refreshTarget hrefresh
    exact ⟨x, y, w.2, hx, hy, Prod.ext hcoordinator.symm rfl⟩
  · simp only [hshared, if_false] at h ⊢
    obtain ⟨version, w, hrefresh, h⟩ := Action.bind_eq_ok.1 h
    obtain ⟨-, rfl⟩ := Action.pure_eq_ok.1 h
    have hcoordinator := coordinator_of_refreshTarget hrefresh
    exact ⟨x, (s.1.valueTrainer, x.2), w.2, hx, rfl, Prod.ext hcoordinator.symm rfl⟩

theorem openPolicyPhase_eq_ok {config : Config} {epoch n : Nat} {p : PolicyOpening}
    {s t : Session α ρ τ} (h : openPolicyPhase config epoch n s = (.ok p, t)) :
    remainingRounds (s.reading .policy).step epoch s.config.policyTrainStepsPerEpoch
      s.config.policyEvalsPerEpoch = .ok p.rounds ∧
    (p.copied = true ↔
      0 < config.sharedLayers ∧ ¬(n = 0 ∧ p.rounds < config.policyEvalsPerEpoch)) ∧
    ∃ (x : τ × RunWorld α) (w : RunWorld α),
      (if p.copied then
        copyLayersFrom 0 s.config.sharedLayers s.1.valueTrainer s.config.copyOptimizerSlots
          (s.1.policyTrainer, s.2) = (.ok (), x)
      else x.1 = s.1.policyTrainer) ∧
      ({ s.1 with policyTrainer := x.1 }, w) = t := by
  obtain ⟨rounds, _, hrounds, h⟩ := Action.bind_eq_ok.1 h
  obtain ⟨hremaining, rfl⟩ := remainingPolicyRounds_eq.1 hrounds
  split at h
  · next hcopied =>
      obtain ⟨⟨⟩, u, hcopy, h⟩ := Action.bind_eq_ok.1 h
      obtain ⟨x, hx, rfl⟩ := onPolicy_eq.1 (Action.read_bind_eq.1 hcopy)
      obtain ⟨version, w, hrefresh, h⟩ := Action.bind_eq_ok.1 h
      obtain ⟨rfl, rfl⟩ := Action.pure_eq_ok.1 h
      have hcoordinator := coordinator_of_refreshTarget hrefresh
      refine ⟨hremaining, decide_eq_true_iff, x, w.2, ?_, Prod.ext hcoordinator.symm rfl⟩
      rw [if_pos hcopied]
      exact hx
  · next hcopied =>
      obtain ⟨version, w, hrefresh, h⟩ := Action.bind_eq_ok.1 h
      obtain ⟨rfl, rfl⟩ := Action.pure_eq_ok.1 h
      have hcoordinator := coordinator_of_refreshTarget hrefresh
      refine ⟨hremaining, decide_eq_true_iff, (s.1.policyTrainer, s.2), w.2, ?_,
        Prod.ext hcoordinator.symm rfl⟩
      rw [if_neg hcopied]

section Lawful

variable [LawfulTrainer ρ] [LawfulTrainer τ]

theorem round_eq_ok {config : Config} {role : Role} {s t : Session α ρ τ}
    (h : round config role s = (.ok (), t)) :
    t.1.plan = s.1.plan ∧
    (t.reading role).step = (s.reading role).step + config.stepsPerRound role ∧
    ∀ other, other ≠ role → t.reading other = s.reading other := by
  cases role with
  | value =>
      obtain ⟨x, hx, rfl⟩ := onValue_eq.1 h
      refine ⟨rfl, LawfulTrainer.step_trainRound hx, ?_⟩
      intro other hother
      cases other with
      | value => exact absurd rfl hother
      | policy => rfl
  | policy =>
      obtain ⟨x, hx, rfl⟩ := onPolicy_eq.1 h
      refine ⟨rfl, LawfulTrainer.step_trainRound hx, ?_⟩
      intro other hother
      cases other with
      | value => rfl
      | policy => exact absurd rfl hother

/-- What holds once the value phase is open: of the policy only the state is new, of the value
trainer only the shared layers, which are the policy's. -/
structure ValuePhaseOpened (s t : Session α ρ τ) : Prop where
  plan : t.1.plan = s.1.plan
  policy : t.reading .policy = { s.reading .policy with state := (t.reading .policy).state }
  value : (s.reading .value).SameOutside 0 s.config.sharedLayers (t.reading .value)
  shares : 0 < s.config.sharedLayers →
    (t.reading .policy).SharesLayers 0 s.config.sharedLayers (t.reading .value)
  weights : 0 < s.config.sharedLayers → ∃ u v w,
    (s.reading .policy).weights = .ok u ∧ (s.reading .value).weights = .ok v ∧
    u.copyLayers v 0 s.config.sharedLayers = .ok w ∧ (t.reading .value).weights = .ok w
  kept : s.config.sharedLayers = 0 → t.reading .value = s.reading .value

theorem valuePhaseOpened_of_prepareValuePhase {collected : Snapshot α} {s t : Session α ρ τ}
    (h : prepareValuePhase s.config collected s = (.ok (), t)) : ValuePhaseOpened s t := by
  obtain ⟨x, y, w, hstate, hcopy, rfl⟩ := prepareValuePhase_eq_ok h
  have hpolicy := LawfulTrainer.reading_setState hstate
  by_cases hshared : 0 < s.config.sharedLayers
  · rw [if_pos hshared] at hcopy
    obtain ⟨copies, hcopies, hinstalled⟩ := copyLayersFrom_eq_ok hcopy
    refine ⟨rfl, hpolicy, copyLayersFrom_sameOutside hcopy, ?_, ?_, ?_⟩
    · intro _
      have hshares := hcopies.sharesLayers
      rw [← hinstalled] at hshares
      exact hshares
    · intro _
      obtain ⟨u, v, hu, hv, hlayers⟩ := hcopies.weights
      rw [hpolicy] at hu
      exact ⟨u, v, copies.weights, hu, hv, hlayers, congrArg Reading.weights hinstalled⟩
    · intro hnone
      omega
  · rw [if_neg hshared] at hcopy
    have hkept : Session.reading (({ s.1 with valueTrainer := y.1, policyTrainer := x.1 }, w) :
        Session α ρ τ) .value = s.reading .value := congrArg Trainer.reading hcopy
    refine ⟨rfl, hpolicy, ?_, ?_, ?_, ?_⟩
    · rw [hkept]
      exact .refl _ _ _
    · exact fun hpos => absurd hpos hshared
    · exact fun hpos => absurd hpos hshared
    · exact fun _ => hkept

theorem openValuePhase_eq_ok {epoch n : Nat} {collected : Snapshot α} {s t : Session α ρ τ}
    (h : openValuePhase s.config epoch collected s = (.ok n, t)) :
    ValuePhaseOpened s t ∧
    remainingRounds (s.reading .value).step epoch s.config.valueTrainStepsPerEpoch
      s.config.valueEvalsPerEpoch = .ok n := by
  obtain ⟨⟨⟩, u, hprepare, h⟩ := Action.bind_eq_ok.1 h
  have hopened := valuePhaseOpened_of_prepareValuePhase hprepare
  obtain ⟨hremaining, rfl⟩ := remainingValueRounds_eq.1 h
  refine ⟨hopened, ?_⟩
  rw [hopened.value.step]
  simpa only [Session.config, hopened.plan] using hremaining

/-- What holds once the policy phase is open: the policy trainer is as it was or, after a copy, has
the shared layers of the value trainer. -/
structure PolicyPhaseOpened (p : PolicyOpening) (s t : Session α ρ τ) : Prop where
  plan : t.1.plan = s.1.plan
  value : t.reading .value = s.reading .value
  policy : (s.reading .policy).SameOutside 0 s.config.sharedLayers (t.reading .policy)
  shares : p.copied = true →
    (t.reading .value).SharesLayers 0 s.config.sharedLayers (t.reading .policy)
  kept : p.copied = false → t.reading .policy = s.reading .policy

omit [LawfulTrainer ρ] in
theorem policyPhaseOpened_of_openPolicyPhase {config : Config} {epoch n : Nat}
    {p : PolicyOpening} {s t : Session α ρ τ}
    (h : openPolicyPhase config epoch n s = (.ok p, t)) : PolicyPhaseOpened p s t := by
  obtain ⟨-, -, x, w, hcopy, rfl⟩ := openPolicyPhase_eq_ok h
  refine ⟨rfl, rfl, ?_, ?_, ?_⟩
  · split at hcopy
    · exact copyLayersFrom_sameOutside hcopy
    · rw [Session.reading, Session.reading, hcopy]
      exact .refl _ _ _
  · intro hcopied
    rw [if_pos hcopied] at hcopy
    obtain ⟨copies, hcopies, hinstalled⟩ := copyLayersFrom_eq_ok hcopy
    have hshares := hcopies.sharesLayers
    rw [← hinstalled] at hshares
    exact hshares
  · intro hcopied
    rw [if_neg (by simp [hcopied])] at hcopy
    rw [Session.reading, Session.reading, hcopy]

theorem plan_of_reaches {epoch : Nat} {collected : Snapshot α} {stage : Stage}
    {done : List CompletedRound} {s t : Session α ρ τ}
    (h : Reaches epoch collected s stage done t) : t.1.plan = s.1.plan := by
  induction h with
  | called => rfl
  | openValue hopen => exact (openValuePhase_eq_ok hopen).1.plan
  | valueRound _ _ hround ih => exact (round_eq_ok hround).1.trans ih
  | openPolicy _ hopen ih => exact (policyPhaseOpened_of_openPolicyPhase hopen).plan.trans ih
  | policyRound _ _ hround ih => exact (round_eq_ok hround).1.trans ih

theorem config_of_reaches {epoch : Nat} {collected : Snapshot α} {stage : Stage}
    {done : List CompletedRound} {s t : Session α ρ τ}
    (h : Reaches epoch collected s stage done t) : t.config = s.config :=
  congrArg RunPlan.config (plan_of_reaches h)

end Lawful

end Coordinator
end ActorCritic
