import ActorCritic.Proofs.Coordinator.ScheduleFailure
import ActorCritic.Proofs.Coordinator.SharedLayers
import ActorCritic.Proofs.Trainer.Target
import ActorCritic.Proofs.ValueTarget

/-!
The value target in an attempt. It is refreshed twice: before the value rounds, from the value
trainer that enters them, and before the policy rounds, from the one that has left them. Between
these two, and after the second, it stays as it is.
-/

namespace ActorCritic

/-- The target has the weights and the state that the trainer has. -/
def ValueTarget.Mirrors {α σ ρ : Type} [Trainer α σ ρ] (target : ValueTarget α) (trainer : ρ) :
    Prop :=
  ∃ weights, Trainer.weights trainer = .ok weights ∧ target.Holds weights (Trainer.state trainer)

/-- One refresh, from a trainer, leads from one target to the other. -/
def ValueTarget.RefreshedFrom {α σ ρ : Type} [Trainer α σ ρ] (trainer : ρ)
    (before after : ValueTarget α) : Prop :=
  ∃ weights, Trainer.weights trainer = .ok weights ∧
    before.refresh weights (Trainer.state trainer) = .ok after

namespace ValueTarget.RefreshedFrom

variable {α σ ρ : Type} [Trainer α σ ρ] {trainer : ρ} {before after : ValueTarget α}

theorem mirrors (h : RefreshedFrom trainer before after) : after.Mirrors trainer := by
  obtain ⟨weights, hweights, hrefresh⟩ := h
  exact ⟨weights, hweights, holds_of_refresh hrefresh⟩

theorem version (h : RefreshedFrom trainer before after) : after.version = before.version + 1 := by
  obtain ⟨weights, -, hrefresh⟩ := h
  exact version_of_refresh hrefresh

theorem refreshes (h : RefreshedFrom trainer before after) :
    ∃ load, before.refreshes [load] = .ok after := by
  obtain ⟨weights, -, hrefresh⟩ := h
  exact ⟨(weights, Trainer.state trainer), refreshes_singleton.trans hrefresh⟩

end ValueTarget.RefreshedFrom

namespace Coordinator

variable {α ρ τ : Type} {V : ρ → Prop} {P : τ → Prop}

def Session.target (s : Session α ρ τ) : ValueTarget α := s.2.supply.target

/-- Whatever its outcome, the action keeps the trainers' properties and leaves the value target
alone. -/
def SparesTarget {β : Type} (V : ρ → Prop) (P : τ → Prop) (a : CoordinatorAction α ρ τ β) :
    Prop :=
  ∀ target, Action.Respects (fun s : Session α ρ τ => s.Has V P ∧ s.target = target)
    (fun _ => True) a

theorem SparesTarget.outcome {β : Type} {a : CoordinatorAction α ρ τ β} (ha : SparesTarget V P a)
    {s t : Session α ρ τ} {r : Run α β} (h : a s = (r, t)) (hs : s.Has V P) :
    t.Has V P ∧ t.target = s.target :=
  (ha s.target).keeps h ⟨hs, rfl⟩

theorem sparesTarget_onValue {β : Type} {a : Action α (ρ × RunWorld α) β}
    (ha : Trainer.SparesTarget V a) :
    SparesTarget V P (onValue a : CoordinatorAction α ρ τ β) :=
  fun target => (ha target).within (fun _ hs => ⟨hs.1.1, hs.2⟩)
    fun _ _ hs hx => ⟨⟨hx.1, hs.1.2⟩, hx.2⟩

theorem sparesTarget_onPolicy {β : Type} {a : Action α (τ × RunWorld α) β}
    (ha : Trainer.SparesTarget P a) :
    SparesTarget V P (onPolicy a : CoordinatorAction α ρ τ β) :=
  fun target => (ha target).within (fun _ hs => ⟨hs.1.2, hs.2⟩)
    fun _ _ hs hx => ⟨⟨hs.1.1, hx.1⟩, hx.2⟩

variable [Trainer α (Supply α) ρ] [Trainer α (Supply α) τ]

/-- The session after attempts at epochs, each with its collected state; a failed attempt leaves
what it has done. -/
def Session.afterAttempts (s : Session α ρ τ) (calls : List (Nat × Snapshot α)) :
    Session α ρ τ :=
  calls.foldl (fun s call => (trainEpoch call.1 call.2 s).2) s

/-- The value phase before its refresh: what the policy trainer shares is copied. -/
def enterValuePhase (config : Config) (collected : Snapshot α) : CoordinatorAction α ρ τ Unit := do
  onPolicy (Trainer.setState collected)
  if 0 < config.sharedLayers then copyPolicyToValue

theorem openValuePhase_eq (config : Config) (epoch : Nat) (collected : Snapshot α) :
    (openValuePhase config epoch collected : CoordinatorAction α ρ τ Nat) = (do
      enterValuePhase config collected
      let _ ← refreshTarget
      remainingValueRounds epoch) := by
  unfold openValuePhase prepareValuePhase enterValuePhase
  simp only [bind_assoc, pure_bind, Action.ite_bind]

/-- The policy phase before its refresh: what the value trainer shares is copied back or not. -/
def copyBack (copied : Bool) : CoordinatorAction α ρ τ Unit := do
  if copied then copyValueToPolicy

theorem openPolicyPhase_eq (config : Config) (epoch n : Nat) :
    (openPolicyPhase config epoch n : CoordinatorAction α ρ τ PolicyOpening) = (do
      let rounds ← remainingPolicyRounds epoch
      let copied : Bool :=
        0 < config.sharedLayers ∧ ¬(n = 0 ∧ rounds < config.policyEvalsPerEpoch)
      copyBack copied
      let version ← refreshTarget
      return ⟨rounds, copied, version⟩) := by
  unfold openPolicyPhase copyBack
  simp only [pure_bind, Action.ite_bind]

theorem valueTrainer_of_copyBack {copied : Bool} {s t : Session α ρ τ} {r : Run α Unit}
    (h : copyBack copied s = (r, t)) : t.1.valueTrainer = s.1.valueTrainer := by
  cases copied with
  | true =>
      obtain ⟨x, -, rfl⟩ := onPolicy_eq.1 (Action.read_bind_eq.1 h)
      rfl
  | false =>
      cases h
      rfl

omit [Trainer α (Supply α) τ] in
theorem refreshTarget_outcome {s t : Session α ρ τ} {r : Run α Nat}
    (h : refreshTarget s = (r, t)) :
    (∃ e, r = .error e ∧ t = s) ∨
      t.1 = s.1 ∧ s.target.RefreshedFrom s.1.valueTrainer t.target ∧ r = .ok t.target.version := by
  replace h := Action.read_bind_eq.1 h
  obtain ⟨e, hweights, rfl⟩ | ⟨weights, _, hweights, h⟩ := Action.bind_eq.1 h
  · exact .inl ⟨e, rfl, (Action.lift_eq.1 hweights).2.symm⟩
  obtain ⟨hsnapshot, rfl⟩ := Action.lift_eq.1 hweights
  obtain ⟨e, hrefresh, rfl⟩ | ⟨target, _, hrefresh, h⟩ := Action.bind_eq.1 h
  · exact .inl ⟨e, rfl, (Action.lift_eq.1 hrefresh).2.symm⟩
  obtain ⟨htarget, rfl⟩ := Action.lift_eq.1 hrefresh
  cases h
  exact .inr ⟨rfl, ⟨weights, hsnapshot, Attempt.mapError_eq_ok.1 htarget⟩, rfl⟩

omit [Trainer α (Supply α) τ] in
theorem session_of_remainingValueRounds {epoch : Nat} {s t : Session α ρ τ} {r : Run α Nat}
    (h : remainingValueRounds epoch s = (r, t)) : t = s :=
  (Action.lift_eq.1 h).2.symm

omit [Trainer α (Supply α) ρ] in
theorem session_of_remainingPolicyRounds {epoch : Nat} {s t : Session α ρ τ} {r : Run α Nat}
    (h : remainingPolicyRounds epoch s = (r, t)) : t = s :=
  (Action.lift_eq.1 h).2.symm

omit [Trainer α (Supply α) τ] in
/-- A piece that leaves the target alone, then a refresh, then one that changes nothing. -/
theorem refreshed_after {β : Type} {a : CoordinatorAction α ρ τ Unit}
    {f : Nat → CoordinatorAction α ρ τ β} (ha : SparesTarget V P a)
    (hf : ∀ version (s t : Session α ρ τ) r, f version s = (r, t) → t = s) {s t : Session α ρ τ}
    {r : Run α β} (hs : s.Has V P)
    (h : (do a; let version ← refreshTarget; f version) s = (r, t)) :
    t.Has V P ∧
      ((∃ e, r = .error e ∧ t.target = s.target) ∨
        ∃ u, a s = (.ok (), u) ∧ t.1 = u.1 ∧ s.target.RefreshedFrom u.1.valueTrainer t.target ∧
          f t.target.version t = (r, t)) := by
  obtain ⟨e, hfirst, rfl⟩ | ⟨⟨⟩, u, hfirst, h⟩ := Action.bind_eq.1 h
  · obtain ⟨ht, htarget⟩ := ha.outcome hfirst hs
    exact ⟨ht, .inl ⟨e, rfl, htarget⟩⟩
  obtain ⟨hu, hsame⟩ := ha.outcome hfirst hs
  obtain ⟨e, hrefresh, rfl⟩ | ⟨version, v, hrefresh, h⟩ := Action.bind_eq.1 h
  · obtain ⟨_, -, rfl⟩ | ⟨-, -, hok⟩ := refreshTarget_outcome hrefresh
    · exact ⟨hu, .inl ⟨e, rfl, hsame⟩⟩
    · cases hok
  cases hf version v t r h
  obtain ⟨_, herror, -⟩ | ⟨htrainers, hrefreshed, hversion⟩ := refreshTarget_outcome hrefresh
  · cases herror
  cases hversion
  rw [hsame] at hrefreshed
  refine ⟨?_, .inr ⟨u, hfirst, htrainers, hrefreshed, h⟩⟩
  rw [Session.Has, htrainers]
  exact hu

omit [Trainer α (Supply α) ρ] in
theorem sparesTarget_copyLayersFrom {ρ' : Type} [Trainer α (Supply α) ρ']
    (hP : Trainer.KeepsTarget P) (first last : Nat) (source : ρ') (withSlots : Bool) :
    Trainer.SparesTarget P
      (copyLayersFrom first last source withSlots : Action α (τ × RunWorld α) Unit) := by
  refine .read_bind fun x => (Trainer.SparesTarget.lift _).bind fun copies => ?_
  refine (hP.setWeights _).bind fun _ => (hP.setState _).bind fun _ => ?_
  split
  · exact hP.setSlots _
  · exact .pure _

variable (hV : Trainer.KeepsTarget V) (hP : Trainer.KeepsTarget P)
include hV hP

theorem sparesTarget_round (config : Config) (role : Role) :
    SparesTarget V P (round config role : CoordinatorAction α ρ τ Unit) := by
  cases role with
  | value => exact sparesTarget_onValue (hV.trainRound _ _)
  | policy => exact sparesTarget_onPolicy (hP.trainRound _ _)

omit hP in
theorem sparesTarget_copyPolicyToValue :
    SparesTarget V P (copyPolicyToValue : CoordinatorAction α ρ τ Unit) :=
  fun target => Action.Respects.read_bind fun _ _ =>
    sparesTarget_onValue (sparesTarget_copyLayersFrom hV _ _ _ _) target

omit hV in
theorem sparesTarget_copyBack (copied : Bool) :
    SparesTarget V P (copyBack copied : CoordinatorAction α ρ τ Unit) := by
  intro target
  cases copied with
  | true =>
      exact Action.Respects.read_bind fun _ _ =>
        sparesTarget_onPolicy (sparesTarget_copyLayersFrom hP _ _ _ _) target
  | false => exact Action.Respects.pure _

theorem sparesTarget_enterValuePhase (config : Config) (collected : Snapshot α) :
    SparesTarget V P (enterValuePhase config collected : CoordinatorAction α ρ τ Unit) := by
  intro target
  refine (sparesTarget_onPolicy (hP.setState _) target).bind fun _ => ?_
  split
  · exact sparesTarget_copyPolicyToValue hV target
  · exact Action.Respects.pure _

/-- Opening the value phase refreshes the target once, if it gets that far. -/
theorem openValuePhase_target {config : Config} {epoch : Nat} {collected : Snapshot α}
    {s t : Session α ρ τ} {r : Run α Nat} (hs : s.Has V P)
    (h : openValuePhase config epoch collected s = (r, t)) :
    t.Has V P ∧
      ((∃ e, r = .error e ∧ t.target = s.target) ∨
        ∃ u, enterValuePhase config collected s = (.ok (), u) ∧ t.1 = u.1 ∧
          s.target.RefreshedFrom t.1.valueTrainer t.target) := by
  rw [openValuePhase_eq] at h
  obtain ⟨ht, hfailed | ⟨u, henter, htrainers, hrefreshed, -⟩⟩ :=
    refreshed_after (sparesTarget_enterValuePhase hV hP config collected)
      (fun _ _ _ _ => session_of_remainingValueRounds) hs h
  · exact ⟨ht, .inl hfailed⟩
  · exact ⟨ht, .inr ⟨u, henter, htrainers, htrainers ▸ hrefreshed⟩⟩

omit hV in
/-- Opening the policy phase refreshes the target once more, from the value trainer as it is. -/
theorem openPolicyPhase_target {config : Config} {epoch n : Nat} {s t : Session α ρ τ}
    {r : Run α PolicyOpening} (hs : s.Has V P)
    (h : openPolicyPhase config epoch n s = (r, t)) :
    t.Has V P ∧
      ((∃ e, r = .error e ∧ t.target = s.target) ∨
        ∃ p, r = .ok p ∧ t.1.valueTrainer = s.1.valueTrainer ∧
          s.target.RefreshedFrom s.1.valueTrainer t.target ∧ p.version = t.target.version) := by
  rw [openPolicyPhase_eq] at h
  obtain ⟨e, hrounds, rfl⟩ | ⟨rounds, u, hrounds, h⟩ := Action.bind_eq.1 h
  · cases session_of_remainingPolicyRounds hrounds
    exact ⟨hs, .inl ⟨e, rfl, rfl⟩⟩
  cases session_of_remainingPolicyRounds hrounds
  obtain ⟨ht, hfailed | ⟨u, hcopy, htrainers, hrefreshed, hreturn⟩⟩ :=
    refreshed_after (sparesTarget_copyBack hP _) (fun _ _ _ _ h => (Prod.mk.inj h).2.symm) hs h
  · exact ⟨ht, .inl hfailed⟩
  · have hvalue := valueTrainer_of_copyBack hcopy
    rw [hvalue] at hrefreshed
    cases hreturn
    exact ⟨ht, .inr ⟨_, rfl, by rw [htrainers, hvalue], hrefreshed, rfl⟩⟩

omit hV hP

/-- The target in the value phase of an attempt from `s` that starts in `t`: it is the value trainer
as it has come into the phase, and stays so whatever the rounds make of the trainer. -/
structure ValuePhaseTarget (collected : Snapshot α) (s t : Session α ρ τ) : Prop where
  /-- The value trainer has the policy's shared layers, or is as the attempt has found it. -/
  trainer : ∃ (x : τ × RunWorld α) (y : ρ × RunWorld α),
    Trainer.setState collected (s.1.policyTrainer, s.2) = (.ok (), x) ∧
    (if 0 < s.config.sharedLayers then
      copyLayersFrom 0 s.config.sharedLayers x.1 s.config.copyOptimizerSlots
        (s.1.valueTrainer, x.2) = (.ok (), y)
    else y.1 = s.1.valueTrainer) ∧ t.1.valueTrainer = y.1
  refreshed : s.target.RefreshedFrom t.1.valueTrainer t.target
  mirrors : t.target.Mirrors t.1.valueTrainer
  stays (i : Nat) (r : Run α Unit) (u : Session α ρ τ) :
    Action.repeated (round s.config .value) i t = (r, u) → u.target = t.target

/-- The target in the policy phase, which is opened in `u` after the value rounds and starts in `w`:
it is the value trainer as it has left its rounds, and both stay so through the policy rounds. -/
structure PolicyPhaseTarget (config : Config) (p : PolicyOpening) (u w : Session α ρ τ) :
    Prop where
  trainer : w.1.valueTrainer = u.1.valueTrainer
  refreshed : u.target.RefreshedFrom u.1.valueTrainer w.target
  mirrors : w.target.Mirrors u.1.valueTrainer
  version : p.version = w.target.version
  stays (i : Nat) (r : Run α Unit) (v : Session α ρ τ) :
    Action.repeated (round config .policy) i w = (r, v) →
      v.target = w.target ∧ v.1.valueTrainer = u.1.valueTrainer

/-- What the course of an attempt from `s` to `v` makes of the target, with so many refreshes. -/
inductive Course.MovesTarget (collected : Snapshot α) (s v : Session α ρ τ) :
    Course α ρ τ → Nat → Prop where
  | unrefreshed (target : v.target = s.target) : MovesTarget collected s v .unopened 0
  | unopened (refreshed : s.target.RefreshedFrom v.1.valueTrainer v.target) :
      MovesTarget collected s v .unopened 1
  | valuePhase {n : Nat} {t : Session α ρ τ} (value : ValuePhaseTarget collected s t)
      (target : v.target = t.target) : MovesTarget collected s v (.valuePhase n t) 1
  | policyPhase {n : Nat} {t u w : Session α ρ τ} {p : PolicyOpening}
      (value : ValuePhaseTarget collected s t) (trained : u.target = t.target)
      (policy : PolicyPhaseTarget s.config p u w) (target : v.target = w.target) :
      MovesTarget collected s v (.policyPhase n t u p w) 2

/-- The refreshes are of the value trainer's snapshots where the phases start. -/
theorem Course.MovesTarget.refreshes {collected : Snapshot α} {s v : Session α ρ τ}
    {course : Course α ρ τ} {count : Nat} (h : course.MovesTarget collected s v count) :
    ∃ loads, loads.length = count ∧ s.target.refreshes loads = .ok v.target := by
  cases h with
  | unrefreshed hsame => exact ⟨[], rfl, by rw [hsame]; rfl⟩
  | unopened hrefreshed =>
      obtain ⟨load, hload⟩ := hrefreshed.refreshes
      exact ⟨[load], rfl, hload⟩
  | valuePhase hvalue hsame =>
      obtain ⟨load, hload⟩ := hvalue.refreshed.refreshes
      exact ⟨[load], rfl, by rw [hsame, hload]⟩
  | policyPhase hvalue htrained hpolicy hsame =>
      obtain ⟨first, hfirst⟩ := hvalue.refreshed.refreshes
      obtain ⟨second, hsecond⟩ := hpolicy.refreshed.refreshes
      rw [htrained] at hsecond
      exact ⟨[first, second], rfl, by
        rw [hsame]
        exact ValueTarget.refreshes_append_eq_ok.2 ⟨_, hfirst, hsecond⟩⟩

omit [Trainer α (Supply α) ρ] in
theorem valueTrainer_of_policyRounds {steps evalSteps n : Nat} {s t : Session α ρ τ}
    {r : Run α Unit}
    (h : Action.repeated (onPolicy (Trainer.trainRound steps evalSteps)) n s = (r, t)) :
    t.1.valueTrainer = s.1.valueTrainer := by
  have hround : Action.Respects (fun t : Session α ρ τ => t.1.valueTrainer = s.1.valueTrainer)
      (fun _ => True) (onPolicy (Trainer.trainRound steps evalSteps)) :=
    fun _ hs => ⟨hs, fun _ _ => trivial⟩
  exact (hround.repeated n).keeps h rfl

include hV hP

theorem valuePhaseTarget_of_openValuePhase {epoch n : Nat} {collected : Snapshot α}
    {s t : Session α ρ τ} (hs : s.Has V P)
    (h : openValuePhase s.config epoch collected s = (.ok n, t)) :
    t.Has V P ∧ ValuePhaseTarget collected s t := by
  obtain ⟨ht, ⟨_, herror, -⟩ | ⟨-, -, -, hrefreshed⟩⟩ := openValuePhase_target hV hP hs h
  · cases herror
  obtain ⟨⟨⟩, u, hprepare, hremaining⟩ := Action.bind_eq_ok.1 h
  obtain ⟨x, y, world, hstate, hcopy, rfl⟩ := prepareValuePhase_eq_ok hprepare
  cases session_of_remainingValueRounds hremaining
  refine ⟨ht, ⟨x, y, hstate, hcopy, rfl⟩, hrefreshed, hrefreshed.mirrors, fun i r u hrounds => ?_⟩
  have hspares : SparesTarget V P (Action.repeated (round s.config .value) i) :=
    fun target => (sparesTarget_round hV hP s.config .value target).repeated i
  exact (hspares.outcome hrounds ht).2

theorem policyPhaseTarget_of_openPolicyPhase {config : Config} {epoch n : Nat}
    {p : PolicyOpening} {u w : Session α ρ τ} (hu : u.Has V P)
    (h : openPolicyPhase config epoch n u = (.ok p, w)) :
    w.Has V P ∧ PolicyPhaseTarget config p u w := by
  obtain ⟨hw, ⟨_, herror, -⟩ | ⟨_, ⟨⟩, htrainer, hrefreshed, hversion⟩⟩ :=
    openPolicyPhase_target hP hu h
  · cases herror
  refine ⟨hw, htrainer, hrefreshed, hrefreshed.mirrors, hversion, fun i r v hrounds => ⟨?_, ?_⟩⟩
  · have hspares : SparesTarget V P (Action.repeated (round config .policy) i) :=
      fun target => (sparesTarget_round hV hP config .policy target).repeated i
    exact (hspares.outcome hrounds hw).2
  · exact (valueTrainer_of_policyRounds hrounds).trans htrainer

/-- Every course moves the target as its pieces do. -/
theorem Takes.movesTarget {epoch : Nat} {collected : Snapshot α} {s v : Session α ρ τ}
    {course : Course α ρ τ} {r : Run α EpochSummary} (hs : s.Has V P)
    (h : Takes epoch collected s course r v) :
    v.Has V P ∧ ∃ count, count ≤ 2 ∧ course.MovesTarget collected s v count := by
  have hrounds (role : Role) (i : Nat) :
      SparesTarget V P (Action.repeated (round s.config role) i) :=
    fun target => (sparesTarget_round hV hP s.config role target).repeated i
  cases h with
  | unopened hfails =>
      obtain ⟨hv, ⟨_, -, hsame⟩ | ⟨-, -, -, hrefreshed⟩⟩ := openValuePhase_target hV hP hs hfails
      · exact ⟨hv, 0, by decide, .unrefreshed hsame⟩
      · exact ⟨hv, 1, by decide, .unopened hrefreshed⟩
  | valuePhase hopen hfails =>
      obtain ⟨ht, hvalue⟩ := valuePhaseTarget_of_openValuePhase hV hP hs hopen
      obtain hvalues | ⟨⟨⟩, u, hvalues, hpolicy⟩ := Action.bind_eq_error.1 hfails
      · obtain ⟨hv, hsame⟩ := (hrounds .value _).outcome hvalues ht
        exact ⟨hv, 1, by decide, .valuePhase hvalue hsame⟩
      · obtain ⟨hu, hsame⟩ := (hrounds .value _).outcome hvalues ht
        obtain ⟨hv, ⟨_, -, hkept⟩ | ⟨_, herror, -⟩⟩ := openPolicyPhase_target hP hu hpolicy
        · exact ⟨hv, 1, by decide, .valuePhase hvalue (hkept.trans hsame)⟩
        · cases herror
  | policyPhase hopen hvalues hpolicy hpolicies =>
      obtain ⟨ht, hvalue⟩ := valuePhaseTarget_of_openValuePhase hV hP hs hopen
      obtain ⟨hu, hsame⟩ := (hrounds .value _).outcome hvalues ht
      obtain ⟨hw, hstarted⟩ := policyPhaseTarget_of_openPolicyPhase hV hP hu hpolicy
      obtain ⟨hv, hkept⟩ := (hrounds .policy _).outcome hpolicies hw
      exact ⟨hv, 2, by decide, .policyPhase hvalue hsame hstarted hkept⟩

/-- Whatever their outcomes, attempts change the target by refreshes alone. -/
theorem refreshes_of_afterAttempts {s : Session α ρ τ} (hs : s.Has V P)
    (calls : List (Nat × Snapshot α)) :
    (s.afterAttempts calls).Has V P ∧
      ∃ loads, s.target.refreshes loads = .ok (s.afterAttempts calls).target := by
  induction calls generalizing s with
  | nil => exact ⟨hs, [], rfl⟩
  | cons call calls ih =>
      obtain ⟨course, htakes⟩ :=
        trainEpoch_eq_iff.1 (Prod.eta (trainEpoch call.1 call.2 s)).symm
      obtain ⟨ht, _, -, hmoves⟩ := htakes.movesTarget hV hP hs
      obtain ⟨loads, -, hloads⟩ := hmoves.refreshes
      obtain ⟨hend, more, hmore⟩ := ih ht
      exact ⟨hend, loads ++ more,
        ValueTarget.refreshes_append_eq_ok.2 ⟨_, hloads, hmore⟩⟩

omit hV hP

/-- What an attempt from `s` with the outcome `r` in `v` does with the target. -/
structure TargetDiscipline (epoch : Nat) (collected : Snapshot α) (s : Session α ρ τ)
    (r : Run α EpochSummary) (v : Session α ρ τ) : Prop where
  /-- The target is refreshed where the phases start, from the value trainer as it is there. -/
  course : ∃ course count, Takes epoch collected s course r v ∧
    course.MovesTarget collected s v count ∧ count ≤ 2 ∧
    (∃ loads, loads.length = count ∧ s.target.refreshes loads = .ok v.target) ∧
    v.target.version = s.target.version + count
  /-- A successful attempt gets through both phases, and tells the version of the second. -/
  success (summary : EpochSummary) : r = .ok summary →
    ∃ n t u p w, Takes epoch collected s (.policyPhase n t u p w) (.ok summary) v ∧
      Course.MovesTarget collected s v (.policyPhase n t u p w) 2 ∧
      v.target.version = s.target.version + 2 ∧
      summary.valueTargetVersion = w.target.version ∧
      summary.valueTargetVersion = v.target.version

/-- Attempts that follow one another, at whatever epochs and with whatever outcomes, move the value
target by refreshes alone, each of which counts its version up; and every one of them keeps the
discipline. -/
theorem value_target_discipline {s : Session α ρ τ}
    (hvalue : Trainer.LeavesTarget s.1.valueTrainer)
    (hpolicy : Trainer.LeavesTarget s.1.policyTrainer) (calls : List (Nat × Snapshot α)) :
    (∃ loads, s.target.refreshes loads = .ok (s.afterAttempts calls).target ∧
      (s.afterAttempts calls).target.version = s.target.version + loads.length) ∧
    ∀ epoch collected r v, trainEpoch epoch collected (s.afterAttempts calls) = (r, v) →
      TargetDiscipline epoch collected (s.afterAttempts calls) r v := by
  obtain ⟨V, hv, hV⟩ := hvalue
  obtain ⟨P, hp, hP⟩ := hpolicy
  obtain ⟨hafter, loads, hloads⟩ := refreshes_of_afterAttempts hV hP ⟨hv, hp⟩ calls
  refine ⟨⟨loads, hloads, ValueTarget.version_of_refreshes hloads⟩, ?_⟩
  intro epoch collected r v hrun
  obtain ⟨course, htakes⟩ := trainEpoch_eq_iff.1 hrun
  obtain ⟨-, count, hcount, hmoves⟩ := htakes.movesTarget hV hP hafter
  obtain ⟨more, hlength, hmore⟩ := hmoves.refreshes
  have hversion := ValueTarget.version_of_refreshes hmore
  rw [hlength] at hversion
  refine ⟨⟨course, count, htakes, hmoves, hcount, ⟨more, hlength, hmore⟩, hversion⟩, ?_⟩
  rintro summary rfl
  obtain ⟨n, t, u, p, w, rfl, rfl, -⟩ := htakes.exists_policyPhase
  refine ⟨n, t, u, p, w, htakes, ?_⟩
  cases hmoves with
  | policyPhase value trained policy target =>
      exact ⟨.policyPhase value trained policy target, hversion, policy.version,
        policy.version.trans (congrArg ValueTarget.version target.symm)⟩

/-- An attempt that resumes in the middle of its value rounds refreshes the target twice; one at
an epoch that the trainers are not at fails after the first refresh. -/
theorem value_target_discipline_resumed :
    Trainer.LeavesTarget (recordingSession 2 0).1.valueTrainer ∧
    Trainer.LeavesTarget (recordingSession 2 0).1.policyTrainer ∧
    ∃ (e : Failure (Error Float32)) (v w : RecordingSession),
      trainEpoch 0 (.empty 2) (recordingSession 2 0) = (.ok ⟨0, 1, 2, true, 2⟩, v) ∧
      trainEpoch 3 (.empty 2) v = (.error e, w) ∧
      v.target.version = 2 ∧ w.target.version = 3 ∧
      TargetDiscipline 0 (.empty 2) (recordingSession 2 0) (.ok ⟨0, 1, 2, true, 2⟩) v ∧
      TargetDiscipline 3 (.empty 2) v (.error e) w := by
  let c := (recordingSession 2 0).1
  have hvalue : Trainer.LeavesTarget c.valueTrainer :=
    RecordingTrainer.leavesTarget (c.valueBatches.leavesTarget_source c.plan.task)
  have hpolicy : Trainer.LeavesTarget c.policyTrainer :=
    RecordingTrainer.leavesTarget (c.policyBatches.leavesTarget_source c.plan.task)
  have hfirst : trainEpoch 0 (.empty 2) (recordingSession 2 0) = (.ok ⟨0, 1, 2, true, 2⟩, _) :=
    Action.eq_of_toOption (by decide +kernel)
  obtain ⟨e, hsecond⟩ := Action.exists_error_of_isNone (a := trainEpoch 3 (.empty 2))
    (s := (recordingSession 2 0).afterAttempts [(0, .empty 2)]) (by decide +kernel)
  exact ⟨hvalue, hpolicy, _, _, _, hfirst, hsecond, by decide +kernel, by decide +kernel,
    (value_target_discipline hvalue hpolicy []).2 _ _ _ _ hfirst,
    (value_target_discipline hvalue hpolicy [(0, .empty 2)]).2 _ _ _ _ hsecond⟩

end Coordinator
end ActorCritic
