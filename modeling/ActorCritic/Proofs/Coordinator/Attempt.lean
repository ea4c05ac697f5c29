import ActorCritic.Coordinator
import ActorCritic.Proofs.Action
import ActorCritic.Proofs.EpochSchedule
import ActorCritic.Proofs.Trainer.Lawful

/-!
One attempt at an epoch, cut where it can be interrupted: what opens the value phase, the value
rounds one by one, what opens the policy phase, and the policy rounds one by one. An attempt
succeeds exactly if it gets through all of these in order, and fails exactly where the first of
them fails.
-/

namespace ActorCritic
namespace Coordinator

variable {α ρ τ : Type} [Trainer α (Supply α) ρ] [Trainer α (Supply α) τ]

abbrev Session (α ρ τ : Type) := Coordinator α ρ τ × RunWorld α

/-- What one of the two trainers shows of itself. -/
def Session.reading (s : Session α ρ τ) : Role → Reading α
  | .value => Trainer.reading s.1.valueTrainer
  | .policy => Trainer.reading s.1.policyTrainer

def Session.config (s : Session α ρ τ) : Config := s.1.plan.config

/-- What comes before the value rounds and does not look at the epoch. -/
def prepareValuePhase (config : Config) (collected : Snapshot α) :
    CoordinatorAction α ρ τ Unit := do
  onPolicy (Trainer.setState collected)
  if 0 < config.sharedLayers then copyPolicyToValue
  let _ ← refreshTarget

/-- Returns the number of the value rounds that remain. -/
def openValuePhase (config : Config) (epoch : Nat) (collected : Snapshot α) :
    CoordinatorAction α ρ τ Nat := do
  prepareValuePhase config collected
  remainingValueRounds epoch

/-- How the policy phase of an attempt starts. -/
structure PolicyOpening where
  rounds : Nat
  copied : Bool
  version : Nat
deriving DecidableEq, Repr

def openPolicyPhase (config : Config) (epoch valueRounds : Nat) :
    CoordinatorAction α ρ τ PolicyOpening := do
  let rounds ← remainingPolicyRounds epoch
  let copied : Bool :=
    0 < config.sharedLayers ∧ ¬(valueRounds = 0 ∧ rounds < config.policyEvalsPerEpoch)
  if copied then copyValueToPolicy
  let version ← refreshTarget
  return ⟨rounds, copied, version⟩

def round (config : Config) : Role → CoordinatorAction α ρ τ Unit
  | .value => onValue (Trainer.trainRound config.valueStepsPerEval config.valueEvalSteps)
  | .policy => onPolicy (Trainer.trainRound config.policyStepsPerEval config.policyEvalSteps)

def PolicyOpening.summary (p : PolicyOpening) (epoch valueRounds : Nat) : EpochSummary where
  epoch := epoch
  valueRounds := valueRounds
  policyRounds := p.rounds
  copiedValueToPolicy := p.copied
  valueTargetVersion := p.version

/-- An attempt is its two phases, each opened and then run round by round. -/
theorem trainEpoch_run (epoch : Nat) (collected : Snapshot α) (s : Session α ρ τ) :
    trainEpoch epoch collected s =
      (do
        let n ← openValuePhase s.config epoch collected
        Action.repeated (round s.config .value) n
        let p ← openPolicyPhase s.config epoch n
        Action.repeated (round s.config .policy) p.rounds
        return p.summary epoch n : CoordinatorAction α ρ τ EpochSummary) s := by
  unfold trainEpoch openValuePhase prepareValuePhase openPolicyPhase
  simp only [bind_assoc, pure_bind, Action.ite_bind, decide_eq_true_eq]
  rfl

/-- A round that was completed, with the steps of its trainer before and after it. -/
structure CompletedRound where
  role : Role
  epoch : Nat
  before : Nat
  after : Nat
deriving DecidableEq, Repr

def completed (role : Role) (epoch : Nat) (s t : Session α ρ τ) : CompletedRound where
  role := role
  epoch := epoch
  before := (s.reading role).step
  after := (t.reading role).step

/-- How far an attempt has come. -/
inductive Stage where
  | called
  | valuePhase (rounds done : Nat)
  | policyPhase (valueRounds : Nat) (opening : PolicyOpening) (done : Nat)

/-- The attempt at an epoch that starts in `s` gets to a stage, with the rounds it has completed on
the way and the session that it has reached there. -/
inductive Reaches (epoch : Nat) (collected : Snapshot α) (s : Session α ρ τ) :
    Stage → List CompletedRound → Session α ρ τ → Prop where
  | called : Reaches epoch collected s .called [] s
  | openValue {n : Nat} {t : Session α ρ τ} :
      openValuePhase s.config epoch collected s = (.ok n, t) →
        Reaches epoch collected s (.valuePhase n 0) [] t
  | valueRound {n i : Nat} {log : List CompletedRound} {t u : Session α ρ τ} :
      Reaches epoch collected s (.valuePhase n i) log t → i < n →
        round s.config .value t = (.ok (), u) →
        Reaches epoch collected s (.valuePhase n (i + 1)) (log ++ [completed .value epoch t u]) u
  | openPolicy {n : Nat} {p : PolicyOpening} {log : List CompletedRound} {t u : Session α ρ τ} :
      Reaches epoch collected s (.valuePhase n n) log t →
        openPolicyPhase s.config epoch n t = (.ok p, u) →
        Reaches epoch collected s (.policyPhase n p 0) log u
  | policyRound {n i : Nat} {p : PolicyOpening} {log : List CompletedRound}
      {t u : Session α ρ τ} :
      Reaches epoch collected s (.policyPhase n p i) log t → i < p.rounds →
        round s.config .policy t = (.ok (), u) →
        Reaches epoch collected s (.policyPhase n p (i + 1))
          (log ++ [completed .policy epoch t u]) u

namespace Reaches

variable {epoch : Nat} {collected : Snapshot α} {s t u : Session α ρ τ} {n : Nat}
  {p : PolicyOpening}

/-- Value rounds that succeed one after another are stages of the value phase. -/
theorem of_valueRounds (h : openValuePhase s.config epoch collected s = (.ok n, t)) {i : Nat}
    (hi : i ≤ n) (hrounds : Action.repeated (round s.config .value) i t = (.ok (), u)) :
    ∃ log, Reaches epoch collected s (.valuePhase n i) log u := by
  have hreach := Action.repeated_induction
    (R := fun i u => ∃ log, Reaches epoch collected s (.valuePhase n i) log u)
    (fun _ _ _ hlt ⟨_, hr⟩ hround => ⟨_, hr.valueRound hlt hround⟩)
    (i := 0) (by omega) ⟨[], .openValue h⟩ hrounds
  rwa [Nat.zero_add] at hreach

theorem of_policyRounds {log : List CompletedRound}
    (hvalue : Reaches epoch collected s (.valuePhase n n) log t) {v : Session α ρ τ}
    (h : openPolicyPhase s.config epoch n t = (.ok p, u)) {i : Nat} (hi : i ≤ p.rounds)
    (hrounds : Action.repeated (round s.config .policy) i u = (.ok (), v)) :
    ∃ log, Reaches epoch collected s (.policyPhase n p i) log v := by
  have hreach := Action.repeated_induction
    (R := fun i v => ∃ log, Reaches epoch collected s (.policyPhase n p i) log v)
    (fun _ _ _ hlt ⟨_, hr⟩ hround => ⟨_, hr.policyRound hlt hround⟩)
    (i := 0) (by omega) ⟨log, .openPolicy hvalue h⟩ hrounds
  rwa [Nat.zero_add] at hreach

theorem valueRounds {i : Nat} {log : List CompletedRound}
    (h : Reaches epoch collected s (.valuePhase n i) log u) :
    ∃ t, openValuePhase s.config epoch collected s = (.ok n, t) ∧ i ≤ n ∧
      Action.repeated (round s.config .value) i t = (.ok (), u) := by
  induction i generalizing log u with
  | zero =>
      cases h with
      | openValue hopen => exact ⟨u, hopen, Nat.zero_le n, rfl⟩
  | succ i ih =>
      cases h with
      | valueRound hreach hlt hround =>
          obtain ⟨t, hopen, -, hrounds⟩ := ih hreach
          exact ⟨t, hopen, hlt, Action.repeated_snoc hrounds hround⟩

theorem policyRounds {i : Nat} {log : List CompletedRound} {v : Session α ρ τ}
    (h : Reaches epoch collected s (.policyPhase n p i) log v) :
    ∃ log t u, Reaches epoch collected s (.valuePhase n n) log t ∧
      openPolicyPhase s.config epoch n t = (.ok p, u) ∧ i ≤ p.rounds ∧
      Action.repeated (round s.config .policy) i u = (.ok (), v) := by
  induction i generalizing log v with
  | zero =>
      cases h with
      | openPolicy hvalue hopen => exact ⟨_, _, v, hvalue, hopen, Nat.zero_le _, rfl⟩
  | succ i ih =>
      cases h with
      | policyRound hreach hlt hround =>
          obtain ⟨log, t, u, hvalue, hopen, -, hrounds⟩ := ih hreach
          exact ⟨log, t, u, hvalue, hopen, hlt, Action.repeated_snoc hrounds hround⟩

end Reaches

/-- An attempt succeeds exactly if it reaches the end of its policy phase. -/
theorem trainEpoch_eq_ok {epoch : Nat} {collected : Snapshot α} {s t : Session α ρ τ}
    {summary : EpochSummary} :
    trainEpoch epoch collected s = (.ok summary, t) ↔
      ∃ n p log, Reaches epoch collected s (.policyPhase n p p.rounds) log t ∧
        p.summary epoch n = summary := by
  rw [trainEpoch_run]
  constructor
  · intro h
    obtain ⟨n, u, hvalue, h⟩ := Action.bind_eq_ok.1 h
    obtain ⟨⟨⟩, v, hvalues, h⟩ := Action.bind_eq_ok.1 h
    obtain ⟨p, w, hpolicy, h⟩ := Action.bind_eq_ok.1 h
    obtain ⟨⟨⟩, _, hpolicies, h⟩ := Action.bind_eq_ok.1 h
    obtain ⟨hsummary, rfl⟩ := Action.pure_eq_ok.1 h
    obtain ⟨log, hreach⟩ := Reaches.of_valueRounds hvalue (Nat.le_refl n) hvalues
    obtain ⟨log, hend⟩ := Reaches.of_policyRounds hreach hpolicy (Nat.le_refl _) hpolicies
    exact ⟨n, p, log, hend, hsummary⟩
  · rintro ⟨n, p, log, hreach, hsummary⟩
    obtain ⟨log, v, w, hvalue, hpolicy, -, hpolicies⟩ := hreach.policyRounds
    obtain ⟨u, hopen, -, hvalues⟩ := hvalue.valueRounds
    rw [Action.bind_of_ok hopen, Action.bind_of_ok hvalues, Action.bind_of_ok hpolicy,
      Action.bind_of_ok hpolicies]
    exact Action.pure_eq_ok.2 ⟨hsummary, rfl⟩

/-- A failed attempt has failed in the piece that follows one of its stages. -/
theorem trainEpoch_eq_error {epoch : Nat} {collected : Snapshot α} {s t : Session α ρ τ}
    {e : Failure (Error α)} (h : trainEpoch epoch collected s = (.error e, t)) :
    openValuePhase s.config epoch collected s = (.error e, t) ∨
    (∃ n i log u, Reaches epoch collected s (.valuePhase n i) log u ∧
      round s.config .value u = (.error e, t)) ∨
    (∃ n log u, Reaches epoch collected s (.valuePhase n n) log u ∧
      openPolicyPhase s.config epoch n u = (.error e, t)) ∨
    ∃ n p i log u, Reaches epoch collected s (.policyPhase n p i) log u ∧
      round s.config .policy u = (.error e, t) := by
  rw [trainEpoch_run] at h
  obtain h | ⟨n, u, hvalue, h⟩ := Action.bind_eq_error.1 h
  · exact .inl h
  obtain h | ⟨⟨⟩, v, hvalues, h⟩ := Action.bind_eq_error.1 h
  · obtain ⟨i, v, hi, hrounds, hround⟩ := Action.repeated_eq_error h
    obtain ⟨log, hreach⟩ := Reaches.of_valueRounds hvalue (Nat.le_of_lt hi) hrounds
    exact .inr (.inl ⟨n, i, log, v, hreach, hround⟩)
  obtain ⟨log, hreach⟩ := Reaches.of_valueRounds hvalue (Nat.le_refl n) hvalues
  obtain h | ⟨p, w, hpolicy, h⟩ := Action.bind_eq_error.1 h
  · exact .inr (.inr (.inl ⟨n, log, v, hreach, h⟩))
  obtain h | ⟨⟨⟩, x, hpolicies, h⟩ := Action.bind_eq_error.1 h
  · obtain ⟨i, x, hi, hrounds, hround⟩ := Action.repeated_eq_error h
    obtain ⟨log, hstage⟩ := Reaches.of_policyRounds hreach hpolicy (Nat.le_of_lt hi) hrounds
    exact .inr (.inr (.inr ⟨n, p, i, log, x, hstage, hround⟩))
  · cases h

/-- How far an attempt gets until it ends, and the sessions in which its phases start. -/
inductive Course (α ρ τ : Type) where
  /-- The value phase is not opened. -/
  | unopened
  /-- The value phase starts, with some rounds to run, and the policy phase is not opened. -/
  | valuePhase (rounds : Nat) (start : Session α ρ τ)
  /-- The value rounds are run, which leaves a trained session, and the policy phase starts. -/
  | policyPhase (rounds : Nat) (start trained : Session α ρ τ) (opening : PolicyOpening)
      (policyStart : Session α ρ τ)

def Course.valueStart? : Course α ρ τ → Option (Session α ρ τ)
  | unopened => none
  | valuePhase _ start => some start
  | policyPhase _ start _ _ _ => some start

/-- The attempt at an epoch from `s` takes this course to its outcome. -/
inductive Takes (epoch : Nat) (collected : Snapshot α) (s : Session α ρ τ) :
    Course α ρ τ → Run α EpochSummary → Session α ρ τ → Prop where
  | unopened {e : Failure (Error α)} {v : Session α ρ τ}
      (fails : openValuePhase s.config epoch collected s = (.error e, v)) :
      Takes epoch collected s .unopened (.error e) v
  | valuePhase {n : Nat} {e : Failure (Error α)} {t v : Session α ρ τ}
      (opens : openValuePhase s.config epoch collected s = (.ok n, t))
      (fails : (do
        Action.repeated (round s.config .value) n
        openPolicyPhase s.config epoch n) t = (.error e, v)) :
      Takes epoch collected s (.valuePhase n t) (.error e) v
  | policyPhase {n : Nat} {p : PolicyOpening} {r : Run α Unit} {t u w v : Session α ρ τ}
      (opens : openValuePhase s.config epoch collected s = (.ok n, t))
      (trains : Action.repeated (round s.config .value) n t = (.ok (), u))
      (opensPolicy : openPolicyPhase s.config epoch n u = (.ok p, w))
      (ends : Action.repeated (round s.config .policy) p.rounds w = (r, v)) :
      Takes epoch collected s (.policyPhase n t u p w) (r.map fun _ => p.summary epoch n) v

/-- Every attempt takes a course, and what comes of it is what the pieces on the course make. -/
theorem trainEpoch_eq_iff {epoch : Nat} {collected : Snapshot α} {s v : Session α ρ τ}
    {r : Run α EpochSummary} :
    trainEpoch epoch collected s = (r, v) ↔ ∃ course, Takes epoch collected s course r v := by
  rw [trainEpoch_run]
  constructor
  · intro h
    obtain ⟨e, hopen, rfl⟩ | ⟨n, t, hopen, h⟩ := Action.bind_eq.1 h
    · exact ⟨_, .unopened hopen⟩
    obtain ⟨e, hvalues, rfl⟩ | ⟨⟨⟩, u, hvalues, h⟩ := Action.bind_eq.1 h
    · exact ⟨_, .valuePhase hopen (Action.bind_eq_error.2 (.inl hvalues))⟩
    obtain ⟨e, hpolicy, rfl⟩ | ⟨p, w, hpolicy, h⟩ := Action.bind_eq.1 h
    · exact ⟨_, .valuePhase hopen (Action.bind_eq_error.2 (.inr ⟨(), u, hvalues, hpolicy⟩))⟩
    obtain ⟨e, hpolicies, rfl⟩ | ⟨⟨⟩, _, hpolicies, h⟩ := Action.bind_eq.1 h
    · exact ⟨_, .policyPhase hopen hvalues hpolicy hpolicies⟩
    · cases h
      exact ⟨_, .policyPhase hopen hvalues hpolicy hpolicies⟩
  · rintro ⟨course, h⟩
    cases h with
    | unopened hopen => exact Action.bind_eq_error.2 (.inl hopen)
    | valuePhase hopen hfails =>
        rw [Action.bind_of_ok hopen]
        obtain hvalues | ⟨⟨⟩, u, hvalues, hpolicy⟩ := Action.bind_eq_error.1 hfails
        · exact Action.bind_eq_error.2 (.inl hvalues)
        · rw [Action.bind_of_ok hvalues]
          exact Action.bind_eq_error.2 (.inl hpolicy)
    | @policyPhase n p r t u w v hopen hvalues hpolicy hpolicies =>
        rw [Action.bind_of_ok hopen, Action.bind_of_ok hvalues, Action.bind_of_ok hpolicy]
        cases r with
        | ok x => exact Action.bind_of_ok hpolicies
        | error e => exact Action.bind_eq_error.2 (.inl hpolicies)

namespace Takes

variable {epoch n : Nat} {collected : Snapshot α} {s t v : Session α ρ τ} {course : Course α ρ τ}
  {r : Run α EpochSummary}

/-- The value phase of a course is the stage that the attempt reaches. -/
theorem valueStart?_eq_some (h : Takes epoch collected s course r v) :
    course.valueStart? = some t ↔ ∃ n, Reaches epoch collected s (.valuePhase n 0) [] t := by
  have hunique {n : Nat} {u : Session α ρ τ}
      (hopen : openValuePhase s.config epoch collected s = (.ok n, u)) :
      some u = some t ↔ ∃ n, Reaches epoch collected s (.valuePhase n 0) [] t := by
    constructor
    · rintro ⟨⟩
      exact ⟨n, .openValue hopen⟩
    · rintro ⟨m, hreach⟩
      cases hreach with
      | openValue hopen' =>
          cases hopen.symm.trans hopen'
          rfl
  cases h with
  | unopened hfails =>
      refine iff_of_false nofun ?_
      rintro ⟨n, hreach⟩
      cases hreach with
      | openValue hopen => cases hfails.symm.trans hopen
  | valuePhase hopen _ => exact hunique hopen
  | policyPhase hopen _ _ _ => exact hunique hopen

/-- A successful attempt gets to the end of its policy phase. -/
theorem exists_policyPhase {summary : EpochSummary}
    (h : Takes epoch collected s course (.ok summary) v) :
    ∃ n t u p w, course = .policyPhase n t u p w ∧ p.summary epoch n = summary ∧
      Action.repeated (round s.config .policy) p.rounds w = (.ok (), v) := by
  generalize hr : (.ok summary : Run α EpochSummary) = r at h
  cases h with
  | unopened _ => cases hr
  | valuePhase _ _ => cases hr
  | @policyPhase n p r t u w v _ _ _ hpolicies =>
      cases r with
      | ok x => exact ⟨n, t, u, p, w, rfl, (Except.ok.inj hr).symm, hpolicies⟩
      | error e => cases hr

theorem reaches_trained {u w : Session α ρ τ} {p : PolicyOpening}
    (h : Takes epoch collected s (.policyPhase n t u p w) r v) :
    ∃ log, Reaches epoch collected s (.valuePhase n n) log u ∧
      openPolicyPhase s.config epoch n u = (.ok p, w) := by
  cases h with
  | policyPhase hopen hvalues hpolicy _ =>
      obtain ⟨log, hreach⟩ := Reaches.of_valueRounds hopen (Nat.le_refl n) hvalues
      exact ⟨log, hreach, hpolicy⟩

end Takes

end Coordinator
end ActorCritic
