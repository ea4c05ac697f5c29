import ActorCritic.Proofs.Coordinator.Evaluation
import ActorCritic.Proofs.Coordinator.Resumption
import ActorCritic.Proofs.Trainer.Interruption

/-!
Attempts that fail at a batch, and the next attempt at the epoch. Gradient steps are counted one by
one, while an epoch is resumed by whole rounds. So an attempt that failed at the first batch of a
round is continued by the next, and after one that failed at a later batch no attempt at the epoch
gets anywhere, however good the batches have become.
-/

namespace ActorCritic
namespace Coordinator

section Attempt

variable {α ρ τ : Type} [Trainer α (Supply α) ρ] [Trainer α (Supply α) τ]

/-- What the schedule says of the rounds that a trainer has left. -/
def Session.remaining (s : Session α ρ τ) (epoch : Nat) (role : Role) :
    Attempt ScheduleError Nat :=
  remainingRounds (s.reading role).step epoch (s.config.stepsPerEpoch role)
    (s.config.roundsPerEpoch role)

theorem Resumes.remaining {s t : Session α ρ τ} (h : Resumes s t) (epoch : Nat) (role : Role) :
    t.remaining epoch role = s.remaining epoch role := by
  rw [Session.remaining, Session.remaining, h.step, h.config]

/-- Only the schedule can stop the attempt: every batch is good, and every copy fits. -/
def Unhindered (epoch : Nat) (collected : Snapshot α) (s : Session α ρ τ) : Prop :=
  ∀ e t, trainEpoch epoch collected s = (.error e, t) → e.IsSchedule

theorem remainingValueRounds_run (epoch : Nat) (s : Session α ρ τ) :
    remainingValueRounds epoch s = ((s.remaining epoch .value).widen .schedule, s) := rfl

theorem remainingPolicyRounds_run (epoch : Nat) (s : Session α ρ τ) :
    remainingPolicyRounds epoch s = ((s.remaining epoch .policy).widen .schedule, s) := rfl

/-- An attempt fails where a value round does. -/
theorem trainEpoch_of_valueRound_error {epoch n i : Nat} {collected : Snapshot α}
    {log : List CompletedRound} {s t u : Session α ρ τ} {e : Failure (Error α)}
    (hreach : Reaches epoch collected s (.valuePhase n i) log t) (hi : i < n)
    (h : round s.config .value t = (.error e, u)) :
    trainEpoch epoch collected s = (.error e, u) := by
  obtain ⟨v, hopen, -, hrounds⟩ := hreach.valueRounds
  rw [trainEpoch_run, Action.bind_of_ok hopen]
  exact Action.bind_eq_error.2 (.inl (Action.repeated_of_error hi hrounds h))

theorem trainEpoch_of_policyRound_error {epoch n i : Nat} {p : PolicyOpening}
    {collected : Snapshot α} {log : List CompletedRound} {s t u : Session α ρ τ}
    {e : Failure (Error α)} (hreach : Reaches epoch collected s (.policyPhase n p i) log t)
    (hi : i < p.rounds) (h : round s.config .policy t = (.error e, u)) :
    trainEpoch epoch collected s = (.error e, u) := by
  obtain ⟨log, v, w, hvalue, hpolicy, -, hrounds⟩ := hreach.policyRounds
  obtain ⟨x, hopen, -, hvalues⟩ := hvalue.valueRounds
  rw [trainEpoch_run, Action.bind_of_ok hopen, Action.bind_of_ok hvalues,
    Action.bind_of_ok hpolicy]
  exact Action.bind_eq_error.2 (.inl (Action.repeated_of_error hi hrounds h))

theorem exists_cause {β : Type} {x : Attempt ScheduleError β} {e : Failure (Error α)}
    (h : x.widen .schedule = .error e) (he : e.IsSchedule) :
    ∃ cause, x = .error (.error cause) ∧ e = .error (.schedule cause) := by
  obtain ⟨c, hx, rfl⟩ := Attempt.mapError_eq_error.1 h
  cases c with
  | abort a => exact he.elim
  | error cause => exact ⟨cause, hx, rfl⟩

variable {V : ρ → Prop} {P : τ → Prop} {epoch n i : Nat} {collected : Snapshot α}
  {log : List CompletedRound} {s t : Session α ρ τ}

variable [LawfulTrainer ρ] [LawfulTrainer τ]

/-- The schedule has answered where value rounds are run. -/
theorem Reaches.remaining_value (h : Reaches epoch collected s (.valuePhase n i) log t) :
    s.remaining epoch .value = .ok n := by
  obtain ⟨u, hopen, -, -⟩ := h.valueRounds
  exact (openValuePhase_eq_ok hopen).2

/-- Where the schedule refuses the value trainer's step, no attempt succeeds. -/
theorem trainEpoch_ne_ok {cause : Failure ScheduleError}
    (h : s.remaining epoch .value = .error cause) (summary : EpochSummary) :
    trainEpoch epoch collected s ≠ (.ok summary, t) := by
  intro hrun
  obtain ⟨n, p, log, hreach, -⟩ := trainEpoch_eq_ok.1 hrun
  obtain ⟨_, _, _, hvalue, -⟩ := hreach.policyRounds
  have hanswer := hvalue.remaining_value
  rw [h] at hanswer
  cases hanswer

/-- An attempt without value rounds has the trainers' steps as it found them. -/
theorem Reaches.resumes (h : Reaches epoch collected s (.valuePhase 0 0) log t) :
    Resumes s t := by
  obtain ⟨u, hopen, -, hrounds⟩ := h.valueRounds
  obtain ⟨-, rfl⟩ := Action.pure_eq_ok.1 hrounds
  exact (openValuePhase_eq_ok hopen).1.resumes

/-- An attempt that only the schedule can stop succeeds, or is stopped by one of its two
questions. -/
theorem Unhindered.outcome (h : Unhindered epoch collected s) (hV : Trainer.KeepsSchedule V)
    (hP : Trainer.KeepsSchedule P) (hs : s.Has V P) :
    (∃ summary t, trainEpoch epoch collected s = (.ok summary, t)) ∨
    (∃ cause t, trainEpoch epoch collected s = (.error (.error (.schedule cause)), t) ∧
      s.remaining epoch .value = .error (.error cause) ∧ Resumes s t) ∨
    ∃ (cause : ScheduleError) (n : Nat) (log : List CompletedRound) (t : Session α ρ τ),
      trainEpoch epoch collected s = (.error (.error (.schedule cause)), t) ∧
        t.remaining epoch .policy = .error (.error cause) ∧
        Reaches epoch collected s (.valuePhase n n) log t := by
  cases hrun : trainEpoch epoch collected s with
  | mk r t =>
      cases r with
      | ok summary => exact .inl ⟨summary, t, rfl⟩
      | error e =>
          have hschedule := h e t hrun
          obtain hopen | ⟨n, i, log, u, hreach, hround⟩ | ⟨n, log, u, hreach, hopen⟩ |
            ⟨n, p, i, log, u, hreach, hround⟩ := trainEpoch_eq_error hrun
          · obtain ⟨u, e', hprepare, hquestion, herror⟩ | ⟨-, hcause⟩ :=
              openValuePhase_outcome hV hP hs hopen
            · cases herror
              have hresumes := (valuePhaseOpened_of_prepareValuePhase hprepare).resumes
              rw [remainingValueRounds_run, hresumes.remaining] at hquestion
              obtain ⟨hwiden, rfl⟩ := Prod.mk.inj hquestion
              obtain ⟨cause, hremaining, rfl⟩ := exists_cause hwiden hschedule
              exact .inr (.inl ⟨cause, u, rfl, hremaining, hresumes⟩)
            · exact absurd hschedule (hcause e rfl)
          · exact absurd hschedule
              ((keeps_round hV hP _ _).cause hround (has_of_reaches hV hP hs hreach))
          · obtain ⟨e', hquestion, herror⟩ | ⟨-, hcause⟩ :=
              openPolicyPhase_outcome hV hP (has_of_reaches hV hP hs hreach) hopen
            · cases herror
              rw [remainingPolicyRounds_run] at hquestion
              obtain ⟨hwiden, rfl⟩ := Prod.mk.inj hquestion
              obtain ⟨cause, hremaining, rfl⟩ := exists_cause hwiden hschedule
              exact .inr (.inr ⟨cause, n, log, u, rfl, hremaining, hreach⟩)
            · exact absurd hschedule (hcause e rfl)
          · exact absurd hschedule
              ((keeps_round hV hP _ _).cause hround (has_of_reaches hV hP hs hreach))

namespace Unhindered

variable (h : Unhindered epoch collected s) (hV : Trainer.KeepsSchedule V)
  (hP : Trainer.KeepsSchedule P) (hs : s.Has V P)
include h hV hP hs

theorem stopped_by_value {cause : ScheduleError}
    (hremaining : s.remaining epoch .value = .error (.error cause)) :
    ∃ t, trainEpoch epoch collected s = (.error (.error (.schedule cause)), t) ∧
      Resumes s t := by
  obtain ⟨summary, t, hrun⟩ | ⟨cause', t, hrun, hanswer, hresumes⟩ |
    ⟨_, n, log, t, -, -, hreach⟩ := h.outcome hV hP hs
  · exact absurd hrun (trainEpoch_ne_ok hremaining summary)
  · rw [hremaining] at hanswer
    cases hanswer
    exact ⟨t, hrun, hresumes⟩
  · have hanswer := hreach.remaining_value
    rw [hremaining] at hanswer
    cases hanswer

theorem stopped_by_policy (hvalue : s.remaining epoch .value = .ok 0) {cause : ScheduleError}
    (hremaining : s.remaining epoch .policy = .error (.error cause)) :
    ∃ t, trainEpoch epoch collected s = (.error (.error (.schedule cause)), t) ∧
      Resumes s t := by
  -- No value round remains, so the question for the policy rounds is put at the steps of `s`.
  have hsame {n : Nat} {log : List CompletedRound} {t : Session α ρ τ}
      (hreach : Reaches epoch collected s (.valuePhase n n) log t) : Resumes s t := by
    have hanswer := hreach.remaining_value
    rw [hvalue] at hanswer
    cases hanswer
    exact hreach.resumes
  obtain ⟨summary, t, hrun⟩ | ⟨_, t, -, hanswer, -⟩ | ⟨cause', n, log, t, hrun, hanswer, hreach⟩ :=
    h.outcome hV hP hs
  · obtain ⟨n, p, log, hreach, -⟩ := trainEpoch_eq_ok.1 hrun
    obtain ⟨_, u, _, hvalues, hopen, -⟩ := hreach.policyRounds
    have hanswer : u.remaining epoch .policy = .ok p.rounds := (openPolicyPhase_eq_ok hopen).1
    rw [(hsame hvalues).remaining, hremaining] at hanswer
    cases hanswer
  · rw [hvalue] at hanswer
    cases hanswer
  · rw [(hsame hreach).remaining, hremaining] at hanswer
    cases hanswer
    exact ⟨t, hrun, hsame hreach⟩

/-- From whole rounds the attempt gets to the end of the epoch. -/
theorem finishes {j : Nat} (hs' : Progress epoch log i j s)
    (hlimit : ∀ role, epoch * s.config.stepsPerEpoch role < Count.limit) :
    ∃ (summary : EpochSummary) (t : Session α ρ τ),
      trainEpoch epoch collected s = (.ok summary, t) ∧
        ∀ role, (t.reading role).step = (epoch + 1) * s.config.stepsPerEpoch role := by
  obtain ⟨summary, t, hrun⟩ | ⟨_, t, -, hanswer, -⟩ | ⟨_, n, done, t, -, hanswer, hreach⟩ :=
    h.outcome hV hP hs
  · obtain ⟨n, p, done, hreach, -⟩ := trainEpoch_eq_ok.1 hrun
    have ht := hs'.of_finished hreach
    have hconfig := config_of_reaches hreach
    refine ⟨summary, t, hrun, ?_⟩
    intro role
    cases role with
    | value => rw [ht.value_step, hconfig, Nat.zero_mul, Nat.add_zero]
    | policy => rw [ht.policy_step, hconfig, Nat.zero_mul, Nat.add_zero]
  · have hrounds : s.remaining epoch .value = .ok _ :=
      (hs'.remaining_value_iff _).2 ⟨hlimit .value, rfl⟩
    rw [hrounds] at hanswer
    cases hanswer
  · obtain ⟨i', j', ht, -⟩ := hs'.of_reaches hreach
    have hconfig : t.config = s.config := config_of_reaches hreach
    have hrounds : t.remaining epoch .policy = .ok _ :=
      (ht.remaining_policy_iff _).2 ⟨hconfig ▸ hlimit .policy, rfl⟩
    rw [hrounds] at hanswer
    cases hanswer

end Unhindered

end Attempt

section Gradient

open GradientTrainer (FailsAfter)

variable {ι ο μ ι' ο' μ' : Type} {epoch rounds done : Nat} {collected collected' : Snapshot Float32}
  {role : Role} {e : Failure (Error Float32)} {s t u : GradientSession ι ο μ ι' ο' μ'}

/-- The attempt fails at a batch that a trainer is to be trained on. Of the trainer's rounds it has
completed `rounds`, and of the next round `done` steps are made. -/
inductive StopsAtBatch (epoch : Nat) (collected : Snapshot Float32)
    (s : GradientSession ι ο μ ι' ο' μ') :
    Role → (rounds done : Nat) → Failure (Error Float32) →
      GradientSession ι ο μ ι' ο' μ' → Prop where
  | value {n rounds done : Nat} {log : List CompletedRound} {e : Failure (Error Float32)}
      {t : GradientSession ι ο μ ι' ο' μ'} {y} :
      Reaches epoch collected s (.valuePhase n rounds) log t → rounds < n →
        FailsAfter (s.config.stepsPerRound .value) done e (t.1.valueTrainer, t.2) y →
        StopsAtBatch epoch collected s .value rounds done e
          ({ t.1 with valueTrainer := y.1 }, y.2)
  | policy {n rounds done : Nat} {p : PolicyOpening} {log : List CompletedRound}
      {e : Failure (Error Float32)} {t : GradientSession ι ο μ ι' ο' μ'} {y} :
      Reaches epoch collected s (.policyPhase n p rounds) log t → rounds < p.rounds →
        FailsAfter (s.config.stepsPerRound .policy) done e (t.1.policyTrainer, t.2) y →
        StopsAtBatch epoch collected s .policy rounds done e
          ({ t.1 with policyTrainer := y.1 }, y.2)

theorem StopsAtBatch.trainEpoch_eq (h : StopsAtBatch epoch collected s role rounds done e t) :
    trainEpoch epoch collected s = (.error e, t) := by
  cases h with
  | value hreach hlt hfails =>
      exact trainEpoch_of_valueRound_error hreach hlt
        (onValue_eq.2 ⟨_, hfails.trainRound_eq _, rfl⟩)
  | policy hreach hlt hfails =>
      exact trainEpoch_of_policyRound_error hreach hlt
        (onPolicy_eq.2 ⟨_, hfails.trainRound_eq _, rfl⟩)

theorem StopsAtBatch.lt (h : StopsAtBatch epoch collected s role rounds done e t) :
    done < s.config.stepsPerRound role := by
  cases h with
  | value _ _ hfails => exact hfails.lt
  | policy _ _ hfails => exact hfails.lt

/-- A failure at the first batch of a round leaves the trainers between two rounds. -/
theorem StopsAtBatch.progress (h : StopsAtBatch epoch collected s role rounds 0 e t)
    {log : List CompletedRound} (hs : Progress epoch log 0 0 s) :
    ∃ log i j, Progress epoch log i j t := by
  cases h with
  | @value _ _ _ done _ u y hreach hlt hfails =>
      obtain ⟨i, j, hu, -⟩ := hs.of_reaches hreach
      refine ⟨_, i, j, hu.of_resumes ⟨rfl, ?_⟩⟩
      intro role
      cases role with
      | value => exact hfails.step_eq
      | policy => rfl
  | @policy _ _ _ _ done _ u y hreach hlt hfails =>
      obtain ⟨i, j, hu, -⟩ := hs.of_reaches hreach
      refine ⟨_, i, j, hu.of_resumes ⟨rfl, ?_⟩⟩
      intro role
      cases role with
      | value => rfl
      | policy => exact hfails.step_eq

theorem misaligned_of_lt (hvalid : s.config.validate = (.ok () : Except (ConfigError Float32) Unit))
    (hlimit : epoch * s.config.stepsPerEpoch role < Count.limit)
    (hstep : (s.reading role).step = epoch * s.config.stepsPerEpoch role +
      (rounds * s.config.stepsPerRound role + done))
    (hpos : done ≠ 0) (hlt : done < s.config.stepsPerRound role) :
    s.remaining epoch role = .error (.error (.misalignedStep
      (rounds * s.config.stepsPerRound role + done) (s.config.stepsPerRound role))) := by
  have hbetween : ¬s.config.stepsPerRound role ∣ rounds * s.config.stepsPerRound role + done := by
    rw [Nat.dvd_add_right (Nat.dvd_mul_left _ _)]
    exact fun hdvd => absurd (Nat.le_of_dvd (Nat.pos_of_ne_zero hpos) hdvd) (Nat.not_le.2 hlt)
  rw [Session.remaining, hstep]
  rw [Config.stepsPerRound_eq] at hbetween ⊢
  exact (Config.evenSplit_of_validate hvalid role).remainingRounds_of_not_dvd hlimit hbetween

theorem StopsAtBatch.config (h : StopsAtBatch epoch collected s role rounds done e t) :
    t.config = s.config := by
  cases h with
  | value hreach _ _ => exact (config_of_reaches hreach :)
  | policy hreach _ _ => exact (config_of_reaches hreach :)

theorem StopsAtBatch.unscheduled (h : StopsAtBatch epoch collected s role rounds done e t)
    (hvalue : Trainer.Unscheduled s.1.valueTrainer)
    (hpolicy : Trainer.Unscheduled s.1.policyTrainer) :
    Trainer.Unscheduled t.1.valueTrainer ∧ Trainer.Unscheduled t.1.policyTrainer := by
  obtain ⟨V, hv, hV⟩ := hvalue
  obtain ⟨P, hp, hP⟩ := hpolicy
  suffices ht : t.Has V P from ⟨⟨V, ht.1, hV⟩, P, ht.2, hP⟩
  cases h with
  | value hreach _ hfails =>
      have hu := has_of_reaches hV hP ⟨hv, hp⟩ hreach
      exact ⟨(hV.trainRound _ 0).keeps (hfails.trainRound_eq 0) hu.1, hu.2⟩
  | policy hreach _ hfails =>
      have hu := has_of_reaches hV hP ⟨hv, hp⟩ hreach
      exact ⟨hu.1, (hP.trainRound _ 0).keeps (hfails.trainRound_eq 0) hu.2⟩

/-- The steps of the attempt are all in the counters, those of the broken round too. -/
theorem StopsAtBatch.step (h : StopsAtBatch epoch collected s role rounds done e t)
    {log : List CompletedRound} (hs : Progress epoch log 0 0 s) :
    (t.reading role).step = epoch * s.config.stepsPerEpoch role +
      (rounds * s.config.stepsPerRound role + done) := by
  cases h with
  | @value _ _ _ _ _ u y hreach _ hfails =>
      obtain ⟨i, j, hu, -, -, rfl, -⟩ := hs.of_reaches hreach
      have hstep : y.1.step = (u.reading .value).step + done := hfails.step_eq
      rw [hu.value_step, config_of_reaches hreach, Nat.zero_add, Nat.add_assoc] at hstep
      exact hstep
  | @policy _ _ _ _ _ _ u y hreach _ hfails =>
      obtain ⟨i, j, hu, -, -, -, -, rfl, -⟩ := hs.of_reaches hreach
      have hstep : y.1.step = (u.reading .policy).step + done := hfails.step_eq
      rw [hu.policy_step, config_of_reaches hreach, Nat.zero_add, Nat.add_assoc] at hstep
      exact hstep

/-- Where a policy round is broken, the value rounds are all behind. -/
theorem StopsAtBatch.remaining_value (h : StopsAtBatch epoch collected s .policy rounds done e t)
    {log : List CompletedRound} (hs : Progress epoch log 0 0 s)
    (hlimit : epoch * s.config.stepsPerEpoch .value < Count.limit) :
    t.remaining epoch .value = .ok 0 := by
  cases h with
  | @policy _ _ _ _ _ _ u y hreach _ _ =>
      obtain ⟨i, j, hu, -, rfl, -⟩ := hs.of_reaches hreach
      have hconfig : u.config = s.config := config_of_reaches hreach
      refine (hu.remaining_value_iff 0).2 ⟨hconfig ▸ hlimit, ?_⟩
      rw [hconfig, Nat.sub_self]

/-- An attempt from the start of an epoch that fails at a batch, and a next attempt on the steps
that it has left, in which all batches are good. The next attempt brings both trainers to the end
of the epoch if the first has failed between two rounds. Otherwise the schedule refuses the steps
of the broken round; as the steps stay, it will refuse them in every later attempt too. -/
theorem failed_epoch_continues_iff_between_rounds
    (hvalid : s.config.validate = (.ok () : Except (ConfigError Float32) Unit))
    (hstart : ∀ role, (s.reading role).step = epoch * s.config.stepsPerEpoch role)
    (hlimit : ∀ role, epoch * s.config.stepsPerEpoch role < Count.limit)
    (hstops : StopsAtBatch epoch collected s role rounds done e t) (hresumes : Resumes t u)
    (hvalue : Trainer.Unscheduled u.1.valueTrainer)
    (hpolicy : Trainer.Unscheduled u.1.policyTrainer) (hclean : Unhindered epoch collected' u) :
    trainEpoch epoch collected s = (.error e, t) ∧
    (done = 0 → ∃ (summary : EpochSummary) (v : GradientSession ι ο μ ι' ο' μ'),
      trainEpoch epoch collected' u = (.ok summary, v) ∧
        ∀ role, (v.reading role).step = (epoch + 1) * s.config.stepsPerEpoch role) ∧
    (done ≠ 0 → ∃ v : GradientSession ι ο μ ι' ο' μ',
      trainEpoch epoch collected' u = (.error (.error (.schedule (.misalignedStep
        (rounds * s.config.stepsPerRound role + done) (s.config.stepsPerRound role)))), v) ∧
        Resumes t v) := by
  obtain ⟨V, hv, hV⟩ := hvalue
  obtain ⟨P, hp, hP⟩ := hpolicy
  have hs : Progress epoch (s.config.roundsBefore epoch) 0 0 s := {
    valid := hvalid
    value_step := by rw [hstart .value, Nat.zero_mul, Nat.add_zero]
    policy_step := by rw [hstart .policy, Nat.zero_mul, Nat.add_zero]
    value_le := Nat.zero_le _
    policy_le := Nat.zero_le _
    value_first := nofun
    log_eq := by simp [Config.firstRounds] }
  have hconfig : u.config = s.config := hresumes.config.trans hstops.config
  refine ⟨hstops.trainEpoch_eq, ?_, ?_⟩
  · rintro rfl
    obtain ⟨log, i, j, ht⟩ := hstops.progress hs
    rw [← hconfig] at hlimit ⊢
    exact hclean.finishes hV hP ⟨hv, hp⟩ (ht.of_resumes hresumes) hlimit
  · intro hbroken
    have hrefused : u.remaining epoch role = .error (.error (.misalignedStep
        (rounds * s.config.stepsPerRound role + done) (s.config.stepsPerRound role))) := by
      rw [hresumes.remaining]
      have hstep := hstops.step hs
      have hlt := hstops.lt
      rw [← hstops.config] at hvalid hlimit hstep hlt ⊢
      exact misaligned_of_lt hvalid (hlimit role) hstep hbroken hlt
    cases role with
    | value =>
        obtain ⟨v, hrun, hkept⟩ := hclean.stopped_by_value hV hP ⟨hv, hp⟩ hrefused
        exact ⟨v, hrun, hresumes.trans hkept⟩
    | policy =>
        have hnone := hstops.remaining_value hs (hlimit .value)
        rw [← hresumes.remaining] at hnone
        obtain ⟨v, hrun, hkept⟩ := hclean.stopped_by_policy hV hP ⟨hv, hp⟩ hnone hrefused
        exact ⟨v, hrun, hresumes.trans hkept⟩

end Gradient

section Sample

open GradientTrainer (trainSteps nextTrainBatch FailsAfter)

def wholeSlices : Trajectory Float32 where
  observations := .fill 2 2 1 1
  actions := .fill 2 2 1 0
  rewards := .fill 2 2 1
  returns := .fill 2 2 1
  logProbs := .fill 2 2 0
  mask := .fill 2 2 1

/-- A step of rewards is missing, so that no batch is built of these slices. -/
def shortRewards : Trajectory Float32 := { wholeSlices with rewards := .fill 2 1 1 }

/-- Two rounds of two value steps, and one policy step. Every stream has one flawed item. -/
def flawedPlan (flawed : Nat) : RunPlan Float32 :=
  { briefPlan with
    config := { briefPlan.config with
      valueTrainStepsPerEpoch := 4
      valueEvalsPerEpoch := 2
      policyTrainStepsPerEpoch := 1
      policyEvalsPerEpoch := 1 }
    task := ⟨0, [1], fun _ =>
      .ok (.ofItems fun i => some (if i = flawed then shortRewards else wholeSlices))⟩ }

/-- What the coordinator of the plan is made as. -/
def flawedSession (flawed : Nat) : GradientSession (StepTensor Float32) (StepTensor Float32)
    (Moments Float32) (StepTensor Float32 × StepTensor Float32) (StepMatrix Float32) Unit :=
  ({ plan := flawedPlan flawed
     valueBatches := criticBatches
     policyBatches := actorBatches
     valueTrainer := linearCritic.untrained (criticBatches.source (flawedPlan flawed).task)
     policyTrainer := gaussianActor.untrained (actorBatches.source (flawedPlan flawed).task)
     valueOutputDir := none },
    { briefWorld with journal := [⟨"value", .setup none⟩, ⟨"policy", .setup none⟩] })

theorem unhindered_of_result {α ρ τ : Type} [Trainer α (Supply α) ρ] [Trainer α (Supply α) τ]
    {epoch : Nat} {collected : Snapshot α} {s : Session α ρ τ}
    (h : (match (trainEpoch epoch collected s).1 with
      | .ok _ | .error (.error (.schedule _)) => true
      | .error _ => false) = true) : Unhindered epoch collected s := by
  intro e t hrun
  rw [hrun] at h
  cases e with
  | abort a => cases h
  | error e =>
      cases e with
      | schedule cause => trivial
      | _ => cases h

/-- An attempt stops where a batch is not built. -/
theorem exists_stopsAtBatch {ι ο μ ι' ο' μ' : Type} {epoch n rounds done : Nat}
    {collected : Snapshot Float32} {log : List CompletedRound}
    {s t : GradientSession ι ο μ ι' ο' μ'}
    (hreach : Reaches epoch collected s (.valuePhase n rounds) log t) (hrounds : rounds < n)
    (hdone : done < s.config.stepsPerRound .value) {rate : Float}
    (hrate : rate = t.1.valueTrainer.schedule t.1.valueTrainer.step)
    (hsteps : (trainSteps done rate .empty (t.1.valueTrainer, t.2)).1.toOption.isSome = true)
    (hbatch : (nextTrainBatch
      (trainSteps done rate .empty (t.1.valueTrainer, t.2)).2).1.toOption.isNone = true) :
    ∃ e, StopsAtBatch epoch collected s .value rounds done e
      (trainEpoch epoch collected s).2 := by
  subst hrate
  obtain ⟨⟨last, losses⟩, hok⟩ := Attempt.exists_ok_of_isSome hsteps
  obtain ⟨z, hz⟩ : ∃ z, trainSteps done _ .empty (t.1.valueTrainer, t.2) =
      (.ok (last, losses), z) := ⟨_, Prod.ext hok rfl⟩
  rw [hz] at hbatch
  cases hdraw : nextTrainBatch z with
  | mk r y =>
      rw [hdraw] at hbatch
      cases r with
      | ok batch => cases hbatch
      | error e =>
          have hnext : trainSteps 1 last losses z = (.error e, y) :=
            Action.bind_eq_error.2 (.inl hdraw)
          have hstops := StopsAtBatch.value hreach hrounds ⟨hdone, last, losses, z, hz, hnext⟩
          refine ⟨e, ?_⟩
          rw [hstops.trainEpoch_eq]
          exact hstops

theorem stopsAtBatch_flawed :
    (∃ e, StopsAtBatch 0 (.empty 2) (flawedSession 1) .value 0 1 e
      (trainEpoch 0 (.empty 2) (flawedSession 1)).2) ∧
    ∃ e, StopsAtBatch 0 (.empty 2) (flawedSession 2) .value 1 0 e
      (trainEpoch 0 (.empty 2) (flawedSession 2)).2 := by
  constructor
  · have hopen : openValuePhase (flawedPlan 1).config 0 (.empty 2) (flawedSession 1) = (.ok 2, _) :=
      Action.eq_of_toOption (by decide +kernel)
    refine exists_stopsAtBatch (.openValue hopen) (by decide) (by decide) rfl ?_ ?_
    · decide +kernel
    · decide +kernel
  · have hopen : openValuePhase (flawedPlan 2).config 0 (.empty 2) (flawedSession 2) = (.ok 2, _) :=
      Action.eq_of_toOption (by decide +kernel)
    have hopened : Reaches 0 (.empty 2) (flawedSession 2) (.valuePhase 2 0) [] _ := .openValue hopen
    have hround : round (flawedSession 2).config .value
        (openValuePhase (flawedPlan 2).config 0 (.empty 2) (flawedSession 2)).2 = (.ok (), _) :=
      Action.eq_of_toOption (by decide +kernel)
    refine exists_stopsAtBatch (hopened.valueRound (by decide) hround) (by decide) (by decide) rfl
      ?_ ?_
    · decide +kernel
    · decide +kernel

theorem unscheduled_flawedSession (flawed : Nat) :
    Trainer.Unscheduled (flawedSession flawed).1.valueTrainer ∧
    Trainer.Unscheduled (flawedSession flawed).1.policyTrainer :=
  ⟨GradientTrainer.unscheduled (criticBatches.unscheduled_source (flawedPlan flawed).task)
      (GradientTrainer.unscheduledScore_of_abort _),
    GradientTrainer.unscheduled (actorBatches.unscheduled_source (flawedPlan flawed).task)
      (GradientTrainer.unscheduledScore_of_abort _)⟩

/-- The second value batch is flawed, or the third, which is the first of its round. -/
theorem failed_epoch_continues_iff_between_rounds_flawed :
    (∃ (e : Failure (Error Float32)) (t u : GradientSession _ _ _ _ _ _),
      trainEpoch 0 (.empty 2) (flawedSession 1) = (.error e, t) ∧
      trainEpoch 0 (.empty 2) t = (.error (.error (.schedule (.misalignedStep 1 2))), u)) ∧
    ∃ (e : Failure (Error Float32)) (t u : GradientSession _ _ _ _ _ _) (summary : EpochSummary),
      trainEpoch 0 (.empty 2) (flawedSession 2) = (.error e, t) ∧
      trainEpoch 0 (.empty 2) t = (.ok summary, u) ∧
      ∀ role, (Session.reading u role).step = (flawedPlan 2).config.stepsPerEpoch role := by
  obtain ⟨⟨e, hbroken⟩, e', hbetween⟩ := stopsAtBatch_flawed
  have hstart (flawed : Nat) (role : Role) : ((flawedSession flawed).reading role).step =
      0 * (flawedSession flawed).config.stepsPerEpoch role := by
    rw [Nat.zero_mul]
    cases role with
    | value => rfl
    | policy => rfl
  have hlimit (flawed : Nat) (role : Role) :
      0 * (flawedSession flawed).config.stepsPerEpoch role < Count.limit := by
    rw [Nat.zero_mul]
    decide
  have hclean (flawed : Nat) (h : flawed = 1 ∨ flawed = 2) :
      Unhindered 0 (.empty 2) (trainEpoch 0 (.empty 2) (flawedSession flawed)).2 := by
    obtain rfl | rfl := h
    · exact unhindered_of_result (by decide +kernel)
    · exact unhindered_of_result (by decide +kernel)
  constructor
  · obtain ⟨hv, hp⟩ := hbroken.unscheduled (unscheduled_flawedSession 1).1
      (unscheduled_flawedSession 1).2
    obtain ⟨hrun, -, hrefused⟩ := failed_epoch_continues_iff_between_rounds rfl (hstart 1)
      (hlimit 1) hbroken (.refl _) hv hp (hclean 1 (.inl rfl))
    obtain ⟨u, hu, -⟩ := hrefused (by decide)
    exact ⟨e, _, u, hrun, hu⟩
  · obtain ⟨hv, hp⟩ := hbetween.unscheduled (unscheduled_flawedSession 2).1
      (unscheduled_flawedSession 2).2
    obtain ⟨hrun, hcontinued, -⟩ := failed_epoch_continues_iff_between_rounds rfl (hstart 2)
      (hlimit 2) hbetween (.refl _) hv hp (hclean 2 (.inr rfl))
    obtain ⟨summary, u, hu, hsteps⟩ := hcontinued rfl
    exact ⟨e', _, u, summary, hrun, hu, fun role => (hsteps role).trans (Nat.one_mul _)⟩

/-- The second batch of the first round is not built. On the steps that this leaves no attempt at
the epoch succeeds, whatever the task yields by then. -/
theorem broken_round_is_never_continued :
    make (flawedPlan 1) linearCritic.make gaussianActor.make briefWorld =
      (.ok (flawedSession 1).1, (flawedSession 1).2) ∧
    (flawedPlan 1).config.validate = (.ok () : Except (ConfigError Float32) Unit) ∧
    (∀ role, ((flawedSession 1).reading role).step = 0) ∧
    ∃ t : GradientSession _ _ _ _ _ _,
      trainEpoch 0 (.empty 2) (flawedSession 1) =
        (.error (.error (.shape (.trajectory .observations (2, 1) (2, 2)))), t) ∧
      (trainEpoch 0 (.empty 2) t).1 = .error (.error (.schedule (.misalignedStep 1 2))) ∧
      ∀ u, Resumes t u → ∀ collected summary v,
        trainEpoch 0 collected u ≠ (.ok summary, v) := by
  refine ⟨rfl, rfl, ?_, (trainEpoch 0 (.empty 2) (flawedSession 1)).2, ?_, ?_, ?_⟩
  · intro role
    cases role with
    | value => rfl
    | policy => rfl
  · exact Action.eq_of_fst (by decide +kernel)
  · decide +kernel
  · intro u hresumes collected summary v
    have hrefused : Session.remaining (trainEpoch 0 (.empty 2) (flawedSession 1)).2 0 .value =
        .error (.error (.misalignedStep 1 2)) := by decide +kernel
    exact trainEpoch_ne_ok ((hresumes.remaining 0 .value).trans hrefused) summary

end Sample

end Coordinator
end ActorCritic
