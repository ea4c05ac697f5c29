import ActorCritic.Proofs.Coordinator.Phase

/-!
Runs with interruptions. An attempt may end at any of its stages, and the next attempt starts from
the steps that the trainers had reached there, whatever else is lost. Over all attempts the rounds
completed are always those of an undisturbed run, from the first on and each of them once.
-/

namespace ActorCritic

namespace Coordinator

def roundsOf (role : Role) (epoch : Nat) (log : List CompletedRound) : List CompletedRound :=
  log.filter fun r => r.role = role ∧ r.epoch = epoch

theorem roundsOf_append (role : Role) (epoch : Nat) (log done : List CompletedRound) :
    roundsOf role epoch (log ++ done) = roundsOf role epoch log ++ roundsOf role epoch done :=
  List.filter_append ..

end Coordinator

open Coordinator

namespace Config

/-- The first rounds of a trainer's epoch. -/
def firstRounds (c : Config) (role : Role) (epoch count : Nat) : List CompletedRound :=
  (List.range count).map fun i => {
    role := role
    epoch := epoch
    before := epoch * c.stepsPerEpoch role + i * c.stepsPerRound role
    after := epoch * c.stepsPerEpoch role + (i + 1) * c.stepsPerRound role }

/-- All rounds of an epoch, those of the value trainer first. -/
def epochRounds (c : Config) (epoch : Nat) : List CompletedRound :=
  c.firstRounds .value epoch (c.roundsPerEpoch .value) ++
    c.firstRounds .policy epoch (c.roundsPerEpoch .policy)

/-- All rounds of the epochs `0`, …, `epoch - 1`. -/
def roundsBefore (c : Config) (epoch : Nat) : List CompletedRound :=
  (List.range epoch).flatMap c.epochRounds

theorem firstRounds_succ (c : Config) (role : Role) (epoch count : Nat) :
    c.firstRounds role epoch (count + 1) = c.firstRounds role epoch count ++ [{
      role := role
      epoch := epoch
      before := epoch * c.stepsPerEpoch role + count * c.stepsPerRound role
      after := epoch * c.stepsPerEpoch role + (count + 1) * c.stepsPerRound role }] := by
  simp [firstRounds, List.range_succ]

theorem roundsBefore_succ (c : Config) (epoch : Nat) :
    c.roundsBefore (epoch + 1) = c.roundsBefore epoch ++ c.epochRounds epoch := by
  simp [roundsBefore, List.range_succ]

theorem epoch_lt_of_mem_roundsBefore {c : Config} {epoch : Nat} {r : CompletedRound}
    (h : r ∈ c.roundsBefore epoch) : r.epoch < epoch := by
  simp only [roundsBefore, epochRounds, firstRounds, List.mem_flatMap, List.mem_append,
    List.mem_map, List.mem_range] at h
  obtain ⟨e, he, ⟨i, -, rfl⟩ | ⟨i, -, rfl⟩⟩ := h
  · exact he
  · exact he

theorem role_of_mem_firstRounds {c : Config} {role : Role} {epoch count : Nat}
    {r : CompletedRound} (h : r ∈ c.firstRounds role epoch count) :
    r.role = role ∧ r.epoch = epoch := by
  simp only [firstRounds, List.mem_map] at h
  obtain ⟨i, -, rfl⟩ := h
  exact ⟨rfl, rfl⟩

theorem roundsOf_firstRounds (c : Config) (role other : Role) (epoch count : Nat) :
    roundsOf role epoch (c.firstRounds other epoch count) =
      if other = role then c.firstRounds other epoch count else [] := by
  unfold roundsOf
  split
  · next hrole =>
      rw [List.filter_eq_self]
      intro r hr
      obtain ⟨hother, hepoch⟩ := role_of_mem_firstRounds hr
      simp [hother, hrole, hepoch]
  · next hrole =>
      rw [List.filter_eq_nil_iff]
      intro r hr
      obtain ⟨hother, -⟩ := role_of_mem_firstRounds hr
      simp [hother, hrole]

theorem roundsOf_roundsBefore (c : Config) (role : Role) (epoch : Nat) :
    roundsOf role epoch (c.roundsBefore epoch) = [] := by
  unfold roundsOf
  rw [List.filter_eq_nil_iff]
  intro r hr
  have hlt := epoch_lt_of_mem_roundsBefore hr
  simp [Nat.ne_of_lt hlt]

theorem roundsOf_roundsBefore_succ (c : Config) (role : Role) (epoch : Nat) :
    roundsOf role epoch (c.roundsBefore (epoch + 1)) =
      c.firstRounds role epoch (c.roundsPerEpoch role) := by
  rw [roundsBefore_succ, epochRounds, roundsOf_append, roundsOf_append, roundsOf_roundsBefore,
    roundsOf_firstRounds, roundsOf_firstRounds]
  cases role <;> simp

end Config

namespace Coordinator

variable {α ρ τ : Type} [Trainer α (Supply α) ρ] [Trainer α (Supply α) τ]

/-- The next attempt starts from the steps that the last one reached. All else may have been lost,
restored or replaced in between. -/
structure Resumes (s t : Session α ρ τ) : Prop where
  plan : t.1.plan = s.1.plan
  step : ∀ role, (t.reading role).step = (s.reading role).step

namespace Resumes

variable {s t u : Session α ρ τ}

theorem refl (s : Session α ρ τ) : Resumes s s := ⟨rfl, fun _ => rfl⟩

theorem trans (h : Resumes s t) (h' : Resumes t u) : Resumes s u :=
  ⟨h'.plan.trans h.plan, fun role => (h'.step role).trans (h.step role)⟩

theorem config (h : Resumes s t) : t.config = s.config := congrArg RunPlan.config h.plan

end Resumes

theorem ValuePhaseOpened.resumes {s t : Session α ρ τ} (h : ValuePhaseOpened s t) :
    Resumes s t := by
  refine ⟨h.plan, ?_⟩
  intro role
  cases role with
  | value => exact h.value.step.symm
  | policy => rw [h.policy]

/-- The sessions in which an epoch is attempted, with the rounds completed before. The epochs are
trained in order; an attempt that ends at whatever stage is followed by another at the same epoch,
and one that gets to the end may be. -/
inductive Runs : Nat → List CompletedRound → Session α ρ τ → Prop where
  | start {s : Session α ρ τ} :
      s.config.validate = (.ok () : Except (ConfigError α) Unit) →
        (∀ role, (s.reading role).step = 0) → Runs 0 [] s
  | again {epoch : Nat} {log done : List CompletedRound} {s t u : Session α ρ τ}
      {collected : Snapshot α} {stage : Stage} :
      Runs epoch log s → Reaches epoch collected s stage done t → Resumes t u →
        Runs epoch (log ++ done) u
  | next {epoch n : Nat} {log done : List CompletedRound} {s t u : Session α ρ τ}
      {collected : Snapshot α} {p : PolicyOpening} :
      Runs epoch log s → Reaches epoch collected s (.policyPhase n p p.rounds) done t →
        Resumes t u → Runs (epoch + 1) (log ++ done) u

/-- Of an epoch, `i` value rounds and `j` policy rounds are completed, the policy's only after all
of the value trainer's, and the steps of both trainers tell it. -/
structure Progress (epoch : Nat) (log : List CompletedRound) (i j : Nat) (s : Session α ρ τ) :
    Prop where
  valid : s.config.validate = (.ok () : Except (ConfigError α) Unit)
  value_step : (s.reading .value).step =
    epoch * s.config.stepsPerEpoch .value + i * s.config.stepsPerRound .value
  policy_step : (s.reading .policy).step =
    epoch * s.config.stepsPerEpoch .policy + j * s.config.stepsPerRound .policy
  value_le : i ≤ s.config.roundsPerEpoch .value
  policy_le : j ≤ s.config.roundsPerEpoch .policy
  value_first : 0 < j → i = s.config.roundsPerEpoch .value
  log_eq : log = s.config.roundsBefore epoch ++ s.config.firstRounds .value epoch i ++
    s.config.firstRounds .policy epoch j

namespace Progress

variable {epoch i j : Nat} {log : List CompletedRound} {s t : Session α ρ τ}

theorem of_resumes (h : Progress epoch log i j s) (ht : Resumes s t) :
    Progress epoch log i j t := by
  have hconfig : t.config = s.config := ht.config
  refine ⟨?_, ?_, ?_, ?_, ?_, ?_, ?_⟩
  · rw [hconfig]
    exact h.valid
  · rw [ht.step, hconfig]
    exact h.value_step
  · rw [ht.step, hconfig]
    exact h.policy_step
  · rw [hconfig]
    exact h.value_le
  · rw [hconfig]
    exact h.policy_le
  · rw [hconfig]
    exact h.value_first
  · rw [hconfig]
    exact h.log_eq

/-- What the schedule answers tells the completed rounds. -/
theorem remaining_value_iff (h : Progress epoch log i j s) (n : Nat) :
    remainingRounds (s.reading .value).step epoch s.config.valueTrainStepsPerEpoch
        s.config.valueEvalsPerEpoch = .ok n ↔
      epoch * s.config.valueTrainStepsPerEpoch < Count.limit ∧
        n = s.config.valueEvalsPerEpoch - i := by
  rw [h.value_step]
  exact (Config.evenSplit_of_validate h.valid .value).remainingRounds_eq_ok_iff epoch i n

theorem remaining_policy_iff (h : Progress epoch log i j s) (n : Nat) :
    remainingRounds (s.reading .policy).step epoch s.config.policyTrainStepsPerEpoch
        s.config.policyEvalsPerEpoch = .ok n ↔
      epoch * s.config.policyTrainStepsPerEpoch < Count.limit ∧
        n = s.config.policyEvalsPerEpoch - j := by
  rw [h.policy_step]
  exact (Config.evenSplit_of_validate h.valid .policy).remainingRounds_eq_ok_iff epoch j n

theorem next_epoch (h : Progress epoch log i j s) (hi : i = s.config.roundsPerEpoch .value)
    (hj : j = s.config.roundsPerEpoch .policy) : Progress (epoch + 1) log 0 0 s := by
  subst hi hj
  have hend (role : Role) : epoch * s.config.stepsPerEpoch role +
      s.config.roundsPerEpoch role * s.config.stepsPerRound role =
        (epoch + 1) * s.config.stepsPerEpoch role + 0 * s.config.stepsPerRound role := by
    rw [Config.stepsPerRound_eq, Nat.zero_mul, Nat.add_zero]
    exact (Config.evenSplit_of_validate h.valid role).epoch_end epoch
  refine ⟨h.valid, ?_, ?_, Nat.zero_le _, Nat.zero_le _, ?_, ?_⟩
  · rw [h.value_step, hend]
  · rw [h.policy_step, hend]
  · intro hpos
    exact absurd hpos (Nat.lt_irrefl 0)
  · rw [h.log_eq, Config.roundsBefore_succ]
    simp [Config.epochRounds, Config.firstRounds]

variable [LawfulTrainer ρ] [LawfulTrainer τ]

/-- A value round is due only while no policy round is completed, so it comes last in the log. -/
theorem value_round (h : Progress epoch log i j s) (hi : i < s.config.roundsPerEpoch .value)
    (hround : round s.config .value s = (.ok (), t)) :
    Progress epoch (log ++ [completed .value epoch s t]) (i + 1) j t := by
  obtain ⟨hplan, hstep, hother⟩ := round_eq_ok hround
  have hconfig : t.config = s.config := congrArg RunPlan.config hplan
  have hpolicy : t.reading .policy = s.reading .policy := hother .policy (by decide)
  -- A policy round has all value rounds behind it, and one of them is still due.
  have hj : j = 0 := by
    refine (Nat.eq_zero_or_pos j).resolve_right fun hpos => ?_
    have hall := h.value_first hpos
    omega
  have hreached : (t.reading .value).step =
      epoch * s.config.stepsPerEpoch .value + (i + 1) * s.config.stepsPerRound .value := by
    rw [hstep, h.value_step, Nat.succ_mul, Nat.add_assoc]
  subst hj
  refine ⟨?_, ?_, ?_, ?_, ?_, ?_, ?_⟩
  · rw [hconfig]
    exact h.valid
  · rw [hconfig]
    exact hreached
  · rw [hconfig, hpolicy]
    exact h.policy_step
  · rw [hconfig]
    exact hi
  · exact Nat.zero_le _
  · intro hpos
    exact absurd hpos (Nat.lt_irrefl 0)
  · rw [hconfig, h.log_eq, Config.firstRounds_succ, completed, h.value_step, hreached]
    simp [Config.firstRounds]

theorem policy_round (h : Progress epoch log i j s) (hi : i = s.config.roundsPerEpoch .value)
    (hj : j < s.config.roundsPerEpoch .policy) (hround : round s.config .policy s = (.ok (), t)) :
    Progress epoch (log ++ [completed .policy epoch s t]) i (j + 1) t := by
  obtain ⟨hplan, hstep, hother⟩ := round_eq_ok hround
  have hconfig : t.config = s.config := congrArg RunPlan.config hplan
  have hvalue : t.reading .value = s.reading .value := hother .value (by decide)
  have hreached : (t.reading .policy).step =
      epoch * s.config.stepsPerEpoch .policy + (j + 1) * s.config.stepsPerRound .policy := by
    rw [hstep, h.policy_step, Nat.succ_mul, Nat.add_assoc]
  refine ⟨?_, ?_, ?_, ?_, ?_, ?_, ?_⟩
  · rw [hconfig]
    exact h.valid
  · rw [hconfig, hvalue]
    exact h.value_step
  · rw [hconfig]
    exact hreached
  · rw [hconfig]
    exact h.value_le
  · rw [hconfig]
    exact hj
  · rw [hconfig]
    exact fun _ => hi
  · rw [hconfig, h.log_eq, Config.firstRounds_succ, completed, h.policy_step, hreached]
    simp only [List.append_assoc]

end Progress

/-- What has happened in an attempt by the time of a stage, if it began with `i` value rounds and
`j` policy rounds of the epoch behind it: there are then `i'` and `j'`. -/
def Stage.Accounts (c : Config) (i j i' j' : Nat) : Stage → Prop
  | called => i' = i ∧ j' = j
  | valuePhase n k => n = c.valueEvalsPerEpoch - i ∧ k ≤ n ∧ i' = i + k ∧ j' = j
  | policyPhase n p k =>
      n = c.valueEvalsPerEpoch - i ∧ i' = c.valueEvalsPerEpoch ∧
      p.rounds = c.policyEvalsPerEpoch - j ∧ k ≤ p.rounds ∧ j' = j + k ∧
      (p.copied = true ↔ 0 < c.sharedLayers ∧ j = 0)

section Lawful

variable [LawfulTrainer ρ] [LawfulTrainer τ] {epoch i j n : Nat}
  {log done : List CompletedRound} {collected : Snapshot α} {s t : Session α ρ τ}

theorem Progress.of_openValuePhase (h : Progress epoch log i j s)
    (hopen : openValuePhase s.config epoch collected s = (.ok n, t)) :
    Progress epoch log i j t ∧ n = s.config.valueEvalsPerEpoch - i := by
  obtain ⟨hopened, hremaining⟩ := openValuePhase_eq_ok hopen
  exact ⟨h.of_resumes hopened.resumes, ((h.remaining_value_iff n).1 hremaining).2⟩

omit [LawfulTrainer ρ] in
/-- The copy back is made exactly if no policy round of the epoch is completed: before the first,
all of them remain, and after it no value round does. -/
theorem Progress.of_openPolicyPhase {p : PolicyOpening}
    (h : Progress epoch log s.config.valueEvalsPerEpoch j s)
    (hn : 0 < j → n = 0) (hopen : openPolicyPhase s.config epoch n s = (.ok p, t)) :
    Progress epoch log s.config.valueEvalsPerEpoch j t ∧
      p.rounds = s.config.policyEvalsPerEpoch - j ∧
      (p.copied = true ↔ 0 < s.config.sharedLayers ∧ j = 0) := by
  have hopened := policyPhaseOpened_of_openPolicyPhase hopen
  obtain ⟨hremaining, hcopied, -⟩ := openPolicyPhase_eq_ok hopen
  have hrounds := ((h.remaining_policy_iff p.rounds).1 hremaining).2
  have hle : j ≤ s.config.policyEvalsPerEpoch := h.policy_le
  refine ⟨h.of_resumes ⟨hopened.plan, ?_⟩, hrounds, hcopied.trans ?_⟩
  · intro role
    cases role with
    | value => rw [hopened.value]
    | policy => exact hopened.policy.step.symm
  · refine and_congr_right fun _ => ?_
    constructor
    · intro hbegun
      refine (Nat.eq_zero_or_pos j).resolve_right fun hpos => hbegun ⟨hn hpos, ?_⟩
      omega
    · rintro rfl ⟨-, hlt⟩
      omega

/-- At every stage of every attempt the log and the steps tell the same progress. -/
theorem Progress.of_reaches {stage : Stage} (h : Progress epoch log i j s)
    (hreach : Reaches epoch collected s stage done t) :
    ∃ i' j', Progress epoch (log ++ done) i' j' t ∧ stage.Accounts s.config i j i' j' := by
  -- Each piece of the attempt starts from the progress that the one before it has left.
  induction hreach with
  | called =>
      refine ⟨i, j, ?_, rfl, rfl⟩
      rwa [List.append_nil]
  | openValue hopen =>
      obtain ⟨ht, hn⟩ := h.of_openValuePhase hopen
      refine ⟨i, j, ?_, hn, Nat.zero_le _, rfl, rfl⟩
      rwa [List.append_nil]
  | @valueRound n k done t u hreach hlt hround ih =>
      obtain ⟨i', j', ht, hn, hk, hi, rfl⟩ := ih
      have hconfig : t.config = s.config := config_of_reaches hreach
      have hle : i ≤ s.config.valueEvalsPerEpoch := h.value_le
      rw [← hconfig] at hround
      have hdue : i' < t.config.roundsPerEpoch .value := by
        rw [hconfig]
        change i' < s.config.valueEvalsPerEpoch
        omega
      refine ⟨i' + 1, j', ?_, hn, hlt, by omega, rfl⟩
      rw [← List.append_assoc]
      exact ht.value_round hdue hround
  | @openPolicy n p done t u hreach hopen ih =>
      obtain ⟨i', j', ht, hn, hk, hi, rfl⟩ := ih
      have hconfig : t.config = s.config := config_of_reaches hreach
      have hle : i ≤ s.config.valueEvalsPerEpoch := h.value_le
      have hall : i' = t.config.valueEvalsPerEpoch := by
        rw [hconfig]
        omega
      -- The code asks for the rounds that the attempt had to run, not for those completed.
      have hnone : 0 < j' → n = 0 := by
        intro hpos
        have hfirst : i = s.config.valueEvalsPerEpoch := h.value_first hpos
        omega
      rw [← hconfig] at hopen
      subst hall
      obtain ⟨hu, hrounds, hcopied⟩ := ht.of_openPolicyPhase hnone hopen
      rw [hconfig] at hu hrounds hcopied
      exact ⟨_, j', hu, hn, rfl, hrounds, Nat.zero_le _, rfl, hcopied⟩
  | @policyRound n k p done t u hreach hlt hround ih =>
      obtain ⟨i', j', ht, hn, hi, hrounds, hk, hj, hcopied⟩ := ih
      have hconfig : t.config = s.config := config_of_reaches hreach
      have hle : j ≤ s.config.policyEvalsPerEpoch := h.policy_le
      rw [← hconfig] at hround
      have hall : i' = t.config.roundsPerEpoch .value := by
        rw [hconfig]
        exact hi
      have hdue : j' < t.config.roundsPerEpoch .policy := by
        rw [hconfig]
        change j' < s.config.policyEvalsPerEpoch
        omega
      refine ⟨i', j' + 1, ?_, hn, hi, hrounds, hlt, by omega, hcopied⟩
      rw [← List.append_assoc]
      exact ht.policy_round hall hdue hround

theorem Progress.of_finished {p : PolicyOpening} (h : Progress epoch log i j s)
    (hreach : Reaches epoch collected s (.policyPhase n p p.rounds) done t) :
    Progress (epoch + 1) (log ++ done) 0 0 t := by
  obtain ⟨i', j', ht, -, hi, hrounds, -, hj, -⟩ := h.of_reaches hreach
  have hconfig : t.config = s.config := config_of_reaches hreach
  have hle : j ≤ s.config.policyEvalsPerEpoch := h.policy_le
  refine ht.next_epoch ?_ ?_
  · rw [hconfig]
    exact hi
  · rw [hconfig]
    change j' = s.config.policyEvalsPerEpoch
    omega

/-- The steps and the log of a run always tell the progress in its epoch. -/
theorem exists_progress_of_runs (h : Runs epoch log s) : ∃ i j, Progress epoch log i j s := by
  induction h with
  | start hvalid hsteps =>
      refine ⟨0, 0, hvalid, ?_, ?_, Nat.zero_le _, Nat.zero_le _, ?_, rfl⟩
      · simpa using hsteps .value
      · simpa using hsteps .policy
      · intro hpos
        exact absurd hpos (Nat.lt_irrefl 0)
  | again _ hreach hresumes ih =>
      obtain ⟨i, j, hs⟩ := ih
      obtain ⟨i', j', ht, -⟩ := hs.of_reaches hreach
      exact ⟨i', j', ht.of_resumes hresumes⟩
  | next _ hreach hresumes ih =>
      obtain ⟨i, j, hs⟩ := ih
      exact ⟨0, 0, (hs.of_finished hreach).of_resumes hresumes⟩

end Lawful

end Coordinator
end ActorCritic
