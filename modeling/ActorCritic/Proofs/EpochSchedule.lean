import ActorCritic.Config.Rules
import ActorCritic.EpochSchedule
import ActorCritic.Proofs.Attempt

/-!
The rounds of an epoch. A valid configuration splits the steps of an epoch evenly into rounds, for
either trainer, and a trainer that has done some rounds of an epoch is told to do the others.
-/

namespace ActorCritic

theorem remainingRounds_eq_ok {currentStep epoch stepsPerEpoch evalsPerEpoch n : Nat} :
    remainingRounds currentStep epoch stepsPerEpoch evalsPerEpoch = .ok n ↔
      epoch * stepsPerEpoch < Count.limit ∧ epoch * stepsPerEpoch ≤ currentStep ∧
      stepsPerEpoch / evalsPerEpoch ≠ 0 ∧ evalsPerEpoch ∣ stepsPerEpoch ∧
      stepsPerEpoch / evalsPerEpoch ∣ currentStep - epoch * stepsPerEpoch ∧
      evalsPerEpoch - (currentStep - epoch * stepsPerEpoch) / (stepsPerEpoch / evalsPerEpoch) =
        n := by
  unfold remainingRounds
  simp only [Attempt.bind_eq_ok, Attempt.guard_eq_ok, Attempt.pure_eq_ok, Nat.dvd_iff_mod_eq_zero,
    Classical.not_not, ne_eq, Nat.not_lt]
  have hmul (start : Nat) :
      (liftM (Count.mul epoch stepsPerEpoch) : Attempt ScheduleError Nat) = .ok start ↔
        epoch * stepsPerEpoch < Count.limit ∧ epoch * stepsPerEpoch = start :=
    Attempt.mapError_eq_ok.trans Count.mul_eq_ok
  constructor
  · rintro ⟨start, h, rest⟩
    obtain ⟨fits, rfl⟩ := (hmul start).1 h
    exact ⟨fits, rest⟩
  · rintro ⟨fits, rest⟩
    exact ⟨_, (hmul _).2 ⟨fits, rfl⟩, rest⟩

/-- An epoch has rounds, and they share its steps without rest. -/
structure EvenSplit (stepsPerEpoch evalsPerEpoch : Nat) : Prop where
  evals_pos : 0 < evalsPerEpoch
  steps_pos : 0 < stepsPerEpoch
  evals_dvd : evalsPerEpoch ∣ stepsPerEpoch

namespace EvenSplit

variable {stepsPerEpoch evalsPerEpoch : Nat}

/-- The configuration guards the number of rounds where it computes their length, the schedule
does not. -/
theorem max_evals (h : EvenSplit stepsPerEpoch evalsPerEpoch) :
    max evalsPerEpoch 1 = evalsPerEpoch :=
  Nat.max_eq_left h.evals_pos

theorem evals_mul (h : EvenSplit stepsPerEpoch evalsPerEpoch) :
    evalsPerEpoch * (stepsPerEpoch / max evalsPerEpoch 1) = stepsPerEpoch := by
  rw [h.max_evals]
  exact Nat.mul_div_cancel' h.evals_dvd

theorem round_pos (h : EvenSplit stepsPerEpoch evalsPerEpoch) :
    0 < stepsPerEpoch / max evalsPerEpoch 1 := by
  rw [h.max_evals]
  exact Nat.div_pos (Nat.le_of_dvd h.steps_pos h.evals_dvd) h.evals_pos

/-- After `i` rounds of an epoch the others remain. -/
theorem remainingRounds_eq_ok_iff (h : EvenSplit stepsPerEpoch evalsPerEpoch)
    (epoch i n : Nat) :
    remainingRounds (epoch * stepsPerEpoch + i * (stepsPerEpoch / max evalsPerEpoch 1)) epoch
        stepsPerEpoch evalsPerEpoch = .ok n ↔
      epoch * stepsPerEpoch < Count.limit ∧ n = evalsPerEpoch - i := by
  have hpos := h.round_pos
  rw [h.max_evals] at hpos ⊢
  rw [remainingRounds_eq_ok, Nat.add_sub_cancel_left, Nat.mul_div_cancel _ hpos]
  constructor
  · rintro ⟨fits, -, -, -, -, rfl⟩
    exact ⟨fits, rfl⟩
  · rintro ⟨fits, rfl⟩
    exact ⟨fits, Nat.le_add_right _ _, Nat.ne_of_gt hpos, h.evals_dvd, Nat.dvd_mul_left _ _, rfl⟩

/-- Steps that are not those of whole rounds are refused. -/
theorem remainingRounds_of_not_dvd (h : EvenSplit stepsPerEpoch evalsPerEpoch) {epoch done : Nat}
    (fits : epoch * stepsPerEpoch < Count.limit)
    (hdone : ¬stepsPerEpoch / max evalsPerEpoch 1 ∣ done) :
    remainingRounds (epoch * stepsPerEpoch + done) epoch stepsPerEpoch evalsPerEpoch =
      .error (.error (.misalignedStep done (stepsPerEpoch / max evalsPerEpoch 1))) := by
  have hpos := h.round_pos
  rw [h.max_evals] at hpos hdone ⊢
  have hstart : (liftM (Count.mul epoch stepsPerEpoch) : Attempt ScheduleError Nat) =
      .ok (epoch * stepsPerEpoch) := Attempt.mapError_eq_ok.2 (Count.mul_eq_ok.2 ⟨fits, rfl⟩)
  have heven : stepsPerEpoch % evalsPerEpoch = 0 := Nat.mod_eq_zero_of_dvd h.evals_dvd
  have hbetween : done % (stepsPerEpoch / evalsPerEpoch) ≠ 0 :=
    fun hmod => hdone (Nat.dvd_of_mod_eq_zero hmod)
  unfold remainingRounds
  rw [hstart, Attempt.ok_bind, if_neg (Nat.not_lt.2 (Nat.le_add_right _ _)),
    Nat.add_sub_cancel_left, if_neg (Nat.ne_of_gt hpos), if_neg (not_not_intro heven),
    if_pos hbetween]
  rfl

/-- A trainer at the start of an epoch has all of its rounds to do. At the start of an earlier one
it fails, however the epoch is split. -/
theorem remainingRounds_of_le (h : EvenSplit stepsPerEpoch evalsPerEpoch) {i epoch : Nat}
    (hi : i ≤ epoch) :
    remainingRounds (i * stepsPerEpoch) epoch stepsPerEpoch evalsPerEpoch = (do
      let epochStart ← (Count.mul epoch stepsPerEpoch : Attempt ScheduleError Nat)
      if i < epoch then Attempt.fail (.stepBehindEpoch (i * stepsPerEpoch) epochStart)
      return evalsPerEpoch) := by
  cases hmul : Count.mul epoch stepsPerEpoch with
  | error a =>
      rw [remainingRounds, hmul]
      rfl
  | ok epochStart =>
      obtain ⟨fits, rfl⟩ := Count.mul_eq_ok.1 hmul
      have hstart : (liftM (Except.ok (epoch * stepsPerEpoch) : Except Abort Nat) :
          Attempt ScheduleError Nat) = .ok (epoch * stepsPerEpoch) := rfl
      obtain hlt | rfl := Nat.lt_or_eq_of_le hi
      · have hbehind := Nat.mul_lt_mul_of_pos_right hlt h.steps_pos
        simp only [remainingRounds, hmul, hstart, Attempt.ok_bind, if_pos hbehind, if_pos hlt]
        rfl
      · simp only [hstart, Attempt.ok_bind, if_neg (Nat.lt_irrefl i)]
        have hrounds := (h.remainingRounds_eq_ok_iff i 0 evalsPerEpoch).2 ⟨fits, rfl⟩
        rwa [Nat.zero_mul] at hrounds

theorem epoch_end (h : EvenSplit stepsPerEpoch evalsPerEpoch) (epoch : Nat) :
    epoch * stepsPerEpoch + evalsPerEpoch * (stepsPerEpoch / max evalsPerEpoch 1) =
      (epoch + 1) * stepsPerEpoch := by
  rw [h.evals_mul, Nat.succ_mul]

end EvenSplit

namespace Config

def stepsPerEpoch (c : Config) : Role → Nat
  | .value => c.valueTrainStepsPerEpoch
  | .policy => c.policyTrainStepsPerEpoch

def roundsPerEpoch (c : Config) : Role → Nat
  | .value => c.valueEvalsPerEpoch
  | .policy => c.policyEvalsPerEpoch

def stepsPerRound (c : Config) : Role → Nat
  | .value => c.valueStepsPerEval
  | .policy => c.policyStepsPerEval

theorem stepsPerRound_eq (c : Config) (role : Role) :
    c.stepsPerRound role = c.stepsPerEpoch role / max (c.roundsPerEpoch role) 1 := by
  cases role <;> rfl

variable {α : Type}

theorem validateSplit_eq_ok {trainer : Role} {stepsPerEpoch evalsPerEpoch : Nat} :
    validateSplit trainer stepsPerEpoch evalsPerEpoch = (.ok () : Except (ConfigError α) Unit) ↔
      evalsPerEpoch ≤ stepsPerEpoch ∧ evalsPerEpoch ∣ stepsPerEpoch := by
  unfold validateSplit
  rw [Nat.dvd_iff_mod_eq_zero]
  by_cases hle : stepsPerEpoch < evalsPerEpoch
  · simp [hle, Nat.not_le.2 hle]
  · by_cases hmod : stepsPerEpoch % evalsPerEpoch = 0
    · simp [hmod, Nat.not_lt.1 hle]
    · simp [hle, hmod]

theorem validate_eq_ok {c : Config} :
    c.validate = (.ok () : Except (ConfigError α) Unit) ↔
      (∀ f ∈ positiveFields, f.get c ≠ 0) ∧
      (c.valueEvalsPerEpoch ≤ c.valueTrainStepsPerEpoch ∧
        c.valueEvalsPerEpoch ∣ c.valueTrainStepsPerEpoch) ∧
      c.policyEvalsPerEpoch ≤ c.policyTrainStepsPerEpoch ∧
        c.policyEvalsPerEpoch ∣ c.policyTrainStepsPerEpoch := by
  have hfind : (positiveFields.find? fun f => f.get c = 0) = none ↔
      ∀ f ∈ positiveFields, f.get c ≠ 0 := by
    simp [List.find?_eq_none]
  have hvalue := @validateSplit_eq_ok α .value c.valueTrainStepsPerEpoch c.valueEvalsPerEpoch
  have hpolicy := @validateSplit_eq_ok α .policy c.policyTrainStepsPerEpoch c.policyEvalsPerEpoch
  rw [← hfind, ← hvalue, ← hpolicy]
  unfold validate
  cases h : positiveFields.find? fun f => f.get c = 0 with
  | some f => simp [bind, Except.bind, throw, throwThe, MonadExceptOf.throw]
  | none =>
      simp only [Attempt.bind_eq_ok, true_and]
      constructor
      · rintro ⟨⟨⟩, hsplits⟩
        exact hsplits
      · intro hsplits
        exact ⟨(), hsplits⟩

theorem evenSplit_of_validate {c : Config}
    (h : c.validate = (.ok () : Except (ConfigError α) Unit)) (role : Role) :
    EvenSplit (c.stepsPerEpoch role) (c.roundsPerEpoch role) := by
  obtain ⟨hpos, ⟨-, hvalue⟩, -, hpolicy⟩ := validate_eq_ok.1 h
  cases role with
  | value =>
      exact ⟨Nat.pos_of_ne_zero (hpos .valueEvalsPerEpoch (by decide)),
        Nat.pos_of_ne_zero (hpos .valueTrainStepsPerEpoch (by decide)), hvalue⟩
  | policy =>
      exact ⟨Nat.pos_of_ne_zero (hpos .policyEvalsPerEpoch (by decide)),
        Nat.pos_of_ne_zero (hpos .policyTrainStepsPerEpoch (by decide)), hpolicy⟩

end Config
end ActorCritic
