import ActorCritic.Proofs.EpochSchedule

/-!
What is told of the rounds of an epoch, whatever the step, the epoch and the split are. There are
five faults, of which the first in a fixed order is told; without a fault the answer is the number
of rounds that lead from the step to the end of the epoch, which is none from there on.
-/

namespace ActorCritic

variable {step epoch stepsPerEpoch evalsPerEpoch : Nat}

/-- Rounds of `length` steps that lead to the end of an epoch, or nowhere from a step beyond it. -/
structure Lands (step epoch stepsPerEpoch evalsPerEpoch length n : Nat) : Prop where
  le_evals : n ≤ evalsPerEpoch
  lands : step + n * length = max step ((epoch + 1) * stepsPerEpoch)

/-- A rule for each fault, with the faults before it ruled out, and one for no fault at all. -/
inductive RoundsLeft (step epoch stepsPerEpoch evalsPerEpoch : Nat) :
    Attempt ScheduleError Nat → Prop where
  | overflow (far : Count.limit ≤ epoch * stepsPerEpoch) :
      RoundsLeft step epoch stepsPerEpoch evalsPerEpoch (.error (.abort (.overflow .multiply)))
  | behind (fits : epoch * stepsPerEpoch < Count.limit) (early : step < epoch * stepsPerEpoch) :
      RoundsLeft step epoch stepsPerEpoch evalsPerEpoch
        (.error (.error (.stepBehindEpoch step (epoch * stepsPerEpoch))))
  | noLength (fits : epoch * stepsPerEpoch < Count.limit) (begun : epoch * stepsPerEpoch ≤ step)
      (short : evalsPerEpoch = 0 ∨ stepsPerEpoch < evalsPerEpoch) :
      RoundsLeft step epoch stepsPerEpoch evalsPerEpoch
        (.error (.error (.zeroStepsPerEval stepsPerEpoch evalsPerEpoch)))
  | uneven (fits : epoch * stepsPerEpoch < Count.limit) (begun : epoch * stepsPerEpoch ≤ step)
      (long : ¬(evalsPerEpoch = 0 ∨ stepsPerEpoch < evalsPerEpoch))
      (rest : ¬evalsPerEpoch ∣ stepsPerEpoch) :
      RoundsLeft step epoch stepsPerEpoch evalsPerEpoch
        (.error (.error (.unevenEvalSplit stepsPerEpoch evalsPerEpoch)))
  | between (fits : epoch * stepsPerEpoch < Count.limit) (begun : epoch * stepsPerEpoch ≤ step)
      (long : ¬(evalsPerEpoch = 0 ∨ stepsPerEpoch < evalsPerEpoch))
      (even : evalsPerEpoch ∣ stepsPerEpoch)
      (inside : ¬stepsPerEpoch / evalsPerEpoch ∣ step - epoch * stepsPerEpoch) :
      RoundsLeft step epoch stepsPerEpoch evalsPerEpoch
        (.error (.error (.misalignedStep (step - epoch * stepsPerEpoch)
          (stepsPerEpoch / evalsPerEpoch))))
  | remaining (fits : epoch * stepsPerEpoch < Count.limit) (begun : epoch * stepsPerEpoch ≤ step)
      (long : ¬(evalsPerEpoch = 0 ∨ stepsPerEpoch < evalsPerEpoch))
      (even : evalsPerEpoch ∣ stepsPerEpoch)
      (whole : stepsPerEpoch / evalsPerEpoch ∣ step - epoch * stepsPerEpoch) {n : Nat}
      (lands : Lands step epoch stepsPerEpoch evalsPerEpoch (stepsPerEpoch / evalsPerEpoch) n) :
      RoundsLeft step epoch stepsPerEpoch evalsPerEpoch (.ok n)

theorem length_eq_zero_iff :
    stepsPerEpoch / evalsPerEpoch = 0 ↔ evalsPerEpoch = 0 ∨ stepsPerEpoch < evalsPerEpoch :=
  Nat.div_eq_zero_iff

/-- After `done` rounds of an epoch, one number of rounds leads to its end. -/
theorem lands_iff {length done n : Nat} (hlength : 0 < length)
    (hsteps : evalsPerEpoch * length = stepsPerEpoch)
    (hstep : step = epoch * stepsPerEpoch + done * length) :
    Lands step epoch stepsPerEpoch evalsPerEpoch length n ↔ evalsPerEpoch - done = n := by
  have hend : (epoch + 1) * stepsPerEpoch = epoch * stepsPerEpoch + evalsPerEpoch * length := by
    rw [Nat.succ_mul, hsteps]
  have hrun : step + n * length = epoch * stepsPerEpoch + (done + n) * length := by
    rw [hstep, Nat.add_mul, Nat.add_assoc]
  constructor
  · rintro ⟨hle, hlands⟩
    rw [hrun, hend] at hlands
    obtain hbefore | hafter := Nat.le_total done evalsPerEpoch
    · have hmul := Nat.mul_le_mul_right length hbefore
      have hrounds : (done + n) * length = evalsPerEpoch * length := by omega
      have := Nat.eq_of_mul_eq_mul_right hlength hrounds
      omega
    · have hmul := Nat.mul_le_mul_right length hafter
      have hrounds : (done + n) * length = done * length := by omega
      have := Nat.eq_of_mul_eq_mul_right hlength hrounds
      omega
  · rintro rfl
    refine ⟨Nat.sub_le _ _, ?_⟩
    rw [hrun, hend]
    obtain hbefore | hafter := Nat.le_total done evalsPerEpoch
    · have hmul := Nat.mul_le_mul_right length hbefore
      rw [Nat.add_sub_cancel' hbefore]
      omega
    · have hmul := Nat.mul_le_mul_right length hafter
      rw [Nat.sub_eq_zero_of_le hafter, Nat.add_zero]
      omega

/-- Without a fault, the rounds that are left lead to the end of the epoch, and no others do. -/
theorem lands_iff_of_whole (begun : epoch * stepsPerEpoch ≤ step)
    (long : ¬(evalsPerEpoch = 0 ∨ stepsPerEpoch < evalsPerEpoch))
    (even : evalsPerEpoch ∣ stepsPerEpoch)
    (whole : stepsPerEpoch / evalsPerEpoch ∣ step - epoch * stepsPerEpoch) {n : Nat} :
    Lands step epoch stepsPerEpoch evalsPerEpoch (stepsPerEpoch / evalsPerEpoch) n ↔
      evalsPerEpoch - (step - epoch * stepsPerEpoch) / (stepsPerEpoch / evalsPerEpoch) = n := by
  refine lands_iff ?_ (Nat.mul_div_cancel' even) ?_
  · exact Nat.pos_of_ne_zero fun hzero => long (length_eq_zero_iff.1 hzero)
  · rw [Nat.div_mul_cancel whole]
    omega

namespace RoundsLeft

/-- There always is a rule that applies. -/
theorem exists_answer (step epoch stepsPerEpoch evalsPerEpoch : Nat) :
    ∃ r, RoundsLeft step epoch stepsPerEpoch evalsPerEpoch r := by
  by_cases far : Count.limit ≤ epoch * stepsPerEpoch
  · exact ⟨_, overflow far⟩
  have fits := Nat.not_le.1 far
  by_cases early : step < epoch * stepsPerEpoch
  · exact ⟨_, behind fits early⟩
  have begun := Nat.not_lt.1 early
  by_cases short : evalsPerEpoch = 0 ∨ stepsPerEpoch < evalsPerEpoch
  · exact ⟨_, noLength fits begun short⟩
  by_cases even : evalsPerEpoch ∣ stepsPerEpoch
  · by_cases whole : stepsPerEpoch / evalsPerEpoch ∣ step - epoch * stepsPerEpoch
    · exact ⟨_, remaining fits begun short even whole
        ((lands_iff_of_whole begun short even whole).2 rfl)⟩
    · exact ⟨_, between fits begun short even whole⟩
  · exact ⟨_, uneven fits begun short even⟩

/-- What a rule says is what is told. -/
theorem remainingRounds_eq {r : Attempt ScheduleError Nat}
    (h : RoundsLeft step epoch stepsPerEpoch evalsPerEpoch r) :
    remainingRounds step epoch stepsPerEpoch evalsPerEpoch = r := by
  have hstart (fits : epoch * stepsPerEpoch < Count.limit) :
      (liftM (Count.mul epoch stepsPerEpoch) : Attempt ScheduleError Nat) =
        .ok (epoch * stepsPerEpoch) := Attempt.mapError_eq_ok.2 (Count.mul_eq_ok.2 ⟨fits, rfl⟩)
  have hlength (long : ¬(evalsPerEpoch = 0 ∨ stepsPerEpoch < evalsPerEpoch)) :
      stepsPerEpoch / evalsPerEpoch ≠ 0 := fun hzero => long (length_eq_zero_iff.1 hzero)
  have heven (even : evalsPerEpoch ∣ stepsPerEpoch) : ¬stepsPerEpoch % evalsPerEpoch ≠ 0 :=
    not_not_intro (Nat.mod_eq_zero_of_dvd even)
  cases h with
  | overflow far =>
      rw [remainingRounds, Count.mul, if_neg (Nat.not_lt.2 far)]
      rfl
  | behind fits early =>
      rw [remainingRounds, hstart fits, Attempt.ok_bind, if_pos early]
      rfl
  | noLength fits begun short =>
      rw [remainingRounds, hstart fits, Attempt.ok_bind, if_neg (Nat.not_lt.2 begun),
        if_pos (length_eq_zero_iff.2 short)]
      rfl
  | uneven fits begun long rest =>
      rw [remainingRounds, hstart fits, Attempt.ok_bind, if_neg (Nat.not_lt.2 begun),
        if_neg (hlength long), if_pos fun hmod => rest (Nat.dvd_of_mod_eq_zero hmod)]
      rfl
  | between fits begun long even inside =>
      rw [remainingRounds, hstart fits, Attempt.ok_bind, if_neg (Nat.not_lt.2 begun),
        if_neg (hlength long), if_neg (heven even),
        if_pos fun hmod => inside (Nat.dvd_of_mod_eq_zero hmod)]
      rfl
  | remaining fits begun long even whole lands =>
      exact remainingRounds_eq_ok.2 ⟨fits, begun, hlength long, even, whole,
        (lands_iff_of_whole begun long even whole).1 lands⟩

end RoundsLeft

/-- For every step, epoch and split, an answer is told exactly if one of the rules gives it, so
that there is one answer and, in the absence of faults, one number of rounds. -/
theorem remainingRounds_eq_iff (step epoch stepsPerEpoch evalsPerEpoch : Nat)
    (r : Attempt ScheduleError Nat) :
    remainingRounds step epoch stepsPerEpoch evalsPerEpoch = r ↔
      RoundsLeft step epoch stepsPerEpoch evalsPerEpoch r := by
  constructor
  · rintro rfl
    obtain ⟨r, h⟩ := RoundsLeft.exists_answer step epoch stepsPerEpoch evalsPerEpoch
    rwa [h.remainingRounds_eq]
  · exact RoundsLeft.remainingRounds_eq

end ActorCritic
