import ActorCritic.Proofs.Coordinator.Progress
import ActorCritic.Proofs.Coordinator.ScheduleFailure
import ActorCritic.Proofs.Coordinator.SharedLayers

/-!
What holds of epochs however often they are interrupted. Each round of an epoch is completed once,
in order, and the schedule never stands in the way; shared layers go back to the policy exactly as
long as it has not completed a round of the epoch.
-/

namespace ActorCritic
namespace Coordinator

variable {α ρ τ : Type} [Trainer α (Supply α) ρ] [Trainer α (Supply α) τ] [LawfulTrainer ρ]
  [LawfulTrainer τ] {epoch : Nat} {log : List CompletedRound} {s : Session α ρ τ}

omit [LawfulTrainer ρ] [LawfulTrainer τ] in
theorem Progress.roundsOf_value {i j : Nat} (h : Progress epoch log i j s) :
    roundsOf .value epoch log = s.config.firstRounds .value epoch i := by
  rw [h.log_eq, roundsOf_append, roundsOf_append, Config.roundsOf_roundsBefore,
    Config.roundsOf_firstRounds, Config.roundsOf_firstRounds]
  simp

omit [LawfulTrainer ρ] [LawfulTrainer τ] in
theorem Progress.policy_not_begun_iff {i j : Nat} (h : Progress epoch log i j s) :
    j = 0 ↔ ∀ r ∈ log, r.epoch = epoch → r.role ≠ .policy := by
  rw [h.log_eq]
  constructor
  · rintro rfl r hr hepoch
    simp only [List.mem_append] at hr
    obtain (hr | hr) | hr := hr
    · have hlt := Config.epoch_lt_of_mem_roundsBefore hr
      omega
    · rw [(Config.role_of_mem_firstRounds hr).1]
      decide
    · simp [Config.firstRounds] at hr
  · intro hnone
    refine (Nat.eq_zero_or_pos j).resolve_right fun hpos => ?_
    obtain ⟨j, rfl⟩ := Nat.exists_eq_succ_of_ne_zero (Nat.ne_of_gt hpos)
    rw [Config.firstRounds_succ] at hnone
    exact hnone _ (List.mem_append_right _ (List.mem_append_right _ (List.mem_singleton_self _)))
      rfl rfl

theorem Progress.not_isSchedule {i j : Nat} (h : Progress epoch log i j s)
    (hvalue : (epoch + 1) * s.config.valueTrainStepsPerEpoch < Count.limit)
    (hpolicy : (epoch + 1) * s.config.policyTrainStepsPerEpoch < Count.limit)
    (hV : Trainer.Unscheduled s.1.valueTrainer) (hP : Trainer.Unscheduled s.1.policyTrainer)
    {collected : Snapshot α} {e : Failure (Error α)} {t : Session α ρ τ}
    (herror : trainEpoch epoch collected s = (.error e, t)) : ¬e.IsSchedule := by
  obtain ⟨V, hv, hV⟩ := hV
  obtain ⟨P, hp, hP⟩ := hP
  refine trainEpoch_not_isSchedule hV hP ⟨hv, hp⟩ ?_ ?_ herror
  · refine ⟨_, (h.remaining_value_iff _).2 ⟨?_, rfl⟩⟩
    exact Nat.lt_of_le_of_lt (Nat.mul_le_mul_right _ (Nat.le_succ epoch)) hvalue
  · intro n done u hreach
    obtain ⟨i', j', hu, -⟩ := h.of_reaches hreach
    have hconfig : u.config = s.config := config_of_reaches hreach
    refine ⟨_, (hu.remaining_policy_iff _).2 ⟨?_, rfl⟩⟩
    rw [hconfig]
    exact Nat.lt_of_le_of_lt (Nat.mul_le_mul_right _ (Nat.le_succ epoch)) hpolicy

/-- However often its attempts are interrupted, an epoch is resumed where it stopped. No attempt
fails because of the schedule while the steps of the epoch are counts; whenever the policy phase is
reached, all value rounds of the epoch are completed; and when the epoch is through, the rounds
completed in all attempts are those of the epochs so far, each once and in order, and the steps are
those of the next epoch's start. -/
theorem interrupted_epochs_resume (hrun : Runs epoch log s) (collected : Snapshot α) :
    ((epoch + 1) * s.config.valueTrainStepsPerEpoch < Count.limit →
      (epoch + 1) * s.config.policyTrainStepsPerEpoch < Count.limit →
      Trainer.Unscheduled s.1.valueTrainer → Trainer.Unscheduled s.1.policyTrainer →
      ∀ (cause : ScheduleError) (t : Session α ρ τ),
        trainEpoch epoch collected s ≠ (.error (.error (.schedule cause)), t)) ∧
    (∀ n p k done t, Reaches epoch collected s (.policyPhase n p k) done t →
      roundsOf .value epoch (log ++ done) =
        s.config.firstRounds .value epoch s.config.valueEvalsPerEpoch) ∧
    ∀ (summary : EpochSummary) (t : Session α ρ τ),
      trainEpoch epoch collected s = (.ok summary, t) →
      (t.reading .value).step = (epoch + 1) * s.config.valueTrainStepsPerEpoch ∧
      (t.reading .policy).step = (epoch + 1) * s.config.policyTrainStepsPerEpoch ∧
      ∃ n p done, Reaches epoch collected s (.policyPhase n p p.rounds) done t ∧
        p.summary epoch n = summary ∧
        log ++ done = s.config.roundsBefore (epoch + 1) ∧
        roundsOf .value epoch (log ++ done) =
          s.config.firstRounds .value epoch s.config.valueEvalsPerEpoch ∧
        roundsOf .policy epoch (log ++ done) =
          s.config.firstRounds .policy epoch s.config.policyEvalsPerEpoch := by
  obtain ⟨i, j, hs⟩ := exists_progress_of_runs hrun
  refine ⟨?_, ?_, ?_⟩
  · intro hvalue hpolicy hV hP cause t herror
    exact hs.not_isSchedule hvalue hpolicy hV hP herror trivial
  · intro n p k done t hreach
    obtain ⟨i', j', ht, -, rfl, -⟩ := hs.of_reaches hreach
    have hconfig : t.config = s.config := config_of_reaches hreach
    rw [ht.roundsOf_value, hconfig]
  · intro summary t hok
    obtain ⟨n, p, done, hreach, hsummary⟩ := trainEpoch_eq_ok.1 hok
    have ht := hs.of_finished hreach
    have hconfig : t.config = s.config := config_of_reaches hreach
    have hlog : log ++ done = s.config.roundsBefore (epoch + 1) := by
      rw [ht.log_eq, hconfig]
      simp [Config.firstRounds]
    refine ⟨?_, ?_, n, p, done, hreach, hsummary, hlog, ?_, ?_⟩
    · rw [ht.value_step, hconfig, Nat.zero_mul]
      rfl
    · rw [ht.policy_step, hconfig, Nat.zero_mul]
      rfl
    · rw [hlog]
      exact s.config.roundsOf_roundsBefore_succ .value epoch
    · rw [hlog]
      exact s.config.roundsOf_roundsBefore_succ .policy epoch

theorem interrupted_epochs_resume_mid_policy :
    Runs 0 [⟨.value, 0, 0, 2⟩, ⟨.value, 0, 2, 4⟩, ⟨.policy, 0, 0, 1⟩] (recordingSession 4 1) ∧
    (∀ (cause : ScheduleError) (t : RecordingSession),
      trainEpoch 0 (.empty 2) (recordingSession 4 1) ≠
        (.error (.error (.schedule cause)), t)) ∧
    ∃ t : RecordingSession,
      trainEpoch 0 (.empty 2) (recordingSession 4 1) = (.ok ⟨0, 0, 1, false, 2⟩, t) ∧
      (t.reading .value).step = 4 ∧ (t.reading .policy).step = 2 := by
  have hrun := runs_recordingSession.2
  obtain ⟨hschedule, -, hend⟩ := interrupted_epochs_resume hrun (.empty 2)
  have hok : trainEpoch 0 (.empty 2) (recordingSession 4 1) = (.ok ⟨0, 0, 1, false, 2⟩, _) :=
    Action.eq_of_toOption (by decide +kernel)
  obtain ⟨hvalue, hpolicy, -⟩ := hend _ _ hok
  obtain ⟨hV, hP⟩ := unscheduled_recordingSession 4 1
  exact ⟨hrun, hschedule (by decide) (by decide) hV hP, _, hok, hvalue, hpolicy⟩

theorem policy_weights_of_reaches_valuePhase {n k : Nat} {done : List CompletedRound}
    {collected : Snapshot α} {t : Session α ρ τ}
    (h : Reaches epoch collected s (.valuePhase n k) done t) :
    (t.reading .policy).weights = (s.reading .policy).weights := by
  induction k generalizing done t with
  | zero =>
      cases h with
      | openValue hopen => rw [(openValuePhase_eq_ok hopen).1.policy]
  | succ k ih =>
      cases h with
      | valueRound hreach _ hround =>
          rw [(round_eq_ok hround).2.2 .policy (by decide)]
          exact ih hreach

/-- Whatever comes of an attempt, if its policy phase starts, the shared layers have gone back to
the policy exactly if no policy round of the epoch has been completed in the attempts before.
Otherwise the policy goes on from the weights that it had when the attempt began. The summary tells
which. -/
theorem copies_back_iff_policy_not_begun (hrun : Runs epoch log s)
    (hshared : 0 < s.config.sharedLayers) (collected : Snapshot α) {r : Run α EpochSummary}
    {v : Session α ρ τ} (hattempt : trainEpoch epoch collected s = (r, v)) :
    ∃ course, Takes epoch collected s course r v ∧
      (∀ summary, r = .ok summary → ∃ n t u p w, course = .policyPhase n t u p w) ∧
      ∀ n t u p w, course = .policyPhase n t u p w →
        (p.copied = true ↔ ∀ r ∈ log, r.epoch = epoch → r.role ≠ .policy) ∧
        (p.copied = true → (∃ x, copyLayersFrom 0 s.config.sharedLayers u.1.valueTrainer
            s.config.copyOptimizerSlots (u.1.policyTrainer, u.2) = (.ok (), x) ∧
            x.1 = w.1.policyTrainer) ∧
          (w.reading .value).SharesLayers 0 s.config.sharedLayers (w.reading .policy)) ∧
        (p.copied = false → w.1.policyTrainer = u.1.policyTrainer ∧
          (w.reading .policy).weights = (s.reading .policy).weights) ∧
        ∀ summary, r = .ok summary → summary.copiedValueToPolicy = p.copied := by
  obtain ⟨i, j, hs⟩ := exists_progress_of_runs hrun
  obtain ⟨course, htakes⟩ := trainEpoch_eq_iff.1 hattempt
  refine ⟨course, htakes, ?_, ?_⟩
  · rintro summary rfl
    obtain ⟨n, t, u, p, w, hcourse, -, -⟩ := htakes.exists_policyPhase
    exact ⟨n, t, u, p, w, hcourse⟩
  rintro n t u p w rfl
  obtain ⟨done, hvalue, hopen⟩ := htakes.reaches_trained
  have hconfig : u.config = s.config := config_of_reaches hvalue
  have hopened := policyPhaseOpened_of_openPolicyPhase hopen
  obtain ⟨-, -, x, world, hlayers, hstart⟩ := openPolicyPhase_eq_ok hopen
  have htrainer : x.1 = w.1.policyTrainer := hstart ▸ rfl
  refine ⟨?_, ?_, ?_, ?_⟩
  · obtain ⟨_, _, -, -, -, -, -, -, hcopied⟩ := hs.of_reaches (.openPolicy hvalue hopen)
    rw [hcopied, ← hs.policy_not_begun_iff]
    exact and_iff_right hshared
  · intro hcopy
    rw [if_pos hcopy, hconfig] at hlayers
    exact ⟨⟨x, hlayers, htrainer⟩,
      sharesLayers_of_reaches_policyPhase hshared (.openPolicy hvalue hopen)⟩
  · intro hkept
    rw [if_neg (by simp [hkept])] at hlayers
    rw [hopened.kept hkept]
    exact ⟨htrainer.symm.trans hlayers, policy_weights_of_reaches_valuePhase hvalue⟩
  · rintro summary rfl
    obtain ⟨_, _, _, _, _, hcourse, rfl, -⟩ := htakes.exists_policyPhase
    cases hcourse
    rfl

/-- What a session has in its journal. -/
def Session.calls (s : Session α ρ τ) : List String := s.2.journal.map Event.text

/-- The first attempt at the epoch hands the shared layer back, and so the policy is given weights
and state. The attempt that finds one of two policy rounds completed does not. -/
theorem copies_back_iff_policy_not_begun_mid_policy :
    (∃ v : RecordingSession,
      trainEpoch 0 (.empty 2) (recordingSession 0 0) = (.ok ⟨0, 2, 2, true, 2⟩, v) ∧
      v.calls = ["policy.set_state", "value.set_weights", "value.set_state",
        "value.train_epoch(2, 1)", "value.train_epoch(2, 1)", "policy.set_weights",
        "policy.set_state", "policy.train_epoch(1, 1)", "policy.train_epoch(1, 1)"] ∧
      ∃ n t u p w, Takes 0 (.empty 2) (recordingSession 0 0) (.policyPhase n t u p w)
          (.ok ⟨0, 2, 2, true, 2⟩) v ∧
        (w.reading .value).SharesLayers 0 1 (w.reading .policy)) ∧
    ∃ v : RecordingSession,
      trainEpoch 0 (.empty 2) (recordingSession 4 1) = (.ok ⟨0, 0, 1, false, 2⟩, v) ∧
      v.calls = ["policy.set_state", "value.set_weights", "value.set_state",
        "policy.train_epoch(1, 1)"] ∧
      (¬∀ r ∈ [⟨.value, 0, 0, 2⟩, ⟨.value, 0, 2, 4⟩, (⟨.policy, 0, 0, 1⟩ : CompletedRound)],
        r.epoch = 0 → r.role ≠ .policy) ∧
      ∃ n t u p w, Takes 0 (.empty 2) (recordingSession 4 1) (.policyPhase n t u p w)
          (.ok ⟨0, 0, 1, false, 2⟩) v ∧
        (w.reading .policy).weights = ((recordingSession 4 1).reading .policy).weights := by
  have hstart : Runs 0 [] (recordingSession 0 0) :=
    .start rfl fun role => by cases role <;> rfl
  have hfirst : trainEpoch 0 (.empty 2) (recordingSession 0 0) = (.ok ⟨0, 2, 2, true, 2⟩, _) :=
    Action.eq_of_toOption (by decide +kernel)
  have hresumed : trainEpoch 0 (.empty 2) (recordingSession 4 1) = (.ok ⟨0, 0, 1, false, 2⟩, _) :=
    Action.eq_of_toOption (by decide +kernel)
  refine ⟨⟨_, hfirst, by decide +kernel, ?_⟩, _, hresumed, by decide +kernel, by decide, ?_⟩
  · obtain ⟨course, htakes, hends, hpolicy⟩ :=
      copies_back_iff_policy_not_begun hstart (by decide) (.empty 2) hfirst
    obtain ⟨n, t, u, p, w, rfl⟩ := hends _ rfl
    obtain ⟨-, hshares, -, htold⟩ := hpolicy _ _ _ _ _ rfl
    exact ⟨n, t, u, p, w, htakes, (hshares (htold _ rfl).symm).2⟩
  · obtain ⟨course, htakes, hends, hpolicy⟩ :=
      copies_back_iff_policy_not_begun runs_recordingSession.2 (by decide) (.empty 2) hresumed
    obtain ⟨n, t, u, p, w, rfl⟩ := hends _ rfl
    obtain ⟨-, -, hkept, htold⟩ := hpolicy _ _ _ _ _ rfl
    exact ⟨n, t, u, p, w, htakes, (hkept (htold _ rfl).symm).2⟩

end Coordinator
end ActorCritic
