import ActorCritic.Proofs.Coordinator.Progress
import ActorCritic.Proofs.Trainer.Gradient
import ActorCritic.Proofs.Trainer.Recording

/-!
Shared layers in an attempt. Both trainers have them in common whenever a phase starts, and no
other layer is touched on the way. The price is paid by the value trainer: an attempt that resumes
in its phase puts the policy's layers over what it had learned in them.
-/

namespace ActorCritic
namespace Coordinator

variable {α ρ τ : Type} [Trainer α (Supply α) ρ] [Trainer α (Supply α) τ]

theorem copyPolicyToValue_sameOutside [LawfulTrainer ρ] {s t : Session α ρ τ} {r : Run α Unit}
    (h : copyPolicyToValue s = (r, t)) :
    (s.reading .value).SameOutside 0 s.config.sharedLayers (t.reading .value) ∧
      t.reading .policy = s.reading .policy := by
  obtain ⟨x, hx, rfl⟩ := onValue_eq.1 (Action.read_bind_eq.1 h)
  exact ⟨copyLayersFrom_sameOutside hx, rfl⟩

theorem copyValueToPolicy_sameOutside [LawfulTrainer τ] {s t : Session α ρ τ} {r : Run α Unit}
    (h : copyValueToPolicy s = (r, t)) :
    (s.reading .policy).SameOutside 0 s.config.sharedLayers (t.reading .policy) ∧
      t.reading .value = s.reading .value := by
  obtain ⟨x, hx, rfl⟩ := onPolicy_eq.1 (Action.read_bind_eq.1 h)
  exact ⟨copyLayersFrom_sameOutside hx, rfl⟩

variable [LawfulTrainer ρ] [LawfulTrainer τ] {epoch n : Nat} {collected : Snapshot α}
  {done : List CompletedRound} {s t : Session α ρ τ}

theorem valuePhaseOpened_of_reaches (h : Reaches epoch collected s (.valuePhase n 0) done t) :
    ValuePhaseOpened s t := by
  cases h with
  | openValue hopen => exact (openValuePhase_eq_ok hopen).1

/-- Where no copy is made back, no value round was run either, so the layers that the value trainer
got from the policy are still the policy's. -/
theorem sharesLayers_of_reaches_policyPhase (hshared : 0 < s.config.sharedLayers)
    {p : PolicyOpening} (h : Reaches epoch collected s (.policyPhase n p 0) done t) :
    (t.reading .value).SharesLayers 0 s.config.sharedLayers (t.reading .policy) := by
  cases h with
  | @openPolicy _ _ _ u _ hvalue hopen =>
      have hopened := policyPhaseOpened_of_openPolicyPhase hopen
      have hconfig : u.config = s.config := config_of_reaches hvalue
      cases hcopied : p.copied with
      | true =>
          rw [← hconfig]
          exact hopened.shares hcopied
      | false =>
          obtain ⟨-, hiff, -⟩ := openPolicyPhase_eq_ok hopen
          have hnone : n = 0 := by
            refine (Nat.eq_zero_or_pos n).resolve_right fun hpos => ?_
            have hback := hiff.2 ⟨hshared, fun hbegun => Nat.ne_of_gt hpos hbegun.1⟩
            rw [hcopied] at hback
            cases hback
          subst hnone
          rw [hopened.value, hopened.kept hcopied]
          exact ((valuePhaseOpened_of_reaches hvalue).shares hshared).symm

theorem weights_kept_iff_of_reaches (h : Reaches epoch collected s (.valuePhase n 0) done t) :
    (t.reading .value).weights = (s.reading .value).weights ↔
      s.config.sharedLayers = 0 ∨ ∃ u v, (s.reading .policy).weights = .ok u ∧
        (s.reading .value).weights = .ok v ∧ u.SameWithin 0 s.config.sharedLayers v := by
  have hopened := valuePhaseOpened_of_reaches h
  obtain hnone | hshared := Nat.eq_zero_or_pos s.config.sharedLayers
  · rw [hopened.kept hnone]
    exact iff_of_true rfl (.inl hnone)
  · obtain ⟨u, v, w, hu, hv, hcopy, hw⟩ := hopened.weights hshared
    rw [hw, hv, hu]
    constructor
    · intro heq
      cases heq
      exact .inr ⟨u, v, rfl, rfl, (Snapshot.copyLayers_eq_self_iff hcopy).1 rfl⟩
    · rintro (hnone | ⟨u', v', hu', hv', hsame⟩)
      · omega
      · cases hu'
        cases hv'
        rw [(Snapshot.copyLayers_eq_self_iff hcopy).2 hsame]

section Recording

/-- Sessions of trainers that record. -/
abbrev RecordingSession : Type :=
  Session Float32
    (RecordingTrainer Float32 (Supply Float32) (Stream (Trajectory Float32)) (ValueBatch Float32))
    (RecordingTrainer Float32 (Supply Float32) (Stream (Trajectory Float32)) (PolicyBatch Float32))

/-- The weights of a network with one hidden unit, each layer filled with one number. -/
def filledWeights (first second : Float32) : Snapshot Float32 :=
  ⟨[[.fill [1, 1] first, .fill [1] first], [.fill [1, 1] second, .fill [1] second]]⟩

/-- Both trainers have two rounds in an epoch and share the first of two layers. -/
def twoRounds : Config where
  valueTrainStepsPerEpoch := 4
  valueEvalsPerEpoch := 2
  policyTrainStepsPerEpoch := 2
  policyEvalsPerEpoch := 2
  sharedLayers := 1

/-- The task has no batches, so that the trainers only count their steps. -/
def recordingSession (valueStep policyStep : Nat) : RecordingSession :=
  let task : Task Float32 := .ofBatches 0 [1] []
  let algorithm : Algorithm Float32 := ⟨.a2c, .standard⟩
  let slices : SlicePlan Float32 := ⟨0, 1, 1, 1, ⟨1⟩, 0, 1⟩
  let valueBatches : ValueBatchBuilder Float32 := ⟨slices, algorithm.estimator⟩
  let policyBatches : PolicyBatchBuilder Float32 := ⟨slices, algorithm⟩
  ({ plan := ⟨twoRounds, algorithm, task, ⟨1⟩⟩
     valueBatches := valueBatches
     policyBatches := policyBatches
     valueTrainer := .make "value" valueStep (filledWeights 1 1) none (valueBatches.source task)
     policyTrainer :=
       .make "policy" policyStep (filledWeights 2 2) none (policyBatches.source task)
     valueOutputDir := none },
    startingWorld (Network.hiddenValue 0 1 1) .empty 0)

theorem unscheduled_recordingSession (valueStep policyStep : Nat) :
    Trainer.Unscheduled (recordingSession valueStep policyStep).1.valueTrainer ∧
    Trainer.Unscheduled (recordingSession valueStep policyStep).1.policyTrainer := by
  let c := (recordingSession valueStep policyStep).1
  exact ⟨RecordingTrainer.unscheduled (c.valueBatches.unscheduled_source c.plan.task),
    RecordingTrainer.unscheduled (c.policyBatches.unscheduled_source c.plan.task)⟩

/-- The sessions along the first attempt of a run, whose pieces are an opening, two value rounds,
the other opening and policy rounds. -/
def firstAttempt : Nat → RecordingSession
  | 0 => recordingSession 0 0
  | n + 1 =>
      match n with
      | 0 => (openValuePhase twoRounds 0 (.empty 2) (firstAttempt n)).2
      | 1 | 2 => (round twoRounds .value (firstAttempt n)).2
      | 3 => (openPolicyPhase twoRounds 0 2 (firstAttempt n)).2
      | _ => (round twoRounds .policy (firstAttempt n)).2

theorem reaches_firstAttempt :
    Reaches 0 (.empty 2) (recordingSession 0 0) (.valuePhase 2 1) [⟨.value, 0, 0, 2⟩]
      (firstAttempt 2) ∧
    Reaches 0 (.empty 2) (recordingSession 0 0) (.policyPhase 2 ⟨2, true, 2⟩ 1)
      [⟨.value, 0, 0, 2⟩, ⟨.value, 0, 2, 4⟩, ⟨.policy, 0, 0, 1⟩] (firstAttempt 5) := by
  have hopen : openValuePhase twoRounds 0 (.empty 2) (firstAttempt 0) =
      (.ok 2, firstAttempt 1) := Action.eq_of_toOption (by decide +kernel)
  have hfirst : round twoRounds .value (firstAttempt 1) = (.ok (), firstAttempt 2) :=
    Action.eq_of_toOption (by decide +kernel)
  have hsecond : round twoRounds .value (firstAttempt 2) = (.ok (), firstAttempt 3) :=
    Action.eq_of_toOption (by decide +kernel)
  have hpolicy : openPolicyPhase twoRounds 0 2 (firstAttempt 3) =
      (.ok ⟨2, true, 2⟩, firstAttempt 4) := Action.eq_of_toOption (by decide +kernel)
  have hthird : round twoRounds .policy (firstAttempt 4) = (.ok (), firstAttempt 5) :=
    Action.eq_of_toOption (by decide +kernel)
  have hopened : Reaches 0 (.empty 2) (recordingSession 0 0) (.valuePhase 2 0) []
      (firstAttempt 1) := .openValue hopen
  have hvalue := hopened.valueRound (by decide) hfirst
  have hvalues := hvalue.valueRound (by decide) hsecond
  have hround := (hvalues.openPolicy hpolicy).policyRound (by decide) hthird
  have hlog : [completed .value 0 (firstAttempt 1) (firstAttempt 2),
      completed .value 0 (firstAttempt 2) (firstAttempt 3),
      completed .policy 0 (firstAttempt 4) (firstAttempt 5)] =
      [⟨.value, 0, 0, 2⟩, ⟨.value, 0, 2, 4⟩, ⟨.policy, 0, 0, 1⟩] := by decide +kernel
  simp only [List.cons.injEq] at hlog
  obtain ⟨hone, htwo, hthree, -⟩ := hlog
  rw [hone] at hvalue hround
  rw [htwo, hthree] at hround
  exact ⟨hvalue, hround⟩

/-- Interrupted at one stage or the other, the run goes on from the steps reached there, with
weights that were restored. -/
theorem runs_recordingSession :
    Runs 0 [⟨.value, 0, 0, 2⟩] (recordingSession 2 0) ∧
    Runs 0 [⟨.value, 0, 0, 2⟩, ⟨.value, 0, 2, 4⟩, ⟨.policy, 0, 0, 1⟩] (recordingSession 4 1) := by
  have hstart : Runs 0 [] (recordingSession 0 0) :=
    .start rfl fun role => by cases role <;> rfl
  obtain ⟨hvalue, hpolicy⟩ := reaches_firstAttempt
  refine ⟨?_, ?_⟩
  · refine hstart.again hvalue ⟨(plan_of_reaches hvalue).symm, ?_⟩
    intro role
    cases role <;> decide +kernel
  · refine hstart.again hpolicy ⟨(plan_of_reaches hpolicy).symm, ?_⟩
    intro role
    cases role <;> decide +kernel

theorem reaches_resumed_value :
    Reaches 0 (.empty 2) (recordingSession 2 0) (.valuePhase 1 0) []
      (openValuePhase twoRounds 0 (.empty 2) (recordingSession 2 0)).2 :=
  .openValue (Action.eq_of_toOption (by decide +kernel))

end Recording

/-- Whatever comes of an attempt, the trainers have the weights and the state of the shared layers
in common where its value phase starts and again where its policy phase starts, and have kept the
other layers up to there. Neither copy touches another layer of the weights, the state or the slots,
or anything of the trainer that it copies from, be it that the copy fails. -/
theorem shared_layers_agree_at_phase_starts (hshared : 0 < s.config.sharedLayers) (epoch : Nat)
    (collected : Snapshot α) :
    (∀ r v, trainEpoch epoch collected s = (r, v) → ∃ course, Takes epoch collected s course r v ∧
      (∀ t, course.valueStart? = some t →
        (t.reading .policy).SharesLayers 0 s.config.sharedLayers (t.reading .value) ∧
        (s.reading .value).SameOutside 0 s.config.sharedLayers (t.reading .value)) ∧
      ∀ n t u p w, course = .policyPhase n t u p w →
        (w.reading .value).SharesLayers 0 s.config.sharedLayers (w.reading .policy) ∧
        (u.reading .policy).SameOutside 0 s.config.sharedLayers (w.reading .policy) ∧
        w.reading .value = u.reading .value) ∧
    ∀ (u t : Session α ρ τ) (r : Run α Unit),
      (copyPolicyToValue u = (r, t) →
        (u.reading .value).SameOutside 0 u.config.sharedLayers (t.reading .value) ∧
          t.reading .policy = u.reading .policy) ∧
      (copyValueToPolicy u = (r, t) →
        (u.reading .policy).SameOutside 0 u.config.sharedLayers (t.reading .policy) ∧
          t.reading .value = u.reading .value) := by
  refine ⟨?_, ?_⟩
  · intro r v hrun
    obtain ⟨course, htakes⟩ := trainEpoch_eq_iff.1 hrun
    refine ⟨course, htakes, ?_, ?_⟩
    · intro t ht
      obtain ⟨n, hreach⟩ := htakes.valueStart?_eq_some.1 ht
      have hopened := valuePhaseOpened_of_reaches hreach
      exact ⟨hopened.shares hshared, hopened.value⟩
    · rintro n t u p w rfl
      obtain ⟨log, hreach, hopen⟩ := htakes.reaches_trained
      have hopened := policyPhaseOpened_of_openPolicyPhase hopen
      have hother := hopened.policy
      rw [config_of_reaches hreach] at hother
      exact ⟨sharesLayers_of_reaches_policyPhase hshared (.openPolicy hreach hopen), hother,
        hopened.value⟩
  · intro u t r
    exact ⟨copyPolicyToValue_sameOutside, copyValueToPolicy_sameOutside⟩

/-- The policy has begun its rounds, so it is the copy to the value trainer alone that the shared
layer of both comes from. -/
theorem shared_layers_agree_at_resumed_policy_phase :
    ∃ v : RecordingSession,
      trainEpoch 0 (.empty 2) (recordingSession 4 1) = (.ok ⟨0, 0, 1, false, 2⟩, v) ∧
      (v.reading .value).step = 4 ∧ (v.reading .policy).step = 2 ∧
      (v.reading .value).weights = .ok (filledWeights 2 1) ∧
      (v.reading .policy).weights = .ok (filledWeights 2 2) ∧
      ∃ t u w, Takes 0 (.empty 2) (recordingSession 4 1) (.policyPhase 0 t u ⟨1, false, 2⟩ w)
          (.ok ⟨0, 0, 1, false, 2⟩) v ∧
        (t.reading .policy).SharesLayers 0 1 (t.reading .value) ∧
        (w.reading .value).SharesLayers 0 1 (w.reading .policy) := by
  have hrun : trainEpoch 0 (.empty 2) (recordingSession 4 1) = (.ok ⟨0, 0, 1, false, 2⟩, _) :=
    Action.eq_of_toOption (by decide +kernel)
  obtain ⟨hcourse, -⟩ := shared_layers_agree_at_phase_starts (s := recordingSession 4 1)
    (by decide) 0 (.empty 2)
  obtain ⟨course, htakes, hvalue, hpolicy⟩ := hcourse _ _ hrun
  obtain ⟨n, t, u, ⟨rounds, copied, version⟩, w, rfl, hsummary, -⟩ := htakes.exists_policyPhase
  cases hsummary
  refine ⟨_, hrun, by decide +kernel, by decide +kernel, ?_, ?_, t, u, w, htakes,
    (hvalue t rfl).1, (hpolicy _ _ _ _ _ rfl).1⟩
  · exact Attempt.eq_ok_of_toOption (by decide +kernel)
  · exact Attempt.eq_ok_of_toOption (by decide +kernel)

/-- The value trainer enters its rounds with the weights that the attempt found exactly if no layer
is shared or the shared ones were the policy's already. Each session in which the value phase can
start is the one on the course of the attempt. -/
theorem value_weights_kept_iff {r : Run α EpochSummary} {v : Session α ρ τ}
    (h : trainEpoch epoch collected s = (r, v)) :
    ∃ course, Takes epoch collected s course r v ∧
      (∀ n done t, Reaches epoch collected s (.valuePhase n 0) done t →
        course.valueStart? = some t) ∧
      ∀ t, course.valueStart? = some t →
        ((t.reading .value).weights = (s.reading .value).weights ↔
          s.config.sharedLayers = 0 ∨ ∃ u v, (s.reading .policy).weights = .ok u ∧
            (s.reading .value).weights = .ok v ∧ u.SameWithin 0 s.config.sharedLayers v) := by
  obtain ⟨course, htakes⟩ := trainEpoch_eq_iff.1 h
  refine ⟨course, htakes, ?_, ?_⟩
  · intro n done t hreach
    cases hreach with
    | openValue hopen => exact htakes.valueStart?_eq_some.2 ⟨n, .openValue hopen⟩
  · intro t ht
    obtain ⟨n, hreach⟩ := htakes.valueStart?_eq_some.1 ht
    exact weights_kept_iff_of_reaches hreach

/-- One of its two rounds is left, and the first layer is another one than the policy's. -/
theorem value_weights_kept_iff_resumed :
    ∃ v : RecordingSession,
      trainEpoch 0 (.empty 2) (recordingSession 2 0) = (.ok ⟨0, 1, 2, true, 2⟩, v) ∧
      (v.reading .value).weights = .ok (filledWeights 2 1) ∧
      ∃ n t u p w, Takes 0 (.empty 2) (recordingSession 2 0) (.policyPhase n t u p w)
          (.ok ⟨0, 1, 2, true, 2⟩) v ∧
        ((t.reading .value).weights = ((recordingSession 2 0).reading .value).weights ↔
          (recordingSession 2 0).config.sharedLayers = 0 ∨ ∃ u v,
            ((recordingSession 2 0).reading .policy).weights = .ok u ∧
            ((recordingSession 2 0).reading .value).weights = .ok v ∧
            u.SameWithin 0 (recordingSession 2 0).config.sharedLayers v) := by
  have hrun : trainEpoch 0 (.empty 2) (recordingSession 2 0) = (.ok ⟨0, 1, 2, true, 2⟩, _) :=
    Action.eq_of_toOption (by decide +kernel)
  obtain ⟨course, htakes, -, hkept⟩ := value_weights_kept_iff hrun
  obtain ⟨n, t, u, p, w, rfl, -, -⟩ := htakes.exists_policyPhase
  exact ⟨_, hrun, Attempt.eq_ok_of_toOption (by decide +kernel), n, t, u, p, w, htakes,
    hkept t rfl⟩

/-- A value trainer with one of its two rounds behind it is resumed with the policy's numbers in
the first layer, and ends the epoch with them. -/
theorem resumed_value_phase_overwrites_shared_layers :
    Runs 0 [⟨.value, 0, 0, 2⟩] (recordingSession 2 0) ∧
    twoRounds.validate = (.ok () : Except (ConfigError Float32) Unit) ∧
    ((recordingSession 2 0).reading .value).weights = .ok (filledWeights 1 1) ∧
    ∃ (t : RecordingSession) (v : RecordingSession),
      Reaches 0 (.empty 2) (recordingSession 2 0) (.valuePhase 1 0) [] t ∧
      (t.reading .value).weights = .ok (filledWeights 2 1) ∧
      (t.reading .value).weights ≠ ((recordingSession 2 0).reading .value).weights ∧
      trainEpoch 0 (.empty 2) (recordingSession 2 0) = (.ok ⟨0, 1, 2, true, 2⟩, v) ∧
      (v.reading .value).weights = .ok (filledWeights 2 1) := by
  have hbefore : ((recordingSession 2 0).reading .value).weights = .ok (filledWeights 1 1) := rfl
  have hafter : (Session.reading
      (openValuePhase twoRounds 0 (.empty 2) (recordingSession 2 0)).2 .value).weights =
        .ok (filledWeights 2 1) :=
    Attempt.eq_ok_of_toOption (by decide +kernel)
  refine ⟨runs_recordingSession.1, rfl, hbefore, _, _, reaches_resumed_value, hafter, ?_,
    Action.eq_of_toOption (by decide +kernel), Attempt.eq_ok_of_toOption (by decide +kernel)⟩
  rw [hafter, hbefore]
  intro heq
  exact absurd (Except.ok.inj heq) (by decide +kernel)

end Coordinator
end ActorCritic
