import ActorCritic.LearningRate
import ActorCritic.Proofs.Coordinator.Target
import ActorCritic.Proofs.Trainer.Evaluation
import Mathlib.Data.List.Basic

/-!
Runs that differ in their evaluations. Every run trains as one does that takes each epoch in one
round and evaluates nothing: the rounds of an epoch add up to it, and what is copied and what the
value target is refreshed from does not depend on how many they were. So any two runs train alike.
-/

namespace ActorCritic

/-- What a configuration says about evaluation. -/
structure Evaluations where
  valueRounds : Nat
  valueSteps : Nat
  policyRounds : Nat
  policySteps : Nat

/-- One round per epoch, without evaluation steps. -/
def Evaluations.none : Evaluations := ⟨1, 0, 1, 0⟩

def Config.withEvaluations (c : Config) (e : Evaluations) : Config :=
  { c with
    valueEvalsPerEpoch := e.valueRounds
    valueEvalSteps := e.valueSteps
    policyEvalsPerEpoch := e.policyRounds
    policyEvalSteps := e.policySteps }

def RunPlan.withEvaluations {α : Type} (p : RunPlan α) (e : Evaluations) : RunPlan α :=
  { p with config := p.config.withEvaluations e }

namespace Coordinator

/-- The session after one attempt at each of the first epochs. -/
def Session.afterEpochs {α ρ τ : Type} [Trainer α (Supply α) ρ] [Trainer α (Supply α) τ]
    (s : Session α ρ τ) (collected : Nat → Snapshot α) : Nat → Session α ρ τ
  | 0 => s
  | epoch + 1 => (trainEpoch epoch (collected epoch) (s.afterEpochs collected epoch)).2

open GradientTrainer

variable {ι ο μ ι' ο' μ' : Type}

abbrev GradientSession (ι ο μ ι' ο' μ' : Type) :=
  Session Float32
    (GradientTrainer (Supply Float32) (Stream (Trajectory Float32)) (ValueBatch Float32) ι ο μ)
    (GradientTrainer (Supply Float32) (Stream (Trajectory Float32)) (PolicyBatch Float32) ι' ο' μ')

abbrev GradientAction (ι ο μ ι' ο' μ' β : Type) := Action Float32 (GradientSession ι ο μ ι' ο' μ') β

/-- A trainer at the start of an epoch, or of an earlier one, is told the same, however the epoch
is split. -/
theorem follows_remainingRounds {σ τ : Type} {R F : σ → τ → Prop} {steps evals i epoch : Nat}
    (h : EvenSplit steps evals) (hi : i ≤ epoch) (hF : ∀ s t, R s t → F s t) :
    Action.Follows R R F (fun x y => x = evals ∧ y = 1 ∧ i = epoch)
      (liftM (remainingRounds (i * steps) epoch steps evals) : Action Float32 σ Nat)
      (liftM (remainingRounds (i * steps) epoch steps 1) : Action Float32 τ Nat) := by
  have hone : EvenSplit steps 1 := ⟨Nat.one_pos, h.steps_pos, Nat.one_dvd steps⟩
  rw [h.remainingRounds_of_le hi, hone.remainingRounds_of_le hi]
  intro s t hst hreturns
  cases hmul : Count.mul epoch steps with
  | error a =>
      rw [hmul] at hreturns
      exact absurd rfl (hreturns a)
  | ok epochStart =>
      by_cases hlt : i < epoch
      · simp only [if_pos hlt]
        exact .inr ⟨_, s, t, rfl, rfl, hF s t hst⟩
      · simp only [if_neg hlt]
        exact .inl ⟨evals, s, 1, t, rfl, rfl, ⟨rfl, rfl, by omega⟩, hst⟩

/-- A plan with its evaluations, to be compared with the same plan without any; the value target
that the runs start from, and the streams that their trainers are fed with. -/
structure Comparison where
  plan : RunPlan Float32
  evaluations : Evaluations
  valid : (plan.config.withEvaluations evaluations).validate =
    (.ok () : Except (ConfigError Float32) Unit)
  target : ValueTarget Float32
  valueStream : Stream (Trajectory Float32)
  policyStream : Stream (Trajectory Float32)

namespace Comparison

variable (c : Comparison)

def config : Config := c.plan.config.withEvaluations c.evaluations

theorem evenSplit (role : Role) :
    EvenSplit (c.config.stepsPerEpoch role) (c.config.roundsPerEpoch role) :=
  Config.evenSplit_of_validate c.valid role

/-- The sessions of the two runs, with the value trainers at one step and the policy trainers at
another. -/
structure InStep (valueStep policyStep : Nat) (s t : GradientSession ι ο μ ι' ο' μ') : Prop where
  left_plan : s.1.plan = c.plan.withEvaluations c.evaluations
  right_plan : t.1.plan = c.plan.withEvaluations .none
  value : GradientTrainer.InStep c.target.LeadsTo c.valueStream valueStep
    (s.1.valueTrainer, s.2) (t.1.valueTrainer, t.2)
  policy : GradientTrainer.InStep c.target.LeadsTo c.policyStream policyStep
    (s.1.policyTrainer, s.2) (t.1.policyTrainer, t.2)

variable {c} {m m' n n' : Nat}
  {F : GradientSession ι ο μ ι' ο' μ' → GradientSession ι ο μ ι' ο' μ' → Prop}

theorem follows_onValue {β γ : Type} {Q : β → γ → Prop}
    {a : Action Float32 _ β} {b : Action Float32 _ γ}
    (h : Action.Follows (GradientTrainer.InStep c.target.LeadsTo c.valueStream m)
      (GradientTrainer.InStep c.target.LeadsTo c.valueStream m')
      (GradientTrainer.InStep c.target.LeadsTo c.valueStream m) Q a b)
    (hF : ∀ s t, c.InStep m n s t → F s t) :
    Action.Follows (c.InStep m n) (c.InStep m' n) F Q
      (onValue a : GradientAction ι ο μ ι' ο' μ' β) (onValue b) := by
  refine h.within (fun _ _ hst => hst.value) ?_ ?_
  · rintro s t ⟨u, w⟩ ⟨u', w'⟩ hst hx
    exact ⟨hst.left_plan, hst.right_plan, hx, hst.policy.of_target hx.target hx.fits⟩
  · rintro s t ⟨u, w⟩ ⟨u', w'⟩ hst hx
    exact hF _ _ ⟨hst.left_plan, hst.right_plan, hx, hst.policy.of_target hx.target hx.fits⟩

theorem follows_onPolicy {β γ : Type} {Q : β → γ → Prop}
    {a : Action Float32 _ β} {b : Action Float32 _ γ}
    (h : Action.Follows (GradientTrainer.InStep c.target.LeadsTo c.policyStream n)
      (GradientTrainer.InStep c.target.LeadsTo c.policyStream n')
      (GradientTrainer.InStep c.target.LeadsTo c.policyStream n) Q a b)
    (hF : ∀ s t, c.InStep m n s t → F s t) :
    Action.Follows (c.InStep m n) (c.InStep m n') F Q
      (onPolicy a : GradientAction ι ο μ ι' ο' μ' β) (onPolicy b) := by
  refine h.within (fun _ _ hst => hst.policy) ?_ ?_
  · rintro s t ⟨u, w⟩ ⟨u', w'⟩ hst hx
    exact ⟨hst.left_plan, hst.right_plan, hst.value.of_target hx.target hx.fits, hx⟩
  · rintro s t ⟨u, w⟩ ⟨u', w'⟩ hst hx
    exact hF _ _ ⟨hst.left_plan, hst.right_plan, hst.value.of_target hx.target hx.fits, hx⟩

theorem follows_copyPolicyToValue (hF : ∀ s t, c.InStep m n s t → F s t) :
    Action.Follows (c.InStep m n) (c.InStep m n) F (fun _ _ => True)
      (copyPolicyToValue : GradientAction ι ο μ ι' ο' μ' Unit) copyPolicyToValue := by
  refine .read_bind ?_
  rintro ⟨s, w⟩ ⟨t, v⟩ hst
  have hs : s.plan = c.plan.withEvaluations c.evaluations := hst.left_plan
  have ht : t.plan = c.plan.withEvaluations .none := hst.right_plan
  simp only [hs, ht]
  exact follows_onValue (follows_copyLayersFrom (fun _ _ h => h) hst.policy.same _ _ _) hF

theorem follows_copyBack (copied : Bool) (hF : ∀ s t, c.InStep m n s t → F s t) :
    Action.Follows (c.InStep m n) (c.InStep m n) F (fun _ _ => True)
      (copyBack copied : GradientAction ι ο μ ι' ο' μ' Unit) (copyBack copied) := by
  cases copied with
  | true =>
      refine .read_bind ?_
      rintro ⟨s, w⟩ ⟨t, v⟩ hst
      have hs : s.plan = c.plan.withEvaluations c.evaluations := hst.left_plan
      have ht : t.plan = c.plan.withEvaluations .none := hst.right_plan
      simp only [hs, ht]
      exact follows_onPolicy (follows_copyLayersFrom (fun _ _ h => h) hst.value.same _ _ _) hF
  | false => exact .pure trivial

theorem follows_enterValuePhase (collected : Snapshot Float32)
    (hF : ∀ s t, c.InStep m n s t → F s t) :
    Action.Follows (c.InStep m n) (c.InStep m n) F (fun _ _ => True)
      (enterValuePhase c.config collected : GradientAction ι ο μ ι' ο' μ' Unit)
      (enterValuePhase (c.plan.config.withEvaluations .none) collected) := by
  refine (follows_onPolicy (follows_setState (fun _ _ h => h) collected) hF).bind fun _ _ _ => ?_
  change Action.Follows _ _ _ _ (if 0 < c.plan.config.sharedLayers then _ else _)
    (if 0 < c.plan.config.sharedLayers then _ else _)
  by_cases hshared : 0 < c.plan.config.sharedLayers
  · rw [if_pos hshared]
    exact follows_copyPolicyToValue hF
  · rw [if_neg hshared]
    exact .pure trivial

theorem follows_refreshTarget (hF : ∀ s t, c.InStep m n s t → F s t) :
    Action.Follows (c.InStep m n) (c.InStep m n) F (fun _ _ => True)
      (refreshTarget : GradientAction ι ο μ ι' ο' μ' Nat) refreshTarget := by
  refine .read_bind ?_
  rintro ⟨s, w⟩ ⟨t, v⟩ hst
  obtain ⟨evalStream, loggers, history, hsame⟩ := hst.value.same
  have htarget : w.supply.target = v.supply.target := hst.value.target
  have hvalue : t.valueTrainer = { s.valueTrainer with
      evalStream := evalStream, loggers := loggers, history := history } := hsame
  simp only [hvalue, ← htarget]
  refine (Action.Follows.lift hF).bind ?_
  rintro weights _ ⟨rfl, -⟩
  refine (Action.Follows.lift hF).bind ?_
  rintro target _ ⟨rfl, hrefresh⟩
  have hfits : c.target.LeadsTo target :=
    hst.value.fits.refresh (Attempt.mapError_eq_ok.1 hrefresh)
  refine .bind (.update (S := c.InStep m n) ?_) fun _ _ _ => .pure trivial
  rintro s t hst
  exact ⟨hst.left_plan, hst.right_plan, hst.value.of_target rfl hfits,
    hst.policy.of_target rfl hfits⟩

theorem follows_remainingValueRounds {i epoch : Nat} (hi : i ≤ epoch)
    (hF : ∀ s t, c.InStep (i * c.config.valueTrainStepsPerEpoch) n s t → F s t) :
    Action.Follows (c.InStep (i * c.config.valueTrainStepsPerEpoch) n)
      (c.InStep (i * c.config.valueTrainStepsPerEpoch) n) F
      (fun x y => x = c.config.valueEvalsPerEpoch ∧ y = 1 ∧ i = epoch)
      (remainingValueRounds epoch : GradientAction ι ο μ ι' ο' μ' Nat)
      (remainingValueRounds epoch) := by
  refine .read_bind ?_
  rintro ⟨s, w⟩ ⟨t, v⟩ hst
  have hs : s.plan = c.plan.withEvaluations c.evaluations := hst.left_plan
  have ht : t.plan = c.plan.withEvaluations .none := hst.right_plan
  have hleft : Trainer.step s.valueTrainer = _ := hst.value.step
  have hright : Trainer.step t.valueTrainer = _ := hst.value.right_step
  simp only [hs, ht, hleft, hright]
  exact follows_remainingRounds (c.evenSplit .value) hi hF

theorem follows_remainingPolicyRounds {j epoch : Nat} (hj : j ≤ epoch)
    (hF : ∀ s t, c.InStep m (j * c.config.policyTrainStepsPerEpoch) s t → F s t) :
    Action.Follows (c.InStep m (j * c.config.policyTrainStepsPerEpoch))
      (c.InStep m (j * c.config.policyTrainStepsPerEpoch)) F
      (fun x y => x = c.config.policyEvalsPerEpoch ∧ y = 1 ∧ j = epoch)
      (remainingPolicyRounds epoch : GradientAction ι ο μ ι' ο' μ' Nat)
      (remainingPolicyRounds epoch) := by
  refine .read_bind ?_
  rintro ⟨s, w⟩ ⟨t, v⟩ hst
  have hs : s.plan = c.plan.withEvaluations c.evaluations := hst.left_plan
  have ht : t.plan = c.plan.withEvaluations .none := hst.right_plan
  have hleft : Trainer.step s.policyTrainer = _ := hst.policy.step
  have hright : Trainer.step t.policyTrainer = _ := hst.policy.right_step
  simp only [hs, ht, hleft, hright]
  exact follows_remainingRounds (c.evenSplit .policy) hj hF

theorem follows_openValuePhase {i epoch : Nat} (hi : i ≤ epoch) (collected : Snapshot Float32)
    (hF : ∀ s t, c.InStep (i * c.config.valueTrainStepsPerEpoch) n s t → F s t) :
    Action.Follows (c.InStep (i * c.config.valueTrainStepsPerEpoch) n)
      (c.InStep (i * c.config.valueTrainStepsPerEpoch) n) F
      (fun x y => x = c.config.valueEvalsPerEpoch ∧ y = 1 ∧ i = epoch)
      (openValuePhase c.config epoch collected : GradientAction ι ο μ ι' ο' μ' Nat)
      (openValuePhase (c.plan.config.withEvaluations .none) epoch collected) := by
  rw [openValuePhase_eq, openValuePhase_eq]
  refine (follows_enterValuePhase collected hF).bind fun _ _ _ => ?_
  exact (follows_refreshTarget hF).bind fun _ _ _ => follows_remainingValueRounds hi hF

/-- Both runs have rounds before the policy phase, so both copy back where layers are shared. -/
theorem follows_openPolicyPhase {j epoch rounds rounds' : Nat} (hj : j ≤ epoch)
    (hrounds : 0 < rounds) (hrounds' : 0 < rounds')
    (hF : ∀ s t, c.InStep m (j * c.config.policyTrainStepsPerEpoch) s t → F s t) :
    Action.Follows (c.InStep m (j * c.config.policyTrainStepsPerEpoch))
      (c.InStep m (j * c.config.policyTrainStepsPerEpoch)) F
      (fun x y => x.rounds = c.config.policyEvalsPerEpoch ∧ y.rounds = 1 ∧ j = epoch)
      (openPolicyPhase c.config epoch rounds : GradientAction ι ο μ ι' ο' μ' PolicyOpening)
      (openPolicyPhase (c.plan.config.withEvaluations .none) epoch rounds') := by
  rw [openPolicyPhase_eq, openPolicyPhase_eq]
  refine (follows_remainingPolicyRounds hj hF).bind ?_
  rintro k k' ⟨hk, hk', hepoch⟩
  have hshared : c.config.sharedLayers = (c.plan.config.withEvaluations .none).sharedLayers := rfl
  simp only [Nat.ne_of_gt hrounds, Nat.ne_of_gt hrounds', false_and, not_false_eq_true, and_true,
    hshared]
  refine (follows_copyBack _ hF).bind fun _ _ _ => (follows_refreshTarget hF).bind fun _ _ _ => ?_
  exact .pure ⟨hk, hk', hepoch⟩

/-- The value rounds of an epoch train as the one round of the other run does. -/
theorem follows_valueRounds {i : Nat}
    (hF : ∀ s t, c.InStep (i * c.config.valueTrainStepsPerEpoch) n s t → F s t) :
    Action.Follows (c.InStep (i * c.config.valueTrainStepsPerEpoch) n)
      (c.InStep ((i + 1) * c.config.valueTrainStepsPerEpoch) n) F (fun _ _ => True)
      (Action.repeated (round c.config .value) c.config.valueEvalsPerEpoch :
        GradientAction ι ο μ ι' ο' μ' Unit)
      (round (c.plan.config.withEvaluations .none) .value) := by
  have hall : c.config.valueEvalsPerEpoch * c.config.valueStepsPerEval =
      c.config.valueTrainStepsPerEpoch := (c.evenSplit .value).evals_mul
  have hone : (c.plan.config.withEvaluations .none).valueStepsPerEval =
      c.config.valueTrainStepsPerEpoch := Nat.div_one _
  rw [round, round, repeated_onValue, Nat.succ_mul, hone, ← hall]
  exact follows_onValue (follows_oneRound _ _ _) (by rwa [← hall] at hF)

theorem follows_policyRounds {j : Nat}
    (hF : ∀ s t, c.InStep m (j * c.config.policyTrainStepsPerEpoch) s t → F s t) :
    Action.Follows (c.InStep m (j * c.config.policyTrainStepsPerEpoch))
      (c.InStep m ((j + 1) * c.config.policyTrainStepsPerEpoch)) F (fun _ _ => True)
      (Action.repeated (round c.config .policy) c.config.policyEvalsPerEpoch :
        GradientAction ι ο μ ι' ο' μ' Unit)
      (round (c.plan.config.withEvaluations .none) .policy) := by
  have hall : c.config.policyEvalsPerEpoch * c.config.policyStepsPerEval =
      c.config.policyTrainStepsPerEpoch := (c.evenSplit .policy).evals_mul
  have hone : (c.plan.config.withEvaluations .none).policyStepsPerEval =
      c.config.policyTrainStepsPerEpoch := Nat.div_one _
  rw [round, round, repeated_onPolicy, Nat.succ_mul, hone, ← hall]
  exact follows_onPolicy (follows_oneRound _ _ _) (by rwa [← hall] at hF)

variable (c) in
/-- After attempts at the first epochs, each trainer has done some of them and is at the start of
another. -/
def Between (epochs : Nat) (s t : GradientSession ι ο μ ι' ο' μ') : Prop :=
  ∃ i ≤ epochs, ∃ j ≤ epochs, c.InStep (i * c.config.valueTrainStepsPerEpoch)
    (j * c.config.policyTrainStepsPerEpoch) s t

/-- An attempt at an epoch keeps the two runs in step, whether it gets through or fails. -/
theorem follows_trainEpoch (epoch : Nat) (collected : Snapshot Float32) :
    Action.Follows (c.Between epoch) (c.Between (epoch + 1)) (c.Between (epoch + 1))
      (fun _ _ => True) (trainEpoch epoch collected : GradientAction ι ο μ ι' ο' μ' EpochSummary)
      (trainEpoch epoch collected) := by
  rintro s t ⟨i, hi, j, hj, hst⟩ hreturns
  have hs : s.config = c.config := congrArg RunPlan.config hst.left_plan
  have ht : t.config = c.plan.config.withEvaluations .none :=
    congrArg RunPlan.config hst.right_plan
  rw [trainEpoch_run, hs] at hreturns ⊢
  rw [trainEpoch_run, ht]
  have hfailed {k l : Nat} (hk : k ≤ epoch + 1) (hl : l ≤ epoch + 1)
      (u v : GradientSession ι ο μ ι' ο' μ') (huv : c.InStep (k * c.config.valueTrainStepsPerEpoch)
        (l * c.config.policyTrainStepsPerEpoch) u v) : c.Between (epoch + 1) u v :=
    ⟨k, hk, l, hl, huv⟩
  refine Action.Follows.bind (follows_openValuePhase hi collected (hfailed (by omega) (by omega)))
    ?_ s t hst hreturns
  rintro rounds _ ⟨rfl, rfl, rfl⟩
  rw [Action.repeated_one]
  refine (follows_valueRounds (hfailed (by omega) (by omega))).bind fun _ _ _ => ?_
  refine (follows_openPolicyPhase hj (c.evenSplit .value).evals_pos Nat.one_pos
    (hfailed (by omega) (by omega))).bind ?_
  rintro p q ⟨hp, hq, rfl⟩
  rw [hp, hq, Action.repeated_one]
  refine (follows_policyRounds (hfailed (by omega) (by omega))).bind fun _ _ _ => ?_
  exact (Action.Follows.pure trivial).mono (fun _ _ h => h) (hfailed (by omega) (by omega))
    (fun _ _ h => h) fun _ _ h => h

/-- Trainers that have not been trained yet are in step if they are made alike. -/
theorem between_of_untrained {value : Parts (ValueBatch Float32) ι ο μ}
    {policy : Parts (PolicyBatch Float32) ι' ο' μ'}
    {valueSource : BatchSource Float32 (Supply Float32) (Stream (Trajectory Float32))
      (ValueBatch Float32)}
    {policySource : BatchSource Float32 (Supply Float32) (Stream (Trajectory Float32))
      (PolicyBatch Float32)} {s t : GradientSession ι ο μ ι' ο' μ'}
    (hleft : s.1.plan = c.plan.withEvaluations c.evaluations)
    (hright : t.1.plan = c.plan.withEvaluations .none)
    (hvalue : s.1.valueTrainer = value.untrained valueSource ∧
      t.1.valueTrainer = value.untrained valueSource)
    (hpolicy : s.1.policyTrainer = policy.untrained policySource ∧
      t.1.policyTrainer = policy.untrained policySource)
    (hvalueSteady : valueSource.Steady c.target.LeadsTo c.valueStream)
    (hpolicySteady : policySource.Steady c.target.LeadsTo c.policyStream)
    (htarget : s.target = t.target) (hfits : c.target.LeadsTo s.target) : c.Between 0 s t := by
  refine ⟨0, Nat.le_refl 0, 0, Nat.le_refl 0, hleft, hright, ?_, ?_⟩
  · rw [hvalue.1, hvalue.2, Nat.zero_mul]
    exact ⟨⟨none, _, _, rfl⟩, htarget, rfl, hfits, value.fed_untrained hvalueSteady,
      value.fed_untrained hvalueSteady⟩
  · rw [hpolicy.1, hpolicy.2, Nat.zero_mul]
    exact ⟨⟨none, _, _, rfl⟩, htarget, rfl, hfits, policy.fed_untrained hpolicySteady,
      policy.fed_untrained hpolicySteady⟩

theorem between_afterEpochs {s t : GradientSession ι ο μ ι' ο' μ'} (h : c.Between 0 s t)
    (collected : Nat → Snapshot Float32) {n : Nat}
    (hreturns : ∀ k < n, (trainEpoch k (collected k) (s.afterEpochs collected k)).1.Returns) :
    c.Between n (s.afterEpochs collected n) (t.afterEpochs collected n) := by
  induction n with
  | zero => exact h
  | succ n ih =>
      have hbefore := ih fun k hk => hreturns k (by omega)
      exact (follows_trainEpoch n (collected n)).states hbefore (hreturns n (by omega))

end Comparison

/-- The trainers and the value target are alike. -/
structure TrainedAlike (s t : GradientSession ι ο μ ι' ο' μ') : Prop where
  value : s.1.valueTrainer.TrainedAlike t.1.valueTrainer
  policy : s.1.policyTrainer.TrainedAlike t.1.policyTrainer
  target : s.target = t.target

theorem trainedAlike_of_between {c d : Comparison} {m n : Nat}
    {s t u : GradientSession ι ο μ ι' ο' μ'}
    (hs : c.Between m s u) (ht : d.Between n t u) : TrainedAlike s t := by
  obtain ⟨_, -, _, -, hs⟩ := hs
  obtain ⟨_, -, _, -, ht⟩ := ht
  exact ⟨hs.value.same.trainedAlike ht.value.same, hs.policy.same.trainedAlike ht.policy.same,
    hs.value.target.trans ht.value.target.symm⟩

theorem make_eq_ok (plan : RunPlan Float32) {value : Parts (ValueBatch Float32) ι ο μ}
    {policy : Parts (PolicyBatch Float32) ι' ο' μ'} {w : RunWorld Float32}
    {s : GradientSession ι ο μ ι' ο' μ'} (houtput : plan.config.outputDir = none)
    (h : make plan value.make policy.make w = (.ok s.1, s.2)) :
    ValueBatchBuilder.ofConfig plan.config plan.task.gamma plan.algorithm.estimator plan.replay =
        .ok s.1.valueBatches ∧
      PolicyBatchBuilder.ofConfig plan.config plan.task.gamma plan.algorithm plan.replay =
        .ok s.1.policyBatches ∧
      s.1.plan = plan ∧ s.1.valueTrainer = value.untrained (s.1.valueBatches.source plan.task) ∧
      s.1.policyTrainer = policy.untrained (s.1.policyBatches.source plan.task) ∧
      s.2.supply = w.supply := by
  unfold make at h
  simp only [houtput, Option.map_none] at h
  obtain ⟨valueBatches, _, hbuilder, h⟩ := Action.bind_eq_ok.1 h
  obtain ⟨hvalue, rfl⟩ := Action.lift_eq.1 hbuilder
  obtain ⟨policyBatches, _, hbuilder, h⟩ := Action.bind_eq_ok.1 h
  obtain ⟨hpolicy, rfl⟩ := Action.lift_eq.1 hbuilder
  obtain ⟨trainer, _, htrainer, h⟩ := Action.bind_eq_ok.1 h
  cases htrainer
  obtain ⟨trainer, _, htrainer, h⟩ := Action.bind_eq_ok.1 h
  cases htrainer
  obtain ⟨hcoordinator, hworld⟩ := Action.pure_eq_ok.1 h
  rw [← hcoordinator, ← hworld]
  exact ⟨Attempt.mapError_eq_ok.1 hvalue, Attempt.mapError_eq_ok.1 hpolicy, rfl, rfl, rfl, rfl⟩

/-- A task has a stream for a request, which is not empty, and a batch is built from each of its
trajectories with the value target as it was made or after refreshes. -/
def Feeds {α β : Type} (task : Task α) (request : SliceRequest)
    (build : ValueTarget α → Trajectory α → Attempt ShapeError β) (initial : ValueTarget α) :
    Prop :=
  ∃ stream, task.stream request = .ok stream ∧ stream.items stream.position ≠ none ∧
    ∀ i trajectory, stream.items i = some trajectory → ∀ target, initial.LeadsTo target →
      ∃ batch, build target trajectory = .ok batch

/-- Evaluations leave the training alone. Two coordinators that are made alike, without a directory
for output, but with other evaluations, come to the same parameters, the same memories of the
optimizers, the same steps and the same value target through any number of epochs, as long as
batches are built from all that the task gives and no attempt is aborted. -/
theorem evaluations_leave_training_alone (plan : RunPlan Float32)
    {value : Parts (ValueBatch Float32) ι ο μ} {policy : Parts (PolicyBatch Float32) ι' ο' μ'}
    {w : RunWorld Float32} {e₁ e₂ : Evaluations}
    (hvalid₁ : (plan.config.withEvaluations e₁).validate =
      (.ok () : Except (ConfigError Float32) Unit))
    (hvalid₂ : (plan.config.withEvaluations e₂).validate =
      (.ok () : Except (ConfigError Float32) Unit))
    (houtput : plan.config.outputDir = none) {s₁ s₂ : GradientSession ι ο μ ι' ο' μ'}
    (hmake₁ : make (plan.withEvaluations e₁) value.make policy.make w = (.ok s₁.1, s₁.2))
    (hmake₂ : make (plan.withEvaluations e₂) value.make policy.make w = (.ok s₂.1, s₂.2))
    (hvalue : Feeds plan.task s₁.1.valueBatches.plan.request s₁.1.valueBatches.build
      w.supply.target)
    (hpolicy : Feeds plan.task s₁.1.policyBatches.plan.request s₁.1.policyBatches.build
      w.supply.target)
    (collected : Nat → Snapshot Float32) (n : Nat)
    (hreturns₁ : ∀ k < n, (trainEpoch k (collected k) (s₁.afterEpochs collected k)).1.Returns)
    (hreturns₂ : ∀ k < n, (trainEpoch k (collected k) (s₂.afterEpochs collected k)).1.Returns) :
    TrainedAlike (s₁.afterEpochs collected n) (s₂.afterEpochs collected n) := by
  obtain ⟨valueStream, hvalueStream, hvalueFirst, hvalueBuilds⟩ := hvalue
  obtain ⟨policyStream, hpolicyStream, hpolicyFirst, hpolicyBuilds⟩ := hpolicy
  obtain ⟨hvb₁, hpb₁, hplan₁, hvalue₁, hpolicy₁, hsupply₁⟩ :=
    make_eq_ok (plan.withEvaluations e₁) houtput hmake₁
  obtain ⟨hvb₂, hpb₂, hplan₂, hvalue₂, hpolicy₂, hsupply₂⟩ :=
    make_eq_ok (plan.withEvaluations e₂) houtput hmake₂
  -- The builders do not look at the evaluations, so both runs draw from the same sources.
  have hvb : s₂.1.valueBatches = s₁.1.valueBatches := Except.ok.inj (hvb₂.symm.trans hvb₁)
  have hpb : s₂.1.policyBatches = s₁.1.policyBatches := Except.ok.inj (hpb₂.symm.trans hpb₁)
  rw [hvb] at hvalue₂
  rw [hpb] at hpolicy₂
  have hvalueSteady : (s₁.1.valueBatches.source plan.task).Steady w.supply.target.LeadsTo
      valueStream := BatchSource.steady_ofTask hvalueStream hvalueFirst hvalueBuilds
  have hpolicySteady : (s₁.1.policyBatches.source plan.task).Steady w.supply.target.LeadsTo
      policyStream := BatchSource.steady_ofTask hpolicyStream hpolicyFirst hpolicyBuilds
  let reference : GradientSession ι ο μ ι' ο' μ' :=
    ({ s₁.1 with plan := plan.withEvaluations .none }, s₁.2)
  have htarget₁ : s₁.target = w.supply.target := congrArg Supply.target hsupply₁
  have htarget₂ : s₂.target = w.supply.target := congrArg Supply.target hsupply₂
  have hbetween₁ := Comparison.between_of_untrained (t := reference)
    (c := ⟨plan, e₁, hvalid₁, w.supply.target, valueStream, policyStream⟩) hplan₁ rfl
    ⟨hvalue₁, hvalue₁⟩ ⟨hpolicy₁, hpolicy₁⟩ hvalueSteady hpolicySteady rfl
    (by rw [htarget₁]; exact .refl _)
  have hbetween₂ := Comparison.between_of_untrained (t := reference)
    (c := ⟨plan, e₂, hvalid₂, w.supply.target, valueStream, policyStream⟩) hplan₂ rfl
    ⟨hvalue₂, hvalue₁⟩ ⟨hpolicy₂, hpolicy₁⟩ hvalueSteady hpolicySteady
    (htarget₂.trans htarget₁.symm) (by rw [htarget₂]; exact .refl _)
  exact trainedAlike_of_between (Comparison.between_afterEpochs hbetween₁ collected hreturns₁)
    (Comparison.between_afterEpochs hbetween₂ collected hreturns₂)

section Sample

/-- Two steps per epoch for either trainer, on batches of two slices of two steps. -/
def briefPlan : RunPlan Float32 where
  config := {
    valueBatchSize := 2
    valueTrainStepsPerEpoch := 2
    policyBatchSize := 2
    policyTrainStepsPerEpoch := 2
    maxSliceLength := 2
    sharedLayers := 1 }
  algorithm := ⟨.a2c, .standard⟩
  task := .constant 0 1 1 1 none
  replay := ⟨1⟩

/-- Scores that tell a loss of zero and report nothing beside it, with the gradients of the loss. -/
def unreported {β : Type} (score : Network Float32 ι ο → β → Except Abort (Score Float32))
    (network : Network Float32 ι ο) (batch : β) : Except Abort (Score Float32) :=
  (score network batch).map fun s => { s with loss := 0, metrics := [] }

def linearCritic : Parts (ValueBatch Float32) (StepTensor Float32) (StepTensor Float32)
    (Moments Float32) where
  name := "value"
  network := Network.linearValue 0 1 1
  optimizer := .adam
  schedule := (LearningRate.constant 1).rate
  score := unreported Score.value

def gaussianActor : Parts (PolicyBatch Float32) (StepTensor Float32 × StepTensor Float32)
    (StepMatrix Float32) Unit where
  name := "policy"
  network := Network.gaussianPolicy 2 1 1 1
  optimizer := .sgd
  schedule := (LearningRate.constant 1).rate
  score := unreported (Score.policy briefPlan.algorithm)

def briefWorld : RunWorld Float32 := startingWorld linearCritic.network .empty 0

def briefSlices : SlicePlan Float32 := ⟨0, 2, 2, 1, ⟨1⟩, 0, 1⟩

def criticBatches : ValueBatchBuilder Float32 := ⟨briefSlices, briefPlan.algorithm.estimator⟩

def actorBatches : PolicyBatchBuilder Float32 := ⟨briefSlices, briefPlan.algorithm⟩

/-- What the coordinator of the plan is made as. -/
def briefSession (e : Evaluations) : GradientSession (StepTensor Float32) (StepTensor Float32)
    (Moments Float32) (StepTensor Float32 × StepTensor Float32) (StepMatrix Float32) Unit :=
  ({ plan := briefPlan.withEvaluations e
     valueBatches := criticBatches
     policyBatches := actorBatches
     valueTrainer := linearCritic.untrained (criticBatches.source briefPlan.task)
     policyTrainer := gaussianActor.untrained (actorBatches.source briefPlan.task)
     valueOutputDir := none },
    { briefWorld with journal := [⟨"value", .setup none⟩, ⟨"policy", .setup none⟩] })

theorem exists_fill {α : Type} {t : Tensor α} {shape : List Nat} (h : t.shape = shape)
    (hone : entryCount shape = 1) : ∃ x, t = .fill shape x := by
  obtain ⟨_, entries, hsize⟩ := t
  subst h
  obtain ⟨x, rfl⟩ := List.length_eq_one_iff.1 (hsize.trans hone)
  exact ⟨x, by simp [Tensor.fill, hone]⟩

def criticWith (weight bias : Float32) : ValueNetwork Float32 :=
  { linearCritic.network with params := [⟨0, .fill [1, 1] weight⟩, ⟨1, .fill [1] bias⟩] }

/-- Refreshes change the weight and the bias of the critic's network alone. -/
theorem exists_criticWith {target : ValueTarget Float32}
    (h : briefWorld.supply.target.LeadsTo target) :
    ∃ weight bias, target.network = criticWith weight bias := by
  obtain hsame | ⟨weights, hload⟩ := h.network
  · exact ⟨0, 0, hsame⟩
  obtain ⟨-, hlength, hmisfit, hnetwork⟩ := Network.load_cases.1 hload
  obtain ⟨first, second, htensors⟩ := List.length_eq_two.1 hlength.symm
  rw [htensors] at hmisfit hnetwork
  change (if _ then (if _ then _ else _) else _) = none at hmisfit
  split at hmisfit
  · next hfirst =>
      split at hmisfit
      · next hsecond =>
          obtain ⟨weight, rfl⟩ := exists_fill hfirst.symm rfl
          obtain ⟨bias, rfl⟩ := exists_fill hsecond.symm rfl
          exact ⟨weight, bias, hnetwork.symm⟩
      · cases hmisfit
  · cases hmisfit

theorem feeds_critic : Feeds briefPlan.task criticBatches.plan.request criticBatches.build
    briefWorld.supply.target := by
  refine ⟨_, rfl, nofun, ?_⟩
  rintro i trajectory ⟨⟩ ⟨network, version⟩ htarget
  obtain ⟨weight, bias, rfl⟩ := exists_criticWith htarget
  exact Attempt.exists_ok_of_isSome rfl

theorem feeds_actor : Feeds briefPlan.task actorBatches.plan.request actorBatches.build
    briefWorld.supply.target := by
  refine ⟨_, rfl, nofun, ?_⟩
  rintro i trajectory ⟨⟩ ⟨network, version⟩ htarget
  obtain ⟨weight, bias, rfl⟩ := exists_criticWith htarget
  exact Attempt.exists_ok_of_isSome rfl

theorem make_briefSession (e : Evaluations) :
    make (briefPlan.withEvaluations e) linearCritic.make gaussianActor.make briefWorld =
      (.ok (briefSession e).1, (briefSession e).2) := rfl

/-- One evaluation per epoch and role on the one side; on the other, one after every value step and
three steps of evaluation for the policy. -/
theorem evaluations_leave_training_alone_two_epochs :
    let once := briefSession ⟨1, 1, 1, 1⟩
    let often := briefSession ⟨2, 1, 1, 3⟩
    (trainEpoch 1 (.empty 2) (once.afterEpochs (fun _ => .empty 2) 1)).1.toOption =
      some ⟨1, 1, 1, true, 4⟩ ∧
    (trainEpoch 1 (.empty 2) (often.afterEpochs (fun _ => .empty 2) 1)).1.toOption =
      some ⟨1, 2, 1, true, 4⟩ ∧
    TrainedAlike (once.afterEpochs (fun _ => .empty 2) 2)
      (often.afterEpochs (fun _ => .empty 2) 2) := by
  refine ⟨by decide +kernel, by decide +kernel, ?_⟩
  refine evaluations_leave_training_alone briefPlan rfl rfl rfl (make_briefSession _)
    (make_briefSession _) feeds_critic feeds_actor _ 2 ?_ ?_
  · intro k hk
    match k with
    | 0 | 1 => exact Run.returns_of_isSome (by decide +kernel)
  · intro k hk
    match k with
    | 0 | 1 => exact Run.returns_of_isSome (by decide +kernel)

end Sample

end Coordinator
end ActorCritic
