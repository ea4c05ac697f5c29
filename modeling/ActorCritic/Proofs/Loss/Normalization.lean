import Mathlib.Algebra.BigOperators.Ring.List
import Mathlib.Tactic.FieldSimp
import ActorCritic.Proofs.Exact
import ActorCritic.Proofs.Grid
import ActorCritic.Score

/-!
Normalized advantages, in real numbers. Normalization moves and scales all entries by the same two
amounts, and their average and deviation move and scale along. Nothing is left of the average, and
a constant that is added to all advantages is gone. The report, which is about the advantages as
they were, shows it, and the loss does not.
-/

namespace ActorCritic

/-- The arithmetic mean. -/
noncomputable def average (xs : List ℝ) : ℝ := xs.sum / xs.length

/-- The square root of the average squared distance from the average. -/
noncomputable def deviation (xs : List ℝ) : ℝ := √(average (xs.map fun x => (x - average xs) ^ 2))

theorem deviation_nonneg (xs : List ℝ) : 0 ≤ deviation xs := Real.sqrt_nonneg _

theorem average_replicate {n : Nat} (hn : n ≠ 0) (x : ℝ) : average (List.replicate n x) = x := by
  have hcount : (n : ℝ) ≠ 0 := Nat.cast_ne_zero.2 hn
  rw [average, List.sum_replicate, List.length_replicate, nsmul_eq_mul]
  exact mul_div_cancel_left₀ x hcount

section Affine

variable {xs : List ℝ} (h : xs ≠ [])
include h

theorem average_map_mul_add (a b : ℝ) :
    average (xs.map fun x => a * x + b) = a * average xs + b := by
  have hlength : (xs.length : ℝ) ≠ 0 := by simpa using h
  rw [average, average, List.length_map, List.sum_map_add, List.sum_map_mul_left, List.map_const',
    List.sum_replicate, List.map_id', nsmul_eq_mul]
  field_simp

theorem deviation_map_mul_add (a b : ℝ) :
    deviation (xs.map fun x => a * x + b) = |a| * deviation xs := by
  have hsquares : (xs.map fun x => a * x + b).map
        (fun y => (y - average (xs.map fun x => a * x + b)) ^ 2) =
      (xs.map fun x => (x - average xs) ^ 2).map fun y => a ^ 2 * y + 0 := by
    rw [average_map_mul_add h, List.map_map, List.map_map]
    refine List.map_congr_left fun x _ => ?_
    simp only [Function.comp_apply]
    ring
  have hmap : xs.map (fun x => (x - average xs) ^ 2) ≠ [] := by simpa using h
  rw [deviation, hsquares, average_map_mul_add hmap, add_zero, Real.sqrt_mul (sq_nonneg a),
    Real.sqrt_sq_eq_abs]
  rfl

theorem average_map_add (c : ℝ) : average (xs.map (· + c)) = average xs + c := by
  simpa only [one_mul] using average_map_mul_add h 1 c

theorem deviation_map_add (c : ℝ) : deviation (xs.map (· + c)) = deviation xs := by
  simpa only [one_mul, abs_one] using deviation_map_mul_add h 1 c

end Affine

namespace StepMatrix

variable (m : StepMatrix ℝ)

theorem mean_eq_average : m.mean = average m.entries := by
  unfold mean
  split
  · next hempty => simp [average, List.isEmpty_iff.1 hempty]
  · rw [Scalar.sum_eq_sum]
    rfl

theorem std_eq_deviation : m.std = deviation m.entries := by
  unfold std
  split
  · next hempty => simp [deviation, average, List.isEmpty_iff.1 hempty]
  · simp only [Scalar.sum_eq_sum, mean_eq_average, deviation, average, List.length_map, pow_two]
    rfl

/-- An entry is scaled, and moved by a part of the average. -/
theorem normalize_eq_map (epsilon : ℝ) : m.normalize epsilon = m.map fun x =>
    (deviation m.entries + epsilon)⁻¹ * x +
      -((deviation m.entries + epsilon)⁻¹ * average m.entries) := by
  rw [normalize, mean_eq_average, std_eq_deviation]
  refine congrArg m.map (funext fun x => ?_)
  ring

theorem normalize_fill (rows cols : Nat) (x epsilon : ℝ) :
    (fill rows cols x).normalize epsilon = fill rows cols 0 := by
  refine eq_of_entries rfl ?_
  rw [normalize, mean_eq_average]
  change (List.replicate (rows * cols) x).map _ = List.replicate (rows * cols) 0
  rw [List.map_replicate]
  by_cases hempty : rows * cols = 0
  · rw [hempty]
    rfl
  · rw [fill, average_replicate hempty, sub_self, zero_div]

theorem normalize_map_add (c epsilon : ℝ) :
    (m.map (· + c)).normalize epsilon = m.normalize epsilon := by
  refine eq_of_entries rfl ?_
  by_cases hempty : m.entries = []
  · simp only [normalize, map, hempty, List.map_nil]
  · have haverage : (m.map (· + c)).mean = m.mean + c := by
      rw [mean_eq_average, mean_eq_average]
      exact average_map_add hempty c
    have hdeviation : (m.map (· + c)).std = m.std := by
      rw [std_eq_deviation, std_eq_deviation]
      exact deviation_map_add hempty c
    rw [normalize, normalize, haverage, hdeviation]
    simp only [map, List.map_map, Function.comp_def, add_sub_add_right_eq_sub]

/-- The matrix that has the entries of another in their order, with nothing left of the average and
the deviation one but for a small number. -/
structure Standardized (m n : StepMatrix ℝ) (epsilon : ℝ) : Prop where
  extent_eq : n.extent = m.extent
  average_eq : average n.entries = 0
  deviation_eq : deviation n.entries = deviation m.entries / (deviation m.entries + epsilon)
  lt_iff : ∀ {row step row' step'}, row < m.rows → step < m.cols → row' < m.rows →
    step' < m.cols → (n.entry row step < n.entry row' step' ↔ m.entry row step < m.entry row' step')

theorem standardized_normalize {m : StepMatrix ℝ} (hentries : m.entries ≠ []) {epsilon : ℝ}
    (hepsilon : 0 < epsilon) : m.Standardized (m.normalize epsilon) epsilon := by
  have hpos : 0 < deviation m.entries + epsilon :=
    add_pos_of_nonneg_of_pos (deviation_nonneg m.entries) hepsilon
  rw [normalize_eq_map]
  refine ⟨rfl, ?_, ?_, ?_⟩
  · exact (average_map_mul_add hentries _ _).trans (add_neg_cancel _)
  · refine (deviation_map_mul_add hentries _ _).trans ?_
    rw [abs_of_pos (inv_pos.2 hpos), inv_mul_eq_div]
  · intro row step row' step' hrow hstep hrow' hstep'
    rw [entry_map m _ hrow hstep, entry_map m _ hrow' hstep', add_lt_add_iff_right]
    exact mul_lt_mul_iff_right₀ (inv_pos.2 hpos)

end StepMatrix

/-- The batch with a constant added to all of its advantages. -/
def PolicyBatch.raise (batch : PolicyBatch ℝ) (c : ℝ) : PolicyBatch ℝ :=
  { batch with advantages := batch.advantages.map (· + c) }

namespace Score

/-- The report is about the advantages as they are in the batch. -/
theorem metrics_of_policy {algorithm : Algorithm ℝ} {network : PolicyNetwork ℝ}
    {batch : PolicyBatch ℝ} {score : Score ℝ} (h : policy algorithm network batch = .ok score) :
    score.metrics = algorithm.metrics batch.advantages := by
  obtain ⟨traced, -, h⟩ := Attempt.bind_eq_ok.1 h
  obtain ⟨loss, -, h⟩ := Attempt.bind_eq_ok.1 h
  cases Attempt.pure_eq_ok.1 h
  rfl

variable {algorithm : Algorithm ℝ} (hnormalization : algorithm.advantages.normalization = true)
include hnormalization

theorem effectiveAdvantages_map_add (advantages : StepMatrix ℝ) (c : ℝ) :
    effectiveAdvantages algorithm (advantages.map (· + c)) =
      effectiveAdvantages algorithm advantages := by
  have hepsilon : algorithm.normalizationEpsilon = some algorithm.advantages.epsilon :=
    if_pos hnormalization
  simp only [effectiveAdvantages, hepsilon]
  exact advantages.normalize_map_add c _

/-- A constant added to all advantages is seen in the report alone. -/
theorem policy_raise (network : PolicyNetwork ℝ) (batch : PolicyBatch ℝ) (c : ℝ) :
    policy algorithm network (batch.raise c) =
      (fun score => { score with metrics := algorithm.metrics (batch.raise c).advantages }) <$>
        policy algorithm network batch := by
  have hadvantages : effectiveAdvantages algorithm (batch.raise c).advantages =
      effectiveAdvantages algorithm batch.advantages :=
    effectiveAdvantages_map_add hnormalization batch.advantages c
  simp only [policy, hadvantages, map_bind, map_pure]
  rfl

end Score

theorem Algorithm.advantage_mean_metrics (algorithm : Algorithm ℝ) (advantages : StepMatrix ℝ) :
    (algorithm.metrics advantages).get? "advantage_mean" = some (average advantages.entries) := by
  rw [← advantages.mean_eq_average]
  rfl

/-- Normalization leaves no average and almost a deviation of one, and keeps the order of the
entries. It takes away a constant that is added to all of them, so with normalization no such
constant changes a loss, though it is reported. -/
theorem normalization_standardizes_advantages :
    (∀ (m : StepMatrix ℝ) (epsilon : ℝ), m.entries ≠ [] → 0 < epsilon →
      m.Standardized (m.normalize epsilon) epsilon ∧
      (∀ x, m = .fill m.rows m.cols x → m.normalize epsilon = .fill m.rows m.cols 0) ∧
      ∀ c, (m.map (· + c)).normalize epsilon = m.normalize epsilon) ∧
    ∀ (algorithm : Algorithm ℝ) (network : PolicyNetwork ℝ) (batch : PolicyBatch ℝ) (c : ℝ),
      algorithm.advantages.normalization = true →
      (∀ abort, Score.policy algorithm network batch = .error abort →
        Score.policy algorithm network (batch.raise c) = .error abort) ∧
      ∀ score, Score.policy algorithm network batch = .ok score →
        ∃ raised, Score.policy algorithm network (batch.raise c) = .ok raised ∧
          raised.loss = score.loss ∧ raised.gradients = score.gradients ∧
          (batch.advantages.entries ≠ [] →
            score.metrics.get? "advantage_mean" = some (average batch.advantages.entries) ∧
            raised.metrics.get? "advantage_mean" =
              some (average batch.advantages.entries + c)) := by
  refine ⟨fun m epsilon hentries hepsilon => ⟨?_, ?_, ?_⟩, ?_⟩
  · exact StepMatrix.standardized_normalize hentries hepsilon
  · intro x hconstant
    rw [hconstant]
    exact StepMatrix.normalize_fill m.rows m.cols x epsilon
  · intro c
    exact m.normalize_map_add c epsilon
  · intro algorithm network batch c hnormalization
    rw [Score.policy_raise hnormalization]
    refine ⟨fun abort habort => by rw [habort]; rfl, fun score hscore => ?_⟩
    rw [hscore]
    refine ⟨_, rfl, rfl, rfl, fun hentries => ?_⟩
    rw [Score.metrics_of_policy hscore, Algorithm.advantage_mean_metrics,
      Algorithm.advantage_mean_metrics, ← average_map_add hentries c]
    exact ⟨rfl, rfl⟩

/-- A policy for which every action of a slice of two steps has one log-probability. -/
def evenPolicy : PolicyNetwork ℝ :=
  ⟨[], [], fun _ _ => .ok ⟨.fill 1 2 0, fun _ => .ok []⟩⟩

def twoAdvantages : PolicyBatch ℝ where
  observations := .fill 1 2 1 0
  actions := .fill 1 2 1 0
  advantages := ⟨1, 2, [1, 3], rfl⟩
  oldLogProbs := .fill 1 2 0
  mask := .fill 1 2 1

/-- The deviation of one is halved with one added to it, and advantages of ten more give the same
loss. -/
theorem normalization_standardizes_advantages_two_steps :
    let algorithm : Algorithm ℝ := ⟨.a2c, Estimator.gae 1, true, 1⟩
    twoAdvantages.advantages.entries ≠ [] ∧ (0 : ℝ) < 1 ∧
    algorithm.advantages.normalization = true ∧
    average (twoAdvantages.advantages.normalize 1).entries = 0 ∧
    deviation (twoAdvantages.advantages.normalize 1).entries = 1 / 2 ∧
    ∃ score raised, Score.policy algorithm evenPolicy twoAdvantages = .ok score ∧
      Score.policy algorithm evenPolicy (twoAdvantages.raise 10) = .ok raised ∧
      raised.loss = score.loss ∧ score.metrics.get? "advantage_mean" = some 2 ∧
      raised.metrics.get? "advantage_mean" = some 12 := by
  intro algorithm
  have hentries : twoAdvantages.advantages.entries ≠ [] := List.cons_ne_nil _ _
  have haverage : average twoAdvantages.advantages.entries = 2 := by
    norm_num [average, twoAdvantages]
  have hdeviation : deviation twoAdvantages.advantages.entries = 1 := by
    norm_num [deviation, average, twoAdvantages]
  obtain ⟨hmatrix, hscore⟩ := normalization_standardizes_advantages
  obtain ⟨hstandardized, -, -⟩ := hmatrix twoAdvantages.advantages 1 hentries one_pos
  obtain ⟨score, hpolicy⟩ : ∃ score, Score.policy algorithm evenPolicy twoAdvantages = .ok score :=
    ⟨_, rfl⟩
  obtain ⟨raised, hraised, hloss, -, hmean⟩ :=
    (hscore algorithm evenPolicy twoAdvantages 10 rfl).2 score hpolicy
  obtain ⟨hbefore, hafter⟩ := hmean hentries
  refine ⟨hentries, one_pos, rfl, hstandardized.average_eq, ?_, score, raised, hpolicy, hraised,
    hloss, ?_, ?_⟩
  · rw [hstandardized.deviation_eq, hdeviation]
    norm_num
  · rw [hbefore, haverage]
  · rw [hafter, haverage]
    norm_num

end ActorCritic
