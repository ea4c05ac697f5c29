import Mathlib.Algebra.Order.BigOperators.Ring.List
import Mathlib.Data.Option.NAry
import Mathlib.Tactic.Positivity
import ActorCritic.Proofs.Exact
import ActorCritic.Proofs.Attempt
import ActorCritic.LearningRate

/-!
Learning rates in real numbers. The rate of a multifactor schedule is the product of what its
factors are worth at a step, in any order; what the constructors ask for keeps each of them from
being negative and from dividing by zero. With the default factors the ramp ends where the decay
begins, so the rate has its only peak there.
-/

namespace ActorCritic

/-- A real number, or none where a division by zero or the root of a negative number has come in. -/
def Guarded : Type := Option ℝ

namespace Guarded

def number (x : ℝ) : Guarded := some x

/-- Numbers are compared as usual, and nothing else is. -/
def Related (r : ℝ → ℝ → Prop) (x y : Guarded) : Prop :=
  ∃ a b, x = number a ∧ y = number b ∧ r a b

open Classical in
noncomputable instance : Scalar Guarded where
  zero := number 0
  one := number 1
  add := Option.map₂ (· + ·)
  sub := Option.map₂ (· - ·)
  mul := Option.map₂ (· * ·)
  div x y := Option.bind x fun a => Option.bind y fun b => if b = 0 then none else number (a / b)
  neg := Option.map (- ·)
  lt := Related (· < ·)
  le := Related (· ≤ ·)
  exp := Option.map Real.exp
  sqrt x := Option.bind x fun a => if a < 0 then none else number √a
  ofCount n := number n
  isFinite := Option.isSome
  decidableLT := fun _ _ => inferInstance
  decidableLE := fun _ _ => inferInstance

theorem number_injective : Function.Injective number := Option.some_injective ℝ

theorem related_number {r : ℝ → ℝ → Prop} {a b : ℝ} :
    Related r (number a) (number b) ↔ r a b := by
  constructor
  · rintro ⟨a', b', ha, hb, h⟩
    rwa [number_injective ha, number_injective hb]
  · exact fun h => ⟨a, b, rfl, rfl, h⟩

theorem mul_number (a b : ℝ) : number a * number b = number (a * b) := rfl

theorem div_number (a : ℝ) {b : ℝ} (hb : b ≠ 0) : number a / number b = number (a / b) := if_neg hb

theorem sqrt_number {a : ℝ} (ha : 0 ≤ a) : Scalar.sqrt (number a) = number √a := if_neg ha.not_gt

theorem min_number (a b : ℝ) : Scalar.min (number a) (number b) = number (Scalar.min a b) := by
  unfold Scalar.min
  rw [apply_ite number]
  exact if_congr related_number rfl rfl

theorem max_number (a b : ℝ) : Scalar.max (number a) (number b) = number (Scalar.max a b) := by
  unfold Scalar.max
  rw [apply_ite number]
  exact if_congr related_number rfl rfl

end Guarded

theorem checkedRate_eq_ok {schedule name : String} {rate checked : ℝ} :
    checkedRate schedule name rate = .ok checked ↔ 0 ≤ rate ∧ rate = checked := by
  have hchecked : checkedRate schedule name rate =
      if 0 ≤ rate then .ok rate else .error (.negative schedule name rate) := rfl
  rw [hchecked]
  split
  · next h => simp [h]
  · next h => simp [h]

theorem Scalar.max_eq_max (a b : ℝ) : Scalar.max a b = Max.max a b := (max_def_lt a b).symm

namespace Multifactor

theorem make_eq_ok {constant : ℝ} {warmupSteps : Nat} {m : Multifactor ℝ} :
    make constant warmupSteps = .ok m ↔
      warmupSteps ≠ 0 ∧ 0 ≤ constant ∧ ⟨constant, warmupSteps, defaultFactors⟩ = m := by
  unfold make
  by_cases hwarmup : warmupSteps = 0
  · subst hwarmup
    exact ⟨nofun, fun h => absurd rfl h.1⟩
  · rw [if_neg hwarmup]
    refine Attempt.bind_eq_ok.trans ?_
    simp only [checkedRate_eq_ok, Attempt.pure_eq_ok]
    constructor
    · rintro ⟨_, ⟨hconstant, rfl⟩, hm⟩
      exact ⟨hwarmup, hconstant, hm⟩
    · rintro ⟨-, hconstant, hm⟩
      exact ⟨constant, ⟨hconstant, rfl⟩, hm⟩

/-- The schedules that there are before other factors are chosen. -/
inductive Made : Multifactor ℝ → Prop where
  | standard : Made standard
  | make {constant : ℝ} {warmupSteps : Nat} {m : Multifactor ℝ}
      (h : make constant warmupSteps = .ok m) : Made m

theorem Made.admitted {m : Multifactor ℝ} (h : m.Made) : 0 ≤ m.constant ∧ 0 < m.warmupSteps := by
  cases h with
  | standard =>
      have htenth : (0 : ℝ) ≤ (1 : ℕ) / (10 : ℕ) := by positivity
      exact ⟨htenth, by decide⟩
  | make h =>
      obtain ⟨hwarmup, hconstant, rfl⟩ := make_eq_ok.1 h
      exact ⟨hconstant, Nat.pos_of_ne_zero hwarmup⟩

/-- What a factor is worth at a step. -/
noncomputable def worth (m : Multifactor ℝ) (step : Nat) : RateFactor → ℝ
  | .constant => m.constant
  | .warmup => min (step / m.warmupSteps : ℝ) 1
  | .rsqrtDecay => (√(max step m.warmupSteps))⁻¹

theorem apply_eq (m : Multifactor ℝ) (step : Nat) (rate : ℝ) (factor : RateFactor) :
    m.apply step rate factor = rate * m.worth step factor := by
  cases factor with
  | constant => rfl
  | warmup => exact congrArg (rate * ·) (Scalar.min_eq_min _ _)
  | rsqrtDecay =>
      rw [worth, ← div_eq_mul_inv, ← Scalar.max_eq_max]
      rfl

theorem foldl_apply (m : Multifactor ℝ) (step : Nat) (factors : List RateFactor) (rate : ℝ) :
    factors.foldl (m.apply step) rate = rate * (factors.map (m.worth step)).prod := by
  induction factors generalizing rate with
  | nil => simp
  | cons factor factors ih =>
      rw [List.foldl_cons, ih, apply_eq, List.map_cons, List.prod_cons, mul_assoc]

section Admitted

variable {m : Multifactor ℝ} (hconstant : 0 ≤ m.constant) (hwarmup : 0 < m.warmupSteps)
include hconstant hwarmup

theorem worth_nonneg (step : Nat) (factor : RateFactor) : 0 ≤ m.worth step factor := by
  cases factor with
  | constant => exact hconstant
  | warmup => exact le_min (by positivity) zero_le_one
  | rsqrtDecay => exact inv_nonneg.2 (Real.sqrt_nonneg _)

theorem prod_worth_nonneg (step : Nat) : 0 ≤ (m.factors.map (m.worth step)).prod := by
  refine List.prod_nonneg fun x hx => ?_
  obtain ⟨factor, -, rfl⟩ := List.mem_map.1 hx
  exact worth_nonneg hconstant hwarmup step factor

/-- No product of the factors has to be taken for zero. -/
theorem rate_eq_prod (step : Nat) : m.rate step = (m.factors.map (m.worth step)).prod := by
  have hproduct : m.factors.foldl (m.apply step) 1 = (m.factors.map (m.worth step)).prod :=
    (m.foldl_apply step m.factors 1).trans (one_mul _)
  unfold rate
  rw [hproduct]
  exact if_pos ⟨rfl, prod_worth_nonneg hconstant hwarmup step⟩

theorem rate_nonneg (step : Nat) : 0 ≤ m.rate step := by
  rw [rate_eq_prod hconstant hwarmup]
  exact prod_worth_nonneg hconstant hwarmup step

end Admitted

/-- The schedule with its divisions and roots guarded. -/
def guarded (m : Multifactor ℝ) : Multifactor Guarded :=
  ⟨.number m.constant, m.warmupSteps, m.factors⟩

/-- A factor divides by a positive number, if by any. -/
theorem apply_guarded {m : Multifactor ℝ} (hwarmup : 0 < m.warmupSteps) (step : Nat) (rate : ℝ)
    (factor : RateFactor) :
    m.guarded.apply step (.number rate) factor = .number (m.apply step rate factor) := by
  have hpositive : (0 : ℝ) < m.warmupSteps := Nat.cast_pos.2 hwarmup
  have hmax : 0 < Scalar.max (step : ℝ) m.warmupSteps := by
    rw [Scalar.max_eq_max]
    exact lt_max_of_lt_right hpositive
  cases factor with
  | constant => rfl
  | warmup =>
      change Guarded.number rate * Scalar.min (.number step / .number m.warmupSteps) (.number 1) = _
      rw [Guarded.div_number _ hpositive.ne', Guarded.min_number, Guarded.mul_number]
      rfl
  | rsqrtDecay =>
      change Guarded.number rate / Scalar.sqrt (Scalar.max (.number step) (.number m.warmupSteps)) =
        _
      rw [Guarded.max_number, Guarded.sqrt_number hmax.le,
        Guarded.div_number _ (Real.sqrt_pos.2 hmax).ne']
      rfl

theorem foldl_apply_guarded {m : Multifactor ℝ} (hwarmup : 0 < m.warmupSteps) (step : Nat)
    (factors : List RateFactor) (rate : ℝ) :
    factors.foldl (m.guarded.apply step) (.number rate) =
      .number (factors.foldl (m.apply step) rate) := by
  induction factors generalizing rate with
  | nil => rfl
  | cons factor factors ih => rw [List.foldl_cons, List.foldl_cons, apply_guarded hwarmup, ih]

section Default

variable {constant : ℝ} {warmupSteps step : Nat}

/-- The schedule with the default factors. -/
def ofDefaults (constant : ℝ) (warmupSteps : Nat) : Multifactor ℝ :=
  ⟨constant, warmupSteps, defaultFactors⟩

variable (hconstant : 0 < constant) (hwarmup : 0 < warmupSteps)
include hconstant hwarmup

theorem rate_ofDefaults (step : Nat) :
    (ofDefaults constant warmupSteps).rate step =
      constant * min (step / warmupSteps : ℝ) 1 / √(max step warmupSteps) := by
  rw [rate_eq_prod (m := ofDefaults constant warmupSteps) hconstant.le hwarmup]
  simp only [ofDefaults, defaultFactors, List.map_cons, List.map_nil, List.prod_cons,
    List.prod_nil, worth, mul_one, div_eq_mul_inv, mul_assoc]

theorem rate_of_le (hstep : step ≤ warmupSteps) :
    (ofDefaults constant warmupSteps).rate step =
      constant * (step / warmupSteps) / √warmupSteps := by
  have hle : (step : ℝ) ≤ warmupSteps := Nat.cast_le.2 hstep
  rw [rate_ofDefaults hconstant hwarmup, max_eq_right hle,
    min_eq_left ((div_le_one (Nat.cast_pos.2 hwarmup)).2 hle)]

theorem rate_of_ge (hstep : warmupSteps ≤ step) :
    (ofDefaults constant warmupSteps).rate step = constant / √step := by
  have hle : (warmupSteps : ℝ) ≤ step := Nat.cast_le.2 hstep
  rw [rate_ofDefaults hconstant hwarmup, max_eq_left hle,
    min_eq_right ((one_le_div (Nat.cast_pos.2 hwarmup)).2 hle), mul_one]

theorem rate_strictMonoOn :
    StrictMonoOn (ofDefaults constant warmupSteps).rate (Set.Iic warmupSteps) := by
  intro i hi j hj hij
  have hpositive : (0 : ℝ) < warmupSteps := Nat.cast_pos.2 hwarmup
  have hlt : (i : ℝ) < j := Nat.cast_lt.2 hij
  rw [rate_of_le hconstant hwarmup hi, rate_of_le hconstant hwarmup hj]
  gcongr

theorem rate_strictAntiOn :
    StrictAntiOn (ofDefaults constant warmupSteps).rate (Set.Ici warmupSteps) := by
  intro i hi j hj hij
  have hpositive : (0 : ℝ) < i := Nat.cast_pos.2 (Nat.lt_of_lt_of_le hwarmup hi)
  have hlt : (i : ℝ) < j := Nat.cast_lt.2 hij
  rw [rate_of_ge hconstant hwarmup hi, rate_of_ge hconstant hwarmup hj]
  gcongr

end Default

/-- The rate grows from zero up to its peak at the end of the warmup and falls after it. -/
structure PeaksAt (rate : Nat → ℝ) (warmupSteps : Nat) (peak : ℝ) : Prop where
  start : rate 0 = 0
  rises : StrictMonoOn rate (Set.Iic warmupSteps)
  top : rate warmupSteps = peak
  falls : StrictAntiOn rate (Set.Ici warmupSteps)
  within : ∀ step, rate step ∈ Set.Icc 0 peak

theorem peaksAt_ofDefaults {constant : ℝ} {warmupSteps : Nat} (hconstant : 0 < constant)
    (hwarmup : 0 < warmupSteps) :
    PeaksAt (ofDefaults constant warmupSteps).rate warmupSteps (constant / √warmupSteps) := by
  have htop := rate_of_ge hconstant hwarmup (Nat.le_refl warmupSteps)
  have hrises := rate_strictMonoOn hconstant hwarmup
  have hfalls := rate_strictAntiOn hconstant hwarmup
  refine ⟨?_, hrises, htop, hfalls, fun step => ⟨?_, ?_⟩⟩
  · rw [rate_of_le hconstant hwarmup (Nat.zero_le warmupSteps)]
    simp
  · exact rate_nonneg (m := ofDefaults constant warmupSteps) hconstant.le hwarmup step
  · rw [← htop]
    obtain hstep | hstep := Nat.le_total step warmupSteps
    · exact hrises.monotoneOn hstep Set.self_mem_Iic hstep
    · exact hfalls.antitoneOn Set.self_mem_Ici hstep hstep

end Multifactor

namespace LearningRate

theorem makeLinear_eq_ok {first last : ℝ} {steps : Nat} {schedule : LearningRate ℝ} :
    makeLinear first last steps = .ok schedule ↔
      steps ≠ 0 ∧ 0 ≤ first ∧ 0 ≤ last ∧ linear first last steps = schedule := by
  unfold makeLinear
  by_cases hsteps : steps = 0
  · subst hsteps
    exact ⟨nofun, fun h => absurd rfl h.1⟩
  · rw [if_neg hsteps]
    refine Attempt.bind_eq_ok.trans ?_
    simp only [Attempt.bind_eq_ok, checkedRate_eq_ok, Attempt.pure_eq_ok]
    constructor
    · rintro ⟨_, ⟨hfirst, rfl⟩, _, ⟨hlast, rfl⟩, hschedule⟩
      exact ⟨hsteps, hfirst, hlast, hschedule⟩
    · rintro ⟨-, hfirst, hlast, hschedule⟩
      exact ⟨first, ⟨hfirst, rfl⟩, last, ⟨hlast, rfl⟩, hschedule⟩

/-- The rate goes from the first one to the last one, which it holds from the given step on, and
does not turn back on the way. -/
structure MovesTo (rate : Nat → ℝ) (first last : ℝ) (steps : Nat) : Prop where
  start : rate 0 = first
  held : ∀ step, steps ≤ step → rate step = last
  rises : first ≤ last → Monotone rate
  falls : last ≤ first → Antitone rate
  within : ∀ step, rate step ∈ Set.Icc (min first last) (max first last)

/-- The part of the way that is done at a step. -/
noncomputable def progress (steps step : Nat) : ℝ := min (step / steps : ℝ) 1

theorem rate_linear (first last : ℝ) (steps step : Nat) :
    (linear first last steps).rate step = first + (last - first) * progress steps step :=
  congrArg (fun x => first + (last - first) * x) (Scalar.min_eq_min _ _)

theorem progress_monotone (steps : Nat) : Monotone (progress steps) := by
  intro i j hij
  have hle : (i : ℝ) ≤ j := Nat.cast_le.2 hij
  unfold progress
  gcongr

theorem progress_of_le {steps step : Nat} (hsteps : 0 < steps) (hstep : steps ≤ step) :
    progress steps step = 1 :=
  min_eq_right ((one_le_div (Nat.cast_pos.2 hsteps)).2 (Nat.cast_le.2 hstep))

theorem movesTo_linear (first last : ℝ) {steps : Nat} (hsteps : 0 < steps) :
    MovesTo (linear first last steps).rate first last steps := by
  have hstart : (linear first last steps).rate 0 = first := by
    simp [rate_linear, progress]
  have hheld : ∀ step, steps ≤ step → (linear first last steps).rate step = last := by
    intro step hstep
    rw [rate_linear, progress_of_le hsteps hstep]
    ring
  have hrises : first ≤ last → Monotone (linear first last steps).rate := by
    intro hle i j hij
    rw [rate_linear, rate_linear]
    exact add_le_add_right
      (mul_le_mul_of_nonneg_left (progress_monotone steps hij) (sub_nonneg.2 hle)) first
  have hfalls : last ≤ first → Antitone (linear first last steps).rate := by
    intro hle i j hij
    rw [rate_linear, rate_linear]
    exact add_le_add_right
      (mul_le_mul_of_nonpos_left (progress_monotone steps hij) (sub_nonpos.2 hle)) first
  refine ⟨hstart, hheld, hrises, hfalls, fun step => ?_⟩
  -- Every step lies between the first one and one at which the last rate is held.
  have hlate := hheld (max step steps) (Nat.le_max_right step steps)
  obtain hle | hle := le_total first last
  · rw [min_eq_left hle, max_eq_right hle]
    exact ⟨hstart.ge.trans (hrises hle (Nat.zero_le step)),
      (hrises hle (Nat.le_max_left step steps)).trans hlate.le⟩
  · rw [min_eq_right hle, max_eq_left hle]
    exact ⟨hlate.ge.trans (hfalls hle (Nat.le_max_left step steps)),
      (hfalls hle (Nat.zero_le step)).trans hstart.le⟩

/-- Every schedule that the constructors give has the rates that its settings promise. With the
default factors they have their only peak at the end of the warmup. With others they are products
in which nothing is divided by zero and whose order does not matter. Linear ones move from the
first rate to the last. -/
theorem rates_stay_in_envelopes :
    (∀ (constant : ℝ) (warmupSteps : Nat), 0 < constant → 1 ≤ warmupSteps →
      ∃ m, Multifactor.make constant warmupSteps = .ok m ∧
        Multifactor.PeaksAt (multifactor m).rate warmupSteps (constant / √warmupSteps)) ∧
    (∀ m : Multifactor ℝ, m.Made → ∀ (factors : List RateFactor) (step : Nat),
      0 ≤ (multifactor { m with factors := factors }).rate step ∧
      factors.foldl (m.guarded.apply step) 1 =
        .number ((multifactor { m with factors := factors }).rate step) ∧
      ∀ factors', factors.Perm factors' →
        (multifactor { m with factors := factors' }).rate step =
          (multifactor { m with factors := factors }).rate step) ∧
    ∀ (first last : ℝ) (steps : Nat), 0 ≤ first → 0 ≤ last → 1 ≤ steps →
      ∃ schedule, makeLinear first last steps = .ok schedule ∧
        MovesTo schedule.rate first last steps := by
  refine ⟨fun constant warmupSteps hconstant hwarmup => ?_, fun m hm factors step => ?_,
    fun first last steps hfirst hlast hsteps => ?_⟩
  · exact ⟨_, Multifactor.make_eq_ok.2 ⟨Nat.ne_of_gt hwarmup, hconstant.le, rfl⟩,
      Multifactor.peaksAt_ofDefaults hconstant hwarmup⟩
  · obtain ⟨hconstant, hwarmup⟩ := hm.admitted
    have hrate (factors : List RateFactor) :
        (multifactor { m with factors := factors }).rate step =
          (factors.map (m.worth step)).prod :=
      Multifactor.rate_eq_prod (m := { m with factors := factors }) hconstant hwarmup step
    refine ⟨?_, ?_, fun factors' hperm => ?_⟩
    · exact Multifactor.rate_nonneg (m := { m with factors := factors }) hconstant hwarmup step
    · refine (Multifactor.foldl_apply_guarded hwarmup step factors 1).trans ?_
      rw [hrate, Multifactor.foldl_apply, one_mul]
    · rw [hrate, hrate]
      exact (hperm.map _).prod_eq.symm
  · exact ⟨_, makeLinear_eq_ok.2 ⟨Nat.ne_of_gt hsteps, hfirst, hlast, rfl⟩,
      movesTo_linear first last hsteps⟩

namespace Sample

/-- The factors turned round, with the ramp once more. -/
def factors : List RateFactor := [.rsqrtDecay, .warmup, .constant, .warmup]

end Sample

/-- A tenth with a warmup of four hundred steps, the standard schedule with other factors, and a
rate that falls from one to zero in a hundred steps. -/
theorem rates_stay_in_envelopes_tenth :
    ((0 : ℝ) < 1 / 10 ∧ 1 ≤ 400) ∧
    (∃ m, Multifactor.make (1 / 10 : ℝ) 400 = .ok m ∧ (multifactor m).rate 0 = 0 ∧
      (multifactor m).rate 400 = 1 / 10 / √(400 : ℕ) ∧
      (multifactor m).rate 401 < (multifactor m).rate 400) ∧
    Multifactor.standard.Made ∧
    Sample.factors.foldl (Multifactor.standard.guarded.apply 0) 1 =
      .number ((multifactor { Multifactor.standard with factors := Sample.factors }).rate 0) ∧
    ∃ schedule : LearningRate ℝ, makeLinear 1 0 100 = .ok schedule ∧
      Antitone schedule.rate ∧ schedule.rate 1000 = 0 := by
  obtain ⟨hdefault, hfactors, hlinear⟩ := rates_stay_in_envelopes
  have hpositive : (0 : ℝ) < 1 / 10 := by norm_num
  obtain ⟨m, hmake, hpeaks⟩ := hdefault (1 / 10) 400 hpositive (by decide)
  obtain ⟨schedule, hschedule, hmoves⟩ := hlinear 1 0 100 zero_le_one le_rfl (by decide)
  refine ⟨⟨hpositive, by decide⟩, ⟨m, hmake, hpeaks.start, hpeaks.top, ?_⟩, .standard, ?_,
    schedule, hschedule, hmoves.falls zero_le_one, hmoves.held 1000 (by decide)⟩
  · exact hpeaks.falls Set.self_mem_Ici (by decide) (by decide)
  · exact (hfactors _ .standard _ 0).2.1

end LearningRate
end ActorCritic
