import Mathlib
import ActorCritic.Proofs.Exact
import ActorCritic.Loss

/-!
The clipped surrogate of one step in exact numbers. It is never more than the plain surrogate, and
equal to it within the trust region. Its gradient is that of the plain surrogate, unless that would
take the ratio further out of the trust region. For real numbers this is the derivative, except
where the log ratio meets a bound or the ratio an edge of the trust region.
-/

namespace ActorCritic
namespace Loss

variable {α : Type} [ExactScalar α]

/-- The ratio of the probabilities of an action, from that of their logarithms held to within
twenty of zero. -/
def importanceRatio (logRatio : α) : α := Scalar.exp (max (-20) (min 20 logRatio))

/-- Where the advantage would take the ratio further out of the trust region. -/
def LeavesRegion (epsilon ratio advantage : α) : Prop :=
  (0 < advantage ∧ 1 + epsilon < ratio) ∨ (advantage < 0 ∧ ratio < 1 - epsilon)

theorem maxLogRatio_eq : (maxLogRatio : α) = 20 := Nat.cast_ofNat

theorem exp_clamp_eq (logRatio : α) :
    Scalar.exp (Scalar.clamp (-maxLogRatio) maxLogRatio logRatio) = importanceRatio logRatio := by
  rw [Scalar.clamp_eq_max_min, maxLogRatio_eq, importanceRatio]

theorem importanceRatio_pos (logRatio : α) : 0 < importanceRatio logRatio := ExactScalar.exp_pos _

theorem importanceRatio_zero : importanceRatio (0 : α) = 1 := by
  have hclamp : max (-20) (min 20 (0 : α)) = 0 := by
    rw [min_eq_right (by norm_num), max_eq_right (by norm_num)]
  rw [importanceRatio, hclamp]
  exact ExactScalar.exp_zero

section Surrogate

variable {epsilon logRatio advantage : α}

theorem surrogate_eq_min (epsilon logRatio advantage : α) :
    surrogate epsilon logRatio advantage =
      min (importanceRatio logRatio * advantage)
        (max (1 - epsilon) (min (1 + epsilon) (importanceRatio logRatio)) * advantage) := by
  simp only [surrogate, exp_clamp_eq]
  rw [Scalar.min_eq_min, Scalar.clamp_eq_max_min]

theorem surrogate_le :
    surrogate epsilon logRatio advantage ≤ importanceRatio logRatio * advantage := by
  rw [surrogate_eq_min]
  exact min_le_left _ _

/-- Clipping makes a term smaller only where its ratio leaves the trust region. -/
theorem clip_mul_lt_iff (hepsilon : 0 ≤ epsilon) (ratio advantage : α) :
    max (1 - epsilon) (min (1 + epsilon) ratio) * advantage < ratio * advantage ↔
      LeavesRegion epsilon ratio advantage := by
  obtain hneg | rfl | hpos := lt_trichotomy advantage 0
  · rw [mul_lt_mul_right_of_neg hneg, lt_max_iff, lt_min_iff]
    simp [LeavesRegion, hneg, hneg.not_gt]
  · simp [LeavesRegion]
  · rw [mul_lt_mul_iff_left₀ hpos, max_lt_iff, min_lt_iff]
    have hwider : 1 + epsilon < ratio → 1 - epsilon < ratio := fun h => by linarith
    simpa [LeavesRegion, hpos, hpos.not_gt] using hwider

theorem surrogate_of_not_leavesRegion (hepsilon : 0 ≤ epsilon)
    (h : ¬ LeavesRegion epsilon (importanceRatio logRatio) advantage) :
    surrogate epsilon logRatio advantage = importanceRatio logRatio * advantage := by
  rw [surrogate_eq_min]
  exact min_eq_left (not_lt.1 (mt (clip_mul_lt_iff hepsilon _ _).1 h))

theorem not_leavesRegion_of_mem {ratio : α} (hlow : 1 - epsilon ≤ ratio)
    (hhigh : ratio ≤ 1 + epsilon) : ¬ LeavesRegion epsilon ratio advantage := by
  rintro (⟨-, hout⟩ | ⟨-, hout⟩)
  · exact hout.not_ge hhigh
  · exact hout.not_ge hlow

theorem clampGradient_zero (lo hi x : α) : clampGradient lo hi x 0 = 0 := ite_self 0

open Classical in
/-- The gradient comes through the plain side of the minimum or not at all. -/
theorem surrogateGradient_eq (hepsilon : 0 ≤ epsilon) (logRatio advantage gradient : α) :
    surrogateGradient epsilon logRatio advantage gradient =
      if logRatio < -20 ∨ 20 < logRatio ∨
          LeavesRegion epsilon (importanceRatio logRatio) advantage then 0
      else gradient * advantage * importanceRatio logRatio := by
  have hsecond := clip_mul_lt_iff hepsilon (importanceRatio logRatio) advantage
  simp only [surrogateGradient, exp_clamp_eq]
  rw [Scalar.clamp_eq_max_min, maxLogRatio_eq]
  by_cases hleaves : LeavesRegion epsilon (importanceRatio logRatio) advantage
  · -- The clipped side is smaller, and the ratio is outside of the bounds that clip it.
    have houtside : importanceRatio logRatio < 1 - epsilon ∨
        1 + epsilon < importanceRatio logRatio := hleaves.symm.imp And.right And.right
    have hclipped : clampGradient (1 - epsilon) (1 + epsilon) (importanceRatio logRatio)
        (gradient * advantage) = 0 := if_pos houtside
    rw [decide_eq_true (hsecond.2 hleaves)]
    simp [hclipped, hleaves, clampGradient_zero]
  · rw [decide_eq_false (mt hsecond.1 hleaves)]
    simp [clampGradient, hleaves]

/-- What a step of the given weight adds to the gradient, and when that is nothing. -/
theorem weighted_surrogateGradient (hepsilon : 0 ≤ epsilon) {total : α} (htotal : 0 < total)
    (logRatio advantage weight : α) :
    (surrogateGradient epsilon logRatio advantage (-1 / total * weight) =
        -(weight * advantage * importanceRatio logRatio) / total ∨
      surrogateGradient epsilon logRatio advantage (-1 / total * weight) = 0) ∧
    (surrogateGradient epsilon logRatio advantage (-1 / total * weight) = 0 ↔
      weight = 0 ∨ advantage = 0 ∨ logRatio < -20 ∨ 20 < logRatio ∨
        LeavesRegion epsilon (importanceRatio logRatio) advantage) := by
  rw [surrogateGradient_eq hepsilon]
  split
  · next hheld => exact ⟨.inr rfl, iff_of_true rfl (.inr (.inr hheld))⟩
  · next hfree =>
      have hplain : -1 / total * weight * advantage * importanceRatio logRatio =
          -(weight * advantage * importanceRatio logRatio) / total := by ring
      refine ⟨.inl hplain, ?_⟩
      rw [hplain, div_eq_zero_iff, neg_eq_zero, mul_eq_zero, mul_eq_zero]
      simp only [hfree, htotal.ne', (importanceRatio_pos logRatio).ne', or_false]

end Surrogate

section Derivative

open Filter Topology

variable {epsilon logRatio advantage : ℝ}

theorem continuous_importanceRatio : Continuous (importanceRatio : ℝ → ℝ) :=
  Real.continuous_exp.comp (continuous_const.max (continuous_const.min continuous_id))

/-- Within the bounds of the log ratio the ratio is its own derivative. -/
theorem hasDerivAt_importanceRatio (h : -20 < logRatio ∧ logRatio < 20) :
    HasDerivAt importanceRatio (importanceRatio logRatio) logRatio := by
  have hexp : ∀ᶠ x in 𝓝 logRatio, importanceRatio x = Real.exp x := by
    filter_upwards [Ioo_mem_nhds h.1 h.2] with x hx
    rw [importanceRatio, min_eq_right hx.2.le, max_eq_right hx.1.le]
    rfl
  rw [hexp.self_of_nhds]
  exact (Real.hasDerivAt_exp logRatio).congr_of_eventuallyEq hexp

/-- Past the bounds it is held fast. -/
theorem eventually_importanceRatio_eq (h : logRatio < -20 ∨ 20 < logRatio) :
    ∀ᶠ x in 𝓝 logRatio, importanceRatio x = importanceRatio logRatio := by
  have hheld {x : ℝ} : (x ≤ -20 → importanceRatio x = Real.exp (-20)) ∧
      (20 ≤ x → importanceRatio x = Real.exp 20) := by
    constructor
    · intro hx
      rw [importanceRatio, min_eq_right (by linarith), max_eq_left hx]
      rfl
    · intro hx
      rw [importanceRatio, min_eq_left hx, max_eq_right (by norm_num)]
      rfl
  obtain hlow | hhigh := h
  · filter_upwards [Iio_mem_nhds hlow] with x hx
    exact (hheld.1 hx.le).trans (hheld.1 hlow.le).symm
  · filter_upwards [Ioi_mem_nhds hhigh] with x hx
    exact (hheld.2 hx.le).trans (hheld.2 hhigh.le).symm

/-- Away from the edges of the trust region, a ratio stays on its side of them for a while. -/
theorem eventually_not_leavesRegion
    (h : ¬ LeavesRegion epsilon (importanceRatio logRatio) advantage)
    (hlow : importanceRatio logRatio ≠ 1 - epsilon)
    (hhigh : importanceRatio logRatio ≠ 1 + epsilon) :
    ∀ᶠ x in 𝓝 logRatio, ¬ LeavesRegion epsilon (importanceRatio x) advantage := by
  have htendsto := continuous_importanceRatio.tendsto logRatio
  obtain ⟨habove, hbelow⟩ := not_or.1 h
  obtain hneg | rfl | hpos := lt_trichotomy advantage 0
  · have hinside : 1 - epsilon < importanceRatio logRatio :=
      lt_of_le_of_ne (not_lt.1 fun hout => hbelow ⟨hneg, hout⟩) hlow.symm
    filter_upwards [htendsto.eventually_const_lt hinside] with x hx
    simp [LeavesRegion, hneg.not_gt, hx.le]
  · simp [LeavesRegion]
  · have hinside : importanceRatio logRatio < 1 + epsilon :=
      lt_of_le_of_ne (not_lt.1 fun hout => habove ⟨hpos, hout⟩) hhigh
    filter_upwards [htendsto.eventually_lt_const hinside] with x hx
    simp [LeavesRegion, hpos.not_gt, hx.le]

/-- Where the ratio leaves the trust region the surrogate is flat. -/
theorem eventually_surrogate_eq (hepsilon : 0 ≤ epsilon)
    (h : LeavesRegion epsilon (importanceRatio logRatio) advantage) :
    ∀ᶠ x in 𝓝 logRatio, surrogate epsilon x advantage = surrogate epsilon logRatio advantage := by
  have htendsto := continuous_importanceRatio.tendsto logRatio
  obtain ⟨hpos, hhigh⟩ | ⟨hneg, hlow⟩ := h
  · have hflat {x : ℝ} (hx : 1 + epsilon < importanceRatio x) :
        surrogate epsilon x advantage = (1 + epsilon) * advantage := by
      have hclip : max (1 - epsilon) (min (1 + epsilon) (importanceRatio x)) = 1 + epsilon := by
        rw [min_eq_left hx.le, max_eq_right (by linarith)]
      rw [surrogate_eq_min, hclip]
      exact min_eq_right (mul_le_mul_of_nonneg_right hx.le hpos.le)
    filter_upwards [htendsto.eventually_const_lt hhigh] with x hx
    rw [hflat hx, hflat hhigh]
  · have hflat {x : ℝ} (hx : importanceRatio x < 1 - epsilon) :
        surrogate epsilon x advantage = (1 - epsilon) * advantage := by
      have hclip : max (1 - epsilon) (min (1 + epsilon) (importanceRatio x)) = 1 - epsilon :=
        max_eq_left ((min_le_right _ _).trans hx.le)
      rw [surrogate_eq_min, hclip]
      exact min_eq_right (mul_le_mul_of_nonpos_right hx.le hneg.le)
    filter_upwards [htendsto.eventually_lt_const hlow] with x hx
    rw [hflat hx, hflat hlow]

theorem hasDerivAt_surrogate (hepsilon : 0 ≤ epsilon) (hbounds : logRatio ≠ -20 ∧ logRatio ≠ 20)
    (hlow : importanceRatio logRatio ≠ 1 - epsilon)
    (hhigh : importanceRatio logRatio ≠ 1 + epsilon) (advantage : ℝ) :
    HasDerivAt (fun x => surrogate epsilon x advantage)
      (surrogateGradient epsilon logRatio advantage 1) logRatio := by
  rw [surrogateGradient_eq hepsilon]
  split
  · next hheld =>
      have hflat : ∀ᶠ x in 𝓝 logRatio,
          surrogate epsilon x advantage = surrogate epsilon logRatio advantage := by
        rw [← or_assoc] at hheld
        obtain hclamped | hleaves := hheld
        · filter_upwards [eventually_importanceRatio_eq hclamped] with x hx
          rw [surrogate_eq_min, surrogate_eq_min, hx]
        · exact eventually_surrogate_eq hepsilon hleaves
      exact (hasDerivAt_const logRatio _).congr_of_eventuallyEq hflat
  · next hfree =>
      obtain ⟨habove, hbelow, hstays⟩ : -20 ≤ logRatio ∧ logRatio ≤ 20 ∧
          ¬ LeavesRegion epsilon (importanceRatio logRatio) advantage := by
        simpa only [not_or, not_lt] using hfree
      have hinside : -20 < logRatio ∧ logRatio < 20 :=
        ⟨lt_of_le_of_ne habove hbounds.1.symm, lt_of_le_of_ne hbelow hbounds.2⟩
      have hplain : ∀ᶠ x in 𝓝 logRatio,
          surrogate epsilon x advantage = importanceRatio x * advantage := by
        filter_upwards [eventually_not_leavesRegion hstays hlow hhigh] with x hx
        exact surrogate_of_not_leavesRegion hepsilon hx
      rw [one_mul, mul_comm advantage]
      exact ((hasDerivAt_importanceRatio hinside).mul_const advantage).congr_of_eventuallyEq hplain

end Derivative

end Loss
end ActorCritic
