import ActorCritic.Decimal.Rounded
import ActorCritic.Proofs.Decimal

/-!
Positional decimal text. It has as many digits behind its point as were asked for, they are those of
the nearest number with so many places, and nothing else than letters, digits, points and minus
signs stands in it.
-/

namespace ActorCritic
namespace Decimal

theorem roundDiv_nearest (n : Nat) {d : Nat} (hd : 0 < d) :
    2 * (roundDiv n d * d) ≤ 2 * n + d ∧ 2 * n ≤ 2 * (roundDiv n d * d) + d := by
  have hsplit : n / d * d + n % d = n := Nat.div_add_mod' n d
  have hnext : (n / d + 1) * d = n / d * d + d := Nat.succ_mul (n / d) d
  have hrest : n % d < d := Nat.mod_lt n hd
  unfold roundDiv
  dsimp only
  split
  · omega
  split
  · omega
  split
  · omega
  · omega

/-- Digits before a point and `places` digits behind it. -/
structure IsPositional (places : Nat) (whole fraction : List Char) : Prop where
  whole_ne_nil : whole ≠ []
  length_fraction : fraction.length = places
  digits : ∀ c ∈ whole ++ fraction, c.isDigit = true

theorem placed_eq {places : Nat} (hplaces : 0 < places) (m : Nat) :
    ∃ whole fraction : List Char, IsPositional places whole fraction ∧
      placed places m = String.ofList (whole ++ '.' :: fraction) ∧
      Nat.ofDigitChars 10 (whole ++ fraction) 0 = m := by
  let last := Nat.toDigits 10 (m % Nat.pow 10 places)
  let fraction := List.replicate (places - last.length) '0' ++ last
  have hlast : last.length ≤ places :=
    (Nat.length_toDigits_le_iff (by decide) hplaces).2 (Nat.mod_lt m (Nat.pow_pos (by decide)))
  have hfraction : fraction.length = places := by
    rw [List.length_append, List.length_replicate, Nat.sub_add_cancel hlast]
  refine ⟨Nat.toDigits 10 (m / Nat.pow 10 places), fraction,
    ⟨Nat.toDigits_ne_nil, hfraction, fun c hc => ?_⟩, ?_, ?_⟩
  · obtain hc | hc := List.mem_append.1 hc
    · exact isDigit_toDigits hc
    obtain hc | hc := List.mem_append.1 hc
    · rw [List.eq_of_mem_replicate hc]
      decide
    · exact isDigit_toDigits hc
  · rw [placed, if_neg (Nat.ne_of_gt hplaces), Nat.toString_eq_ofList_toDigits, ← String.toList_inj]
    simp [fraction, last]
  · rw [Nat.ofDigitChars_append, Nat.ofDigitChars_ten_toDigits,
      Nat.ofDigitChars_eq_ofDigitChars_zero, hfraction, ofDigitChars_padded]
    exact Nat.div_add_mod m (Nat.pow 10 places)

/-- What the text of a number with `places` places says of the number: the digits of a finite one,
read together, are nearest to it. -/
inductive Shows (places : Nat) : Binary → String → Prop where
  | nan : Shows places .nan "NaN"
  | infinite (negative : Bool) : Shows places (.infinite negative) (signText negative ++ "inf")
  | finite (negative : Bool) (x : Magnitude) (whole fraction : List Char)
      (positional : IsPositional places whole fraction)
      (notAbove : 2 * (Nat.ofDigitChars 10 (whole ++ fraction) 0 * x.denominator) ≤
        2 * (x.numerator * Nat.pow 10 places) + x.denominator)
      (notBelow : 2 * (x.numerator * Nat.pow 10 places) ≤
        2 * (Nat.ofDigitChars 10 (whole ++ fraction) 0 * x.denominator) + x.denominator) :
      Shows places (.finite negative x)
        (signText negative ++ String.ofList (whole ++ '.' :: fraction))

theorem shows_fixed {places : Nat} (hplaces : 0 < places) (x : Binary) :
    Shows places x (fixed .plain places x) := by
  match x with
  | .nan => exact .nan
  | .infinite negative => exact .infinite negative
  | .finite negative x =>
      obtain ⟨whole, fraction, hpositional, htext, hread⟩ :=
        placed_eq hplaces (roundDiv (x.numerator * Nat.pow 10 places) x.denominator)
      have hpos : 0 < x.denominator := Nat.pow_pos (by decide)
      obtain ⟨hnotAbove, hnotBelow⟩ := roundDiv_nearest (x.numerator * Nat.pow 10 places) hpos
      rw [fixed, htext, Spelling.plain, Bool.true_or, Bool.and_true]
      rw [← hread] at hnotAbove hnotBelow
      exact .finite negative x whole fraction hpositional hnotAbove hnotBelow

/-- The text is a word of letters, digits, points and minus signs. -/
structure IsWord (s : String) : Prop where
  ne_empty : s ≠ ""
  plain : ∀ c ∈ s.toList, c.isAlphanum = true ∨ c = '.' ∨ c = '-'

theorem isWord_of_digit {s : String} (hne : s ≠ "")
    (h : ∀ c ∈ s.toList, c.isDigit = true ∨ c = '.' ∨ c = '-') : IsWord s := by
  refine ⟨hne, fun c hc => ?_⟩
  obtain hdigit | hsign := h c hc
  · exact Or.inl (by rw [Char.isAlphanum, hdigit, Bool.or_true])
  · exact Or.inr hsign

theorem isWord_count (n : Nat) : IsWord (toString n) := by
  rw [Nat.toString_eq_ofList_toDigits]
  refine isWord_of_digit ?_ fun c hc => ?_
  · exact fun hempty => Nat.toDigits_ne_nil (String.ofList_eq_empty_iff.1 hempty)
  · rw [String.toList_ofList] at hc
    exact Or.inl (isDigit_toDigits hc)

theorem Shows.isWord {places : Nat} {x : Binary} {s : String} (h : Shows places x s) :
    IsWord s := by
  cases h with
  | nan => exact ⟨by decide, by simp⟩
  | infinite negative =>
      cases negative with
      | false => exact ⟨by decide, by simp [signText]⟩
      | true => exact ⟨by decide, by simp [signText]⟩
  | finite negative x whole fraction hpositional _ _ =>
      have hchars : (signText negative ++ String.ofList (whole ++ '.' :: fraction)).toList =
          (signText negative).toList ++ (whole ++ '.' :: fraction) := by
        rw [String.toList_append, String.toList_ofList]
      refine isWord_of_digit ?_ ?_
      · rw [ne_eq, ← String.toList_eq_nil_iff, hchars]
        simp
      · rw [hchars]
        intro c hc
        obtain hc | hc := List.mem_append.1 hc
        · cases negative with
          | false => cases hc
          | true => exact Or.inr (Or.inr (List.mem_singleton.1 hc))
        obtain hc | hc := List.mem_append.1 hc
        · exact Or.inl (hpositional.digits c (List.mem_append_left fraction hc))
        obtain rfl | hc := List.mem_cons.1 hc
        · exact Or.inr (Or.inl rfl)
        · exact Or.inl (hpositional.digits c (List.mem_append_right whole hc))

end Decimal
end ActorCritic
