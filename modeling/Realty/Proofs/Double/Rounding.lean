/-
# Rounding to the nearest double

A decimal that lies in the interval of a double is rounded to that double.

* `StandsFor` is the number that a mantissa stands for together with two more bits, which say how
  much it leaves out.  Shifting keeps it (`StandsFor.shiftRight`), and rounding finds the nearest
  whole mantissa, ties to even (`StandsFor.roundedMantissa_eq`).
* `roundWithAccuracy_eq`: a number in the interval of a double is rounded to it.  Just below a power
  of two the mantissa first has one bit more, which the second shift takes away.
* `ofScientific_eq`: so is a decimal, whether it is a product or a quotient with a power of ten.
-/
import Mathlib
import Realty.Proofs.Double.Shortest

namespace Realty.Double

open Float.Model Float.Model.UnpackedFloat
open Shortest (decimal lower upper reach)

/-! ## 1. Mantissas with two more bits -/

/-- What the two bits say of the part that a mantissa leaves out: whether it is a half or more, and
whether it is neither nothing nor a half. -/
def Leaves : Bool → Bool → ℚ → Prop
  | false, false, x => x = 0
  | false, true, x => 0 < x ∧ x < 1 / 2
  | true, false, x => x = 1 / 2
  | true, true, x => 1 / 2 < x ∧ x < 1

/-- The number that a mantissa and its two bits stand for at an exponent. -/
def StandsFor (em : ExtendedMantissa) (e : ℤ) (v : ℚ) : Prop :=
  ∃ x, v = (em.mantissa + x) * 2 ^ e ∧ Leaves em.roundBit em.stickyBit x

namespace Leaves

variable {r s : Bool} {x : ℚ}

theorem bounds (h : Leaves r s x) : 0 ≤ x ∧ x < 1 := by
  cases r <;> cases s <;> simp only [Leaves] at h
  · norm_num [h]
  · exact ⟨h.1.le, by linarith [h.2]⟩
  · norm_num [h]
  · exact ⟨by linarith [h.1], h.2⟩

/-- Something is left out when one of the bits is set. -/
theorem pos_of_bit (h : Leaves r s x) (hbit : (r || s) = true) : 0 < x := by
  cases r <;> cases s <;> simp only [Leaves] at h
  · cases hbit
  · exact h.1
  · norm_num [h]
  · linarith [h.1]

theorem eq_zero_of_no_bit (h : Leaves r s x) (hbit : (r || s) = false) : x = 0 := by
  obtain ⟨rfl, rfl⟩ := Bool.or_eq_false_iff.1 hbit
  exact h

/-- **Leaving out one bit more**: the first bit is that bit, and the second tells whether anything
was left out before. -/
theorem shift (h : Leaves r s x) (m : ℕ) :
    Leaves (m % 2 != 0) (r || s) (((m % 2 : ℕ) + x) / 2) := by
  have hlt := h.bounds.2
  cases hbit : (r || s) with
  | false =>
    rw [h.eq_zero_of_no_bit hbit]
    rcases Nat.mod_two_eq_zero_or_one m with hm | hm
    · rw [hm]
      show (((0 : ℕ) : ℚ) + 0) / 2 = 0
      norm_num
    · rw [hm]
      show (((1 : ℕ) : ℚ) + 0) / 2 = 1 / 2
      norm_num
  | true =>
    have hpos := h.pos_of_bit hbit
    rcases Nat.mod_two_eq_zero_or_one m with hm | hm
    · rw [hm, Nat.cast_zero, zero_add]
      exact ⟨by linarith, by linarith⟩
    · rw [hm, Nat.cast_one]
      exact ⟨by linarith, by linarith⟩

end Leaves

namespace StandsFor

variable {em : ExtendedMantissa} {e : ℤ} {v : ℚ}

theorem shiftRightOne (h : StandsFor em e v) : StandsFor em.shiftRightOne (e + 1) v := by
  obtain ⟨x, rfl, hx⟩ := h
  refine ⟨((em.mantissa % 2 : ℕ) + x) / 2, ?_, hx.shift em.mantissa⟩
  have hdivision : (em.mantissa : ℚ) = 2 * (em.mantissa / 2 : ℕ) + (em.mantissa % 2 : ℕ) := by
    exact_mod_cast (Nat.div_add_mod em.mantissa 2).symm
  rw [zpow_add_one₀ two_ne_zero, ExtendedMantissa.shiftRightOne]
  simp only
  rw [hdivision]
  ring

/-- **Shifting keeps the number.** -/
theorem shiftRight (h : StandsFor em e v) (n : ℕ) : StandsFor (em >>> n) (e + n) v := by
  induction n with
  | zero =>
    rw [Nat.cast_zero, add_zero]
    exact h
  | succ n ih =>
    rw [Nat.cast_succ, ← add_assoc]
    exact ih.shiftRightOne

/-- A mantissa is what the number has whole. -/
theorem bounds (h : StandsFor em e v) :
    em.mantissa * 2 ^ e ≤ v ∧ v < (em.mantissa + 1) * 2 ^ e := by
  obtain ⟨x, rfl, hx⟩ := h
  have hpower : (0 : ℚ) < 2 ^ e := by positivity
  exact ⟨mul_le_mul_of_nonneg_right (by linarith [hx.bounds.1]) hpower.le,
    mul_lt_mul_of_pos_right (by linarith [hx.bounds.2]) hpower⟩

/-- **Rounding finds the nearest mantissa**, and of two the even one. -/
theorem roundedMantissa_eq (h : StandsFor em e v) {k : ℕ}
    (hlow : (k - 1 / 2) * 2 ^ e ≤ v) (hhigh : v ≤ (k + 1 / 2) * 2 ^ e)
    (hodd : k % 2 = 1 → (k - 1 / 2) * 2 ^ e < v ∧ v < (k + 1 / 2) * 2 ^ e) :
    em.roundedMantissa = k := by
  obtain ⟨x, rfl, hx⟩ := h
  have hpower : (0 : ℚ) < 2 ^ e := by positivity
  have hle {a b : ℕ} (h : (a : ℚ) < b + 1) : a ≤ b := Nat.lt_succ_iff.1 (by exact_mod_cast h)
  simp only [mul_le_mul_iff_left₀ hpower, mul_lt_mul_iff_left₀ hpower] at hlow hhigh hodd
  obtain ⟨m, r, s⟩ := em
  cases r <;> cases s <;>
    simp only [Leaves, ExtendedMantissa.roundedMantissa, ExtendedMantissa.accuracy,
      Accuracy.roundToNearestEven] at hx hlow hhigh hodd ⊢
  · exact Nat.le_antisymm (hle (by linarith)) (hle (by linarith))
  · exact Nat.le_antisymm (hle (by linarith)) (hle (by linarith))
  · -- half-way between two mantissas, the odd one is too far
    have hmk : m ≤ k := hle (by linarith)
    have hkm : k ≤ m + 1 := hle (by push_cast; linarith)
    have heven : k % 2 = 0 := by
      by_contra hne
      obtain ⟨habove, hbelow⟩ := hodd (Nat.mod_two_ne_zero.1 hne)
      have hkm : k ≤ m := hle (by linarith)
      have hmk : m + 1 ≤ k := hle (by push_cast; linarith)
      omega
    omega
  · exact Nat.le_antisymm (hle (by push_cast; linarith)) (hle (by push_cast; linarith))

end StandsFor

/-! ## 2. Rounding -/

/-- A whole number stands for itself. -/
theorem standsFor_exact (m : ℕ) (e : ℤ) :
    StandsFor (.ofMantissaAndAccuracy m .exact) e (m * 2 ^ e) :=
  ⟨0, by rw [add_zero]; rfl, rfl⟩

/-- **The whole part of a quotient stands for it**, with what the remainder tells. -/
theorem standsFor_quotient (n : ℕ) {d : ℕ} (hd : 0 < d) (e : ℤ) :
    StandsFor (.ofMantissaAndAccuracy (n / d) (accuracyOfFraction (n % d) d)) e
      (n / d * 2 ^ e) := by
  have hd' : (0 : ℚ) < d := by exact_mod_cast hd
  have hdivision : (n : ℚ) = d * (n / d : ℕ) + (n % d : ℕ) := by
    exact_mod_cast (Nat.div_add_mod n d).symm
  have hlt : ((n % d : ℕ) : ℚ) < d := by exact_mod_cast Nat.mod_lt n hd
  have hvalue : (n : ℚ) / d * 2 ^ e = ((n / d : ℕ) + (n % d : ℕ) / d) * 2 ^ e := by
    rw [hdivision]
    field_simp
  rw [hvalue, accuracyOfFraction]
  split
  · next hrest => exact ⟨0, by rw [hrest, Nat.cast_zero, zero_div]; rfl, rfl⟩
  · next hrest =>
    have hpos : (0 : ℚ) < (n % d : ℕ) := by exact_mod_cast Nat.pos_of_ne_zero hrest
    rcases lt_trichotomy (2 * (n % d)) d with h | h | h
    · have h' : (2 : ℚ) * (n % d : ℕ) < d := by exact_mod_cast h
      rw [Nat.compare_eq_lt.2 h]
      exact ⟨_, rfl, div_pos hpos hd', by rw [div_lt_div_iff₀ hd' two_pos]; linarith⟩
    · have h' : (2 : ℚ) * (n % d : ℕ) = d := by exact_mod_cast h
      rw [Nat.compare_eq_eq.2 h]
      exact ⟨_, rfl, (div_eq_div_iff hd'.ne' two_ne_zero).2 (by linarith)⟩
    · have h' : (d : ℚ) < 2 * (n % d : ℕ) := by exact_mod_cast h
      rw [Nat.compare_eq_gt.2 h]
      exact ⟨_, rfl, by rw [div_lt_div_iff₀ two_pos hd']; linarith, (div_lt_one hd').2 hlt⟩

/-- The exponent at which a number is rounded. -/
theorem targetExponent_eq (m : ℕ) (e : ℤ) :
    Format.binary64.targetExponent (totalExponent m e) = max (m.log2 + e - 52) (-1074) := by
  simp only [Format.targetExponent, totalExponent, Format.mantissaBits, Format.minExponent]
  norm_num
  omega

/-- A number is shifted to the exponent at which it is rounded. -/
theorem StandsFor.toTargetExponent {m : ℕ} {e : ℤ} {accuracy : Accuracy} {v : ℚ}
    (h : StandsFor (.ofMantissaAndAccuracy m accuracy) e v)
    (hlong : e ≤ max ((m.log2 : ℤ) + e - 52) (-1074)) :
    (shiftToTargetExponent Format.binary64 m e accuracy).2 = max ((m.log2 : ℤ) + e - 52) (-1074) ∧
      StandsFor (shiftToTargetExponent Format.binary64 m e accuracy).1
        (max ((m.log2 : ℤ) + e - 52) (-1074)) v := by
  have hexponent : e + ((max ((m.log2 : ℤ) + e - 52) (-1074) - e).toNat : ℕ) =
      max ((m.log2 : ℤ) + e - 52) (-1074) := by omega
  have hshifted := h.shiftRight (max ((m.log2 : ℤ) + e - 52) (-1074) - e).toNat
  rw [hexponent] at hshifted
  rw [shiftToTargetExponent, targetExponent_eq, shiftToExponent]
  exact ⟨hexponent, hshifted⟩

/-- A mantissa of a double is not shifted. -/
theorem shiftToTargetExponent_eq {m : ℕ} {e : ℤ} (hm : m < 2 ^ 53) (he : -1074 ≤ e) :
    shiftToTargetExponent Format.binary64 m e .exact = (⟨m, false, false⟩, e) := by
  have hlog : m.log2 ≤ 52 := by
    rcases Nat.eq_zero_or_pos m with rfl | hpos
    · decide
    · exact Nat.le_of_lt_succ ((Nat.log2_lt hpos.ne').2 hm)
  have hnone : (max ((m.log2 : ℤ) + e - 52) (-1074) - e).toNat = 0 := by omega
  rw [shiftToTargetExponent, targetExponent_eq, shiftToExponent, hnone, Nat.cast_zero, add_zero]
  rfl

/-- A mantissa with one bit more is. -/
theorem shiftToTargetExponent_top {e : ℤ} (he : -1074 ≤ e) :
    shiftToTargetExponent Format.binary64 (2 ^ 53) e .exact = (⟨2 ^ 52, false, false⟩, e + 1) := by
  have hone : (max (((2 ^ 53 : ℕ).log2 : ℤ) + e - 52) (-1074) - e).toNat = 1 := by
    rw [Nat.log2_two_pow]
    omega
  rw [shiftToTargetExponent, targetExponent_eq, shiftToExponent, hone, Nat.cast_one]
  rfl

theorem mantissa_ofMantissaAndAccuracy (m : ℕ) (accuracy : Accuracy) :
    (ExtendedMantissa.ofMantissaAndAccuracy m accuracy).mantissa = m := by
  match accuracy with
  | .exact | .inexact .lt | .inexact .eq | .inexact .gt => rfl

/-- The bits of a mantissa tell the size of what it stands for. -/
theorem StandsFor.log2_bounds {em : ExtendedMantissa} {e : ℤ} {v : ℚ} (h : StandsFor em e v)
    (hpos : 0 < em.mantissa) :
    (2 : ℚ) ^ (em.mantissa.log2 + e) ≤ v ∧ v < 2 ^ (em.mantissa.log2 + e + 1) := by
  obtain ⟨hlow, hhigh⟩ := h.bounds
  have hpower : (0 : ℚ) < 2 ^ e := by positivity
  have hleast : (2 : ℚ) ^ em.mantissa.log2 ≤ em.mantissa := by
    exact_mod_cast Nat.log2_self_le hpos.ne'
  have hmost : (em.mantissa : ℚ) + 1 ≤ 2 ^ (em.mantissa.log2 + 1) := by
    exact_mod_cast Nat.lt_log2_self
  constructor
  · rw [zpow_add₀ two_ne_zero, zpow_natCast]
    exact (mul_le_mul_of_nonneg_right hleast hpower.le).trans hlow
  · rw [add_right_comm, zpow_add₀ two_ne_zero, ← Nat.cast_succ, zpow_natCast]
    exact hhigh.trans_le (mul_le_mul_of_nonneg_right hmost hpower.le)

/-! ## 3. The interval of a double -/

/-- The numbers that round to a positive double: those of its interval, and its ends only when the
mantissa is even. -/
structure RoundsTo (v : ℚ) (m : ℕ) (e : ℤ) : Prop where
  isCanonical : IsCanonical m e
  low : lower m e ≤ v
  high : v ≤ upper m e
  inside : m % 2 = 1 → lower m e < v ∧ v < upper m e

/-- A quarter of the last place. -/
theorem zpow_quarter (e : ℤ) : (2 : ℚ) ^ e = 4 * 2 ^ (e - 2) := by
  rw [zpow_sub₀ two_ne_zero]
  norm_num
  ring

theorem upper_eq (m : ℕ) (e : ℤ) : upper m e = (m + 1 / 2) * 2 ^ e := by
  rw [upper, zpow_quarter e]
  push_cast
  ring

/-- Powers of two grow with their exponents. -/
theorem lt_of_zpow_lt {a b : ℤ} (h : (2 : ℚ) ^ a < 2 ^ b) : a < b :=
  (zpow_lt_zpow_iff_right₀ one_lt_two).1 h

theorem le_lower {m : ℕ} {e : ℤ} (hm : 0 < m) : ((m : ℚ) - 1 / 2) * 2 ^ e ≤ lower m e := by
  have hpower : (0 : ℚ) < 2 ^ (e - 2) := by positivity
  have hreach : (4 * m - 2 : ℚ) ≤ ((4 * m - reach m e : ℕ) : ℚ) := by
    have hreach : 4 * m ≤ (4 * m - reach m e) + 2 := by
      unfold reach
      split <;> omega
    have hcast : (4 : ℚ) * m ≤ (4 * m - reach m e : ℕ) + 2 := by exact_mod_cast hreach
    linarith
  rw [lower, zpow_quarter e]
  calc ((m : ℚ) - 1 / 2) * (4 * 2 ^ (e - 2)) = (4 * m - 2) * 2 ^ (e - 2) := by ring
    _ ≤ _ := mul_le_mul_of_nonneg_right hreach hpower.le

namespace RoundsTo

variable {v : ℚ} {m : ℕ} {e : ℤ}

theorem lt_top (h : RoundsTo v m e) : v < 2 ^ (53 + e) := by
  have hpower : (0 : ℚ) < 2 ^ e := by positivity
  have hm : (m : ℚ) + 1 ≤ 2 ^ 53 := by exact_mod_cast h.isCanonical.2.1
  rw [zpow_add₀ two_ne_zero]
  refine h.high.trans_lt ?_
  rw [upper_eq]
  exact mul_lt_mul_of_pos_right (by norm_num at hm ⊢; linarith) hpower

/-- A long mantissa has a long number. -/
theorem pow_le (h : RoundsTo v m e) (he : e ≠ -1074) : (2 : ℚ) ^ (51 + e) ≤ v := by
  obtain ⟨hpos, -, -, -, hlong⟩ := h.isCanonical
  have hpower : (0 : ℚ) < 2 ^ e := by positivity
  have hm : (2 ^ 52 : ℚ) ≤ m := by exact_mod_cast hlong he
  have hexponent : (2 : ℚ) ^ (51 : ℤ) = 2 ^ 51 := by norm_num
  rw [zpow_add₀ two_ne_zero, hexponent]
  exact (mul_le_mul_of_nonneg_right (by linarith) hpower.le).trans ((le_lower hpos).trans h.low)

/-- Just below a power of two the doubles lie twice as close. -/
theorem below_power (h : RoundsTo v m e) (he : e ≠ -1074) (hv : v < 2 ^ (52 + e)) :
    m = 2 ^ 52 ∧ (2 ^ 53 - 1 / 2) * 2 ^ (e - 1) ≤ v := by
  obtain ⟨hpos, -, hleast, -, hlong⟩ := h.isCanonical
  have hpower : (0 : ℚ) < 2 ^ e := by positivity
  have hm : m = 2 ^ 52 := by
    by_contra hne
    have hlarge : 2 ^ 52 + 1 ≤ m := Nat.lt_of_le_of_ne (hlong he) (Ne.symm hne)
    have hlarge' : (2 ^ 52 + 1 : ℚ) ≤ m := by exact_mod_cast hlarge
    have hexponent : (2 : ℚ) ^ (52 : ℤ) = 2 ^ 52 := by norm_num
    have hbeyond : (2 : ℚ) ^ (52 + e) ≤ (m - 1 / 2) * 2 ^ e := by
      rw [zpow_add₀ two_ne_zero, hexponent]
      exact mul_le_mul_of_nonneg_right (by linarith) hpower.le
    exact hv.not_ge (hbeyond.trans ((le_lower hpos).trans h.low))
  refine ⟨hm, le_of_eq_of_le ?_ h.low⟩
  have hreach : reach m e = 1 := if_pos ⟨hm, by omega⟩
  have hhalf : (2 : ℚ) ^ (e - 1) = 2 * 2 ^ (e - 2) := by
    rw [← zpow_one_add₀ two_ne_zero]
    congr 1
    omega
  rw [lower, hreach, hm, hhalf]
  norm_num
  ring

/-- What is long enough is rounded at the exponent of the double, or just below a power of two at
the exponent before. -/
theorem exponent_cases (h : RoundsTo v m e) {M : ℕ} {E : ℤ} {accuracy : Accuracy}
    (hM : StandsFor (.ofMantissaAndAccuracy M accuracy) E v) (hlong : 2 ^ 52 ≤ M ∨ E ≤ -1074) :
    max ((M.log2 : ℤ) + E - 52) (-1074) = e ∨
      max ((M.log2 : ℤ) + E - 52) (-1074) = e - 1 ∧ e ≠ -1074 ∧ v < 2 ^ (52 + e) := by
  have hleast := h.isCanonical.2.2.1
  rcases Nat.eq_zero_or_pos M with rfl | hpos
  · -- only a number below all doubles has no mantissa
    have hsmall : v < 2 ^ E := by
      have hbounds := hM.bounds.2
      rwa [mantissa_ofMantissaAndAccuracy, Nat.cast_zero, zero_add, one_mul] at hbounds
    have he : e = -1074 := by
      by_contra he
      have hexponents := lt_of_zpow_lt ((h.pow_le he).trans_lt hsmall)
      omega
    have hlog : Nat.log2 0 = 0 := by decide
    omega
  · have hbits := hM.log2_bounds (by rwa [mantissa_ofMantissaAndAccuracy])
    rw [mantissa_ofMantissaAndAccuracy] at hbits
    have hupper := lt_of_zpow_lt (hbits.1.trans_lt h.lt_top)
    by_cases he : e = -1074
    · omega
    · rcases lt_or_ge v (2 ^ (52 + e)) with hv | hv
      · have hbelow := lt_of_zpow_lt (hbits.1.trans_lt hv)
        have habove := lt_of_zpow_lt ((h.pow_le he).trans_lt hbits.2)
        exact .inr ⟨by omega, he, hv⟩
      · have habove := lt_of_zpow_lt (hv.trans_lt hbits.2)
        omega

end RoundsTo

/-! ## 4. Rounding -/

/-- A rounded mantissa that needs at most one more shift. -/
theorem roundWithAccuracy_of_shifts {m M : ℕ} {e E t : ℤ} {accuracy : Accuracy}
    {em : ExtendedMantissa} (hm : 0 < m)
    (hfirst : shiftToTargetExponent Format.binary64 M E accuracy = (em, t))
    (hsecond : shiftToTargetExponent Format.binary64 em.roundedMantissa t .exact =
      (⟨m, false, false⟩, e)) :
    roundWithAccuracy Format.binary64 .positive M E accuracy = .finite .positive m e hm := by
  simp only [roundWithAccuracy, hfirst, hsecond]
  exact dif_neg hm.ne'

/-- **A number in the interval of a double is rounded to it.** -/
theorem roundWithAccuracy_eq {m M : ℕ} {e E : ℤ} {accuracy : Accuracy} {v : ℚ}
    (h : RoundsTo v m e) (hM : StandsFor (.ofMantissaAndAccuracy M accuracy) E v)
    (hlong : 2 ^ 52 ≤ M ∨ E ≤ -1074) :
    roundWithAccuracy Format.binary64 .positive M E accuracy =
      .finite .positive m e h.isCanonical.1 := by
  obtain ⟨hpos, hlt, hleast, -⟩ := h.isCanonical
  have hreaches : E ≤ max ((M.log2 : ℤ) + E - 52) (-1074) := by
    rcases hlong with hM | hE
    · have hlog : 52 ≤ M.log2 := (Nat.le_log2 (by omega)).2 hM
      omega
    · omega
  obtain ⟨hexponent, hshifted⟩ := hM.toTargetExponent hreaches
  generalize hfirst : shiftToTargetExponent Format.binary64 M E accuracy = first
    at hexponent hshifted
  obtain ⟨em, t⟩ := first
  simp only at hexponent hshifted
  rw [← hexponent] at hshifted
  rcases h.exponent_cases hM hlong with he | ⟨he, hne, hv⟩
  · obtain rfl : t = e := hexponent.trans he
    have hrounded : em.roundedMantissa = m := by
      refine hshifted.roundedMantissa_eq ((le_lower hpos).trans h.low) ?_ fun hodd => ?_
      · exact h.high.trans_eq (upper_eq m t)
      · obtain ⟨habove, hbelow⟩ := h.inside hodd
        exact ⟨(le_lower hpos).trans_lt habove, hbelow.trans_eq (upper_eq m t)⟩
    refine roundWithAccuracy_of_shifts hpos hfirst ?_
    rw [hrounded]
    exact shiftToTargetExponent_eq hlt hleast
  · obtain ⟨rfl, hlow⟩ := h.below_power hne hv
    obtain rfl : t = e - 1 := hexponent.trans he
    have hrounded : em.roundedMantissa = 2 ^ 53 := by
      have hpower : (0 : ℚ) < 2 ^ (e - 1) := by positivity
      have htop : (2 : ℚ) ^ (52 + e) = 2 ^ 53 * 2 ^ (e - 1) := by
        rw [← zpow_natCast, ← zpow_add₀ two_ne_zero]
        congr 1
        omega
      refine hshifted.roundedMantissa_eq (by exact_mod_cast hlow) ?_
        fun hodd => absurd hodd (by decide)
      push_cast
      exact (hv.trans_eq htop).le.trans
        (mul_le_mul_of_nonneg_right (by norm_num) hpower.le)
    refine roundWithAccuracy_of_shifts hpos hfirst ?_
    rw [hrounded, shiftToTargetExponent_top (by omega), sub_add_cancel]

/-! ## 5. Decimals -/

/-- A quotient is computed with a mantissa as long as a double has, or at the least exponent. -/
theorem divCore_long {n d : ℕ} (hn : 0 < n) (hd : 0 < d) :
    2 ^ 52 ≤ (divCore Format.binary64 n 0 d 0).1 ∨
      (divCore Format.binary64 n 0 d 0).2.1 ≤ -1074 := by
  have htarget : Format.binary64.targetExponent (totalExponent n 0 - totalExponent d 0) =
      max ((n.log2 : ℤ) - d.log2 - 53) (-1074) := by
    simp only [Format.targetExponent, totalExponent, Format.mantissaBits, Format.minExponent]
    norm_num
  simp only [divCore, htarget, sub_self, zero_sub]
  generalize hshift : (-min 0 (max ((n.log2 : ℤ) - d.log2 - 53) (-1074))).toNat = shift
  by_cases hleast : min 0 (max ((n.log2 : ℤ) - d.log2 - 53) (-1074)) ≤ -1074
  · exact .inr hleast
  · left
    have hbits : 52 + (d.log2 + 1) ≤ n.log2 + shift := by omega
    rw [Nat.le_div_iff_mul_le hd, Nat.shiftLeft_eq]
    calc 2 ^ 52 * d ≤ 2 ^ 52 * 2 ^ (d.log2 + 1) :=
          Nat.mul_le_mul_left _ Nat.lt_log2_self.le
      _ = 2 ^ (52 + (d.log2 + 1)) := (pow_add 2 52 (d.log2 + 1)).symm
      _ ≤ 2 ^ (n.log2 + shift) := Nat.pow_le_pow_right two_pos hbits
      _ = 2 ^ n.log2 * 2 ^ shift := pow_add 2 n.log2 shift
      _ ≤ n * 2 ^ shift := Nat.mul_le_mul_right _ (Nat.log2_self_le hn.ne')

/-- A quotient is computed at an exponent where it stands for itself. -/
theorem standsFor_divCore (n : ℕ) {d : ℕ} (hd : 0 < d) :
    StandsFor (.ofMantissaAndAccuracy (divCore Format.binary64 n 0 d 0).1
      (divCore Format.binary64 n 0 d 0).2.2) (divCore Format.binary64 n 0 d 0).2.1 (n / d) := by
  simp only [divCore, sub_self, zero_sub]
  generalize Format.binary64.targetExponent (totalExponent n 0 - totalExponent d 0) = target
  have hquotient := standsFor_quotient (n <<< (-min 0 target).toNat) hd (min 0 target)
  have hback : (2 : ℚ) ^ (-min 0 target).toNat * 2 ^ min 0 target = 1 := by
    rw [← zpow_natCast, ← zpow_add₀ two_ne_zero]
    convert zpow_zero (2 : ℚ)
    omega
  have hvalue : ((n <<< (-min 0 target).toNat : ℕ) : ℚ) / d * 2 ^ min 0 target = n / d := by
    rw [Nat.shiftLeft_eq]
    push_cast
    rw [div_mul_eq_mul_div, mul_assoc, hback, mul_one]
  rwa [hvalue] at hquotient

/-- A power of two is below the same power of ten, and above it when the exponent is negative. -/
theorem two_zpow_le_ten {p : ℤ} (hp : 0 ≤ p) : (2 : ℚ) ^ p ≤ 10 ^ p :=
  zpow_le_zpow_left₀ hp (by norm_num) (by norm_num)

theorem ten_zpow_le_two {p : ℤ} (hp : p ≤ 0) : (10 : ℚ) ^ p ≤ 2 ^ p := by
  have hinverse := two_zpow_le_ten (Int.neg_nonneg_of_nonpos hp)
  rwa [zpow_neg, zpow_neg, inv_le_inv₀ (by positivity) (by positivity)] at hinverse

namespace RoundsTo

variable {d : ℕ} {p : ℤ} {m : ℕ} {e : ℤ}

theorem least (h : RoundsTo (decimal d p) m e) : (2 : ℚ) ^ (-1075 : ℤ) ≤ decimal d p := by
  obtain ⟨hpos, -, hleast, -⟩ := h.isCanonical
  have hhalf : (1 / 2 : ℚ) ≤ m - 1 / 2 := by
    have hone : (1 : ℚ) ≤ m := by exact_mod_cast hpos
    linarith
  calc (2 : ℚ) ^ (-1075 : ℤ) = 1 / 2 * 2 ^ (-1074 : ℤ) := by
        rw [show (-1075 : ℤ) = -1 + -1074 by norm_num, zpow_add₀ two_ne_zero]
        norm_num
    _ ≤ 1 / 2 * 2 ^ e :=
      mul_le_mul_of_nonneg_left (zpow_le_zpow_right₀ one_le_two hleast) (by norm_num)
    _ ≤ (m - 1 / 2) * 2 ^ e := mul_le_mul_of_nonneg_right hhalf (by positivity)
    _ ≤ decimal d p := (le_lower hpos).trans h.low

theorem digits_pos (h : RoundsTo (decimal d p) m e) : 0 < d := by
  rcases Nat.eq_zero_or_pos d with rfl | hd
  · have hleast := h.least
    rw [decimal, Nat.cast_zero, zero_mul] at hleast
    exact absurd hleast (not_le.2 (by positivity))
  · exact hd

/-- A decimal that rounds to a double has a power of ten within the range. -/
theorem exponent_le (h : RoundsTo (decimal d p) m e) : p ≤ 2 ^ 11 := by
  by_contra hlarge
  have hd : (1 : ℚ) ≤ d := by exact_mod_cast h.digits_pos
  have hmost : e ≤ 971 := h.isCanonical.2.2.2.1
  have hpower : (2 : ℚ) ^ p ≤ decimal d p :=
    (two_zpow_le_ten (by omega)).trans (le_mul_of_one_le_left (by positivity) hd)
  have hexponents := lt_of_zpow_lt (hpower.trans_lt h.lt_top)
  omega

theorem le_exponent (h : RoundsTo (decimal d p) m e) : -(2 ^ 11 + (d.log2 : ℤ)) ≤ p := by
  by_contra hsmall
  have hnegative : p ≤ 0 := by omega
  have hdigits : (d : ℚ) < 2 ^ (d.log2 + 1 : ℤ) := by exact_mod_cast @Nat.lt_log2_self d
  have hpower : decimal d p < 2 ^ ((d.log2 + 1 : ℤ) + p) := by
    rw [zpow_add₀ two_ne_zero]
    exact mul_lt_mul hdigits (ten_zpow_le_two hnegative) (by positivity) (by positivity)
  have hexponents := lt_of_zpow_lt (h.least.trans_lt hpower)
  omega

end RoundsTo

/-- **A decimal in the interval of a double is rounded to it**, as a product or as a quotient with a
power of ten. -/
theorem ofScientific_eq {d : ℕ} {p : ℤ} {m : ℕ} {e : ℤ} (h : RoundsTo (decimal d p) m e) :
    UnpackedFloat.ofScientific Format.binary64 d p = .finite .positive m e h.isCanonical.1 := by
  have hd := h.digits_pos
  unfold UnpackedFloat.ofScientific
  rw [dif_neg hd.ne', if_neg (not_lt.2 h.exponent_le), if_neg (not_lt.2 h.le_exponent)]
  split
  · next hp =>
    have hpower : (10 : ℚ) ^ p = (10 ^ p.toNat : ℕ) := by
      rw [Nat.cast_pow, ← zpow_natCast, Int.toNat_of_nonneg hp]
      rfl
    have hlong : 2 ^ 52 ≤ d <<< 53 * 10 ^ p.toNat := by
      have hten : 0 < 10 ^ p.toNat := by positivity
      rw [Nat.shiftLeft_eq]
      nlinarith
    have hvalue := standsFor_exact (d <<< 53 * 10 ^ p.toNat) (-53)
    have hsame : ((d <<< 53 * 10 ^ p.toNat : ℕ) : ℚ) * 2 ^ (-53 : ℤ) = decimal d p := by
      rw [decimal, hpower, Nat.shiftLeft_eq]
      push_cast
      norm_num
      ring
    rw [hsame] at hvalue
    exact roundWithAccuracy_eq h hvalue (.inl hlong)
  · next hp =>
    have hpower : decimal d p = d / (10 ^ (-p).toNat : ℕ) := by
      rw [decimal, Nat.cast_pow, ← zpow_natCast, Int.toNat_of_nonneg (by omega), zpow_neg,
        div_inv_eq_mul]
      rfl
    have hten : 0 < 10 ^ (-p).toNat := by positivity
    have hvalue := standsFor_divCore d hten
    rw [← hpower] at hvalue
    exact roundWithAccuracy_eq h hvalue (divCore_long hd hten)

end Realty.Double
