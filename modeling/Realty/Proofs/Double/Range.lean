/-
# Integers beyond the doubles

A whole number is rounded to 53 bits, and is out of range when its exponent then is.

* `isFinite_pack_iff`: what is put together is finite unless its exponent is too large.
* `roundWithAccuracy_whole`: the bits that a whole number is rounded to, and the exponent.
* `isFinite_ofScaled_iff`: so a number is in range when it is below `2 ^ 1024 - 2 ^ 970`, which is
  half-way between the largest double and the next power of two; `ofInt?_eq_none_iff` says the same
  of integers.
-/
import Mathlib
import Realty.Proofs.Double.Reading

namespace Realty.Double

open Float.Model Float.Model.UnpackedFloat
open Shortest (decimal)

/-! ## 1. Doubles put together -/

/-- A double rounded from a decimal is put together from what the decimal is rounded to. -/
theorem toModel_ofScaled (d : ℕ) (p : ℤ) :
    (ofScaled d p).toModel = Float.Model.pack (UnpackedFloat.ofScientific .binary64 d p) :=
  pack_unpack (Float.Model.pack (UnpackedFloat.ofScientific .binary64 d p))

/-- A double is finite unless the bits of its exponent are all ones. -/
theorem isFinite_packComponents_iff {x : Float} {s : Sign} {a : BitVec 11} {b : BitVec 52}
    (hx : x.toBits.toBitVec = packComponents .binary64 s a b) :
    isFinite x = true ↔ a ≠ -1#11 := by
  rw [isFinite, decode, hx, unpack_components]
  by_cases ha : a = -1#11
  · rw [if_pos ha]
    refine iff_of_false ?_ (not_not_intro ha)
    split_ifs <;> simp
  · rw [if_neg ha]
    refine iff_of_true ?_ ha
    split_ifs <;> rfl

/-- **What is put together is finite unless its exponent is too large.** -/
theorem isFinite_pack_iff {x : Float} {s : Sign} {m : ℕ} {e : ℤ} {hm : 0 < m}
    (hx : x.toModel = Float.Model.pack (.finite s m e hm)) : isFinite x = true ↔ e ≤ 971 := by
  have hbits : x.toBits.toBitVec = UnpackedFloat.pack .binary64 (.finite s m e hm) :=
    congrArg (fun f => f.toBits.toBitVec) hx
  have hpack : UnpackedFloat.pack .binary64 (.finite s m e hm) =
      if 2 ^ 11 ≤ (e + 1023 + 52).toNat + 1 then packComponents .binary64 s (-1#11) 0
      else if m.log2 + 1 = 53 then
        packComponents .binary64 s (BitVec.ofNat 11 (e + 1023 + 52).toNat) (BitVec.ofNat 52 m)
      else packComponents .binary64 s 0#11 (BitVec.ofNat 52 m) := rfl
  rw [hpack] at hbits
  by_cases hlarge : 2 ^ 11 ≤ (e + 1023 + 52).toNat + 1
  · rw [if_pos hlarge] at hbits
    rw [isFinite_packComponents_iff hbits]
    exact iff_of_false (not_not_intro rfl) (by omega)
  · rw [if_neg hlarge] at hbits
    refine iff_of_true ?_ (by omega)
    by_cases hlong : m.log2 + 1 = 53
    · rw [if_pos hlong] at hbits
      refine (isFinite_packComponents_iff hbits).2 fun hones => ?_
      have hvalue := congrArg BitVec.toNat hones
      rw [BitVec.toNat_ofNat, Nat.mod_eq_of_lt (by omega)] at hvalue
      exact hlarge (by rw [hvalue]; decide)
    · rw [if_neg hlong] at hbits
      exact (isFinite_packComponents_iff hbits).2 (by decide)

/-! ## 2. The mantissa of a whole number -/

/-- **A rounded mantissa is the nearest one**, and of two the even one. -/
theorem StandsFor.roundedMantissa_near {em : ExtendedMantissa} {e : ℤ} {v : ℚ}
    (h : StandsFor em e v) :
    (em.roundedMantissa - 1 / 2) * 2 ^ e ≤ v ∧ v ≤ (em.roundedMantissa + 1 / 2) * 2 ^ e ∧
      (em.roundedMantissa % 2 = 1 → v < (em.roundedMantissa + 1 / 2) * 2 ^ e) := by
  obtain ⟨x, rfl, hx⟩ := h
  have hpower : (0 : ℚ) < 2 ^ e := by positivity
  simp only [mul_le_mul_iff_left₀ hpower, mul_lt_mul_iff_left₀ hpower]
  obtain ⟨m, r, s⟩ := em
  cases r <;> cases s <;>
    simp only [Leaves, ExtendedMantissa.roundedMantissa, ExtendedMantissa.accuracy,
      Accuracy.roundToNearestEven] at hx ⊢
  · subst hx
    refine ⟨?_, ?_, fun _ => ?_⟩ <;> linarith
  · obtain ⟨hlow, hhigh⟩ := hx
    refine ⟨?_, ?_, fun _ => ?_⟩ <;> linarith
  · subst hx
    rcases Nat.mod_two_eq_zero_or_one m with hm | hm
    · rw [hm, Nat.add_zero]
      exact ⟨by linarith, by linarith, fun hodd => absurd hodd (by omega)⟩
    · rw [hm]
      push_cast
      exact ⟨by linarith, by linarith, fun hodd => absurd hodd (by omega)⟩
  · obtain ⟨hlow, hhigh⟩ := hx
    push_cast
    refine ⟨?_, ?_, fun _ => ?_⟩ <;> linarith

/-- A number with `k` places before the point, shifted to the exponent of its first 53 bits. -/
theorem shift_bounds {em : ExtendedMantissa} {k : ℤ} {v : ℚ} (h : StandsFor em (k - 52) v)
    (hlow : 2 ^ k ≤ v) (hhigh : v < 2 ^ (k + 1)) :
    2 ^ 52 ≤ em.roundedMantissa ∧ em.roundedMantissa ≤ 2 ^ 53 := by
  have hpower : (0 : ℚ) < 2 ^ (k - 52) := by positivity
  have hleast : (2 : ℚ) ^ k = 2 ^ 52 * 2 ^ (k - 52) := by
    rw [← zpow_natCast, ← zpow_add₀ two_ne_zero]
    congr 1
    omega
  have hmost : (2 : ℚ) ^ (k + 1) = 2 ^ 53 * 2 ^ (k - 52) := by
    rw [← zpow_natCast, ← zpow_add₀ two_ne_zero]
    congr 1
    omega
  obtain ⟨hbelow, habove, -⟩ := h.roundedMantissa_near
  rw [hleast] at hlow
  rw [hmost] at hhigh
  have hfirst : (2 : ℚ) ^ 52 ≤ em.roundedMantissa + 1 / 2 :=
    le_of_mul_le_mul_right (hlow.trans habove) hpower
  have hlast : (em.roundedMantissa : ℚ) - 1 / 2 < 2 ^ 53 :=
    lt_of_mul_lt_mul_right (hbelow.trans_lt hhigh) hpower.le
  constructor
  · have hsucc : (2 : ℚ) ^ 52 < em.roundedMantissa + 1 := by linarith
    exact Nat.lt_succ_iff.1 (by exact_mod_cast hsucc)
  · have hsucc : (em.roundedMantissa : ℚ) < 2 ^ 53 + 1 := by linarith
    exact Nat.lt_succ_iff.1 (by exact_mod_cast hsucc)

/-- The least number that is rounded to a power of two beyond the doubles. -/
def rangeEnd : ℚ := (2 ^ 53 - 1 / 2) * 2 ^ (971 : ℤ)

theorem le_rangeEnd {t : ℤ} (h : t ≤ 971) : (2 ^ 53 - 1 / 2) * 2 ^ t ≤ rangeEnd :=
  mul_le_mul_of_nonneg_left (zpow_le_zpow_right₀ one_le_two h) (by norm_num)

theorem rangeEnd_le {t : ℤ} (h : 971 ≤ t) : rangeEnd ≤ (2 ^ 53 - 1 / 2) * 2 ^ t :=
  mul_le_mul_of_nonneg_left (zpow_le_zpow_right₀ one_le_two h) (by norm_num)

/-- The end of the range lies between two powers of two. -/
theorem rangeEnd_bounds : (2 : ℚ) ^ (1023 : ℤ) < rangeEnd ∧ rangeEnd < 2 ^ (1024 : ℤ) := by
  have hpower : (0 : ℚ) < 2 ^ (971 : ℤ) := by positivity
  have hlow : (2 : ℚ) ^ (1023 : ℤ) = 2 ^ 52 * 2 ^ (971 : ℤ) := by
    rw [← zpow_natCast, ← zpow_add₀ two_ne_zero]
    rfl
  have hhigh : (2 : ℚ) ^ (1024 : ℤ) = 2 ^ 53 * 2 ^ (971 : ℤ) := by
    rw [← zpow_natCast, ← zpow_add₀ two_ne_zero]
    rfl
  rw [hlow, hhigh, rangeEnd]
  exact ⟨mul_lt_mul_of_pos_right (by norm_num) hpower, mul_lt_mul_of_pos_right (by norm_num) hpower⟩

/-- **The bits of a number, and the exponent they are rounded to**, which is out of range exactly
when the number is. -/
theorem roundWithAccuracy_whole {M : ℕ} {E : ℤ} (hM : 0 < M) (hlong : 52 ≤ M.log2)
    (hlarge : -1022 ≤ M.log2 + E) :
    ∃ m e hm, roundWithAccuracy Format.binary64 .positive M E .exact = .finite .positive m e hm ∧
      (e ≤ 971 ↔ (M : ℚ) * 2 ^ E < rangeEnd) := by
  have hself := standsFor_exact M E
  obtain ⟨hlow, hhigh⟩ := hself.log2_bounds (by rwa [mantissa_ofMantissaAndAccuracy])
  rw [mantissa_ofMantissaAndAccuracy] at hlow hhigh
  obtain ⟨hexponent, hshifted⟩ := hself.toTargetExponent (by omega)
  have htarget : max ((M.log2 : ℤ) + E - 52) (-1074) = M.log2 + E - 52 := by omega
  rw [htarget] at hexponent hshifted
  generalize hfirst : shiftToTargetExponent Format.binary64 M E .exact = first
    at hexponent hshifted
  generalize (M : ℚ) * 2 ^ E = v at *
  generalize (M.log2 : ℤ) + E = k at *
  obtain ⟨em, t⟩ := first
  obtain rfl : t = k - 52 := hexponent
  obtain ⟨hleast, hmost⟩ := shift_bounds hshifted hlow hhigh
  obtain ⟨hbelow, habove, hodd⟩ := hshifted.roundedMantissa_near
  rcases hmost.lt_or_eq with hlt | htop
  · have hpos : 0 < em.roundedMantissa := (Nat.two_pow_pos 52).trans_le hleast
    refine ⟨em.roundedMantissa, k - 52, hpos, roundWithAccuracy_of_shifts hpos hfirst
      (shiftToTargetExponent_eq hlt (by omega)), ?_⟩
    -- the largest mantissa is odd, so half-way above it is not rounded to it
    have hbound : v < (2 ^ 53 - 1 / 2) * 2 ^ (k - 52) := by
      have hpower : (0 : ℚ) < 2 ^ (k - 52) := by positivity
      rcases (Nat.lt_succ_iff.1 hlt : em.roundedMantissa ≤ 2 ^ 53 - 1).lt_or_eq with hless | hlast
      · have hless' : (em.roundedMantissa : ℚ) + 1 / 2 < 2 ^ 53 - 1 / 2 := by
          have hcast : (em.roundedMantissa : ℚ) + 1 < 2 ^ 53 := by
            exact_mod_cast Nat.lt_sub_iff_add_lt.1 hless
          linarith
        exact habove.trans_lt (mul_lt_mul_of_pos_right hless' hpower)
      · have hstrict := hodd (by rw [hlast]; norm_num)
        rw [hlast] at hstrict
        refine hstrict.trans_eq ?_
        norm_num
    constructor
    · exact fun hrange => hbound.trans_le (le_rangeEnd hrange)
    · intro hv
      by_contra hrange
      have hpower : (2 : ℚ) ^ (1024 : ℤ) ≤ 2 ^ k := zpow_le_zpow_right₀ one_le_two (by omega)
      exact absurd hv (not_lt.2 (rangeEnd_bounds.2.le.trans (hpower.trans hlow)))
  · refine ⟨2 ^ 52, k - 52 + 1, Nat.two_pow_pos 52, roundWithAccuracy_of_shifts _ hfirst ?_, ?_⟩
    · rw [htop]
      exact shiftToTargetExponent_top (by omega)
    · constructor
      · intro hrange
        have hpower : (2 : ℚ) ^ (k + 1) ≤ 2 ^ (1023 : ℤ) :=
          zpow_le_zpow_right₀ one_le_two (by omega)
        exact hhigh.trans (hpower.trans_lt rangeEnd_bounds.1)
      · intro hv
        by_contra hrange
        have hbeyond : rangeEnd ≤ (2 ^ 53 - 1 / 2) * 2 ^ (k - 52) := rangeEnd_le (by omega)
        rw [htop] at hbelow
        push_cast at hbelow
        exact absurd hv (not_lt.2 (hbeyond.trans hbelow))

/-! ## 3. The range -/

theorem rangeEnd_eq : rangeEnd = (2 ^ 1024 - 2 ^ 970 : ℕ) := by
  have hle : (2 : ℕ) ^ 970 ≤ 2 ^ 1024 := pow_le_pow_right₀ one_le_two (by decide)
  have htop : (2 : ℚ) ^ 1024 = 2 ^ 53 * 2 ^ 971 := by rw [← pow_add]
  have hhalf : (2 : ℚ) ^ 971 = 2 * 2 ^ 970 := by rw [← pow_succ']
  have hpower : (2 : ℚ) ^ (971 : ℤ) = 2 ^ 971 := zpow_ofNat 2 971
  have hrange : rangeEnd = 2 ^ 1024 - 2 ^ 970 := by
    rw [rangeEnd, hpower, htop, hhalf]
    generalize (2 : ℚ) ^ 970 = x
    ring
  rw [hrange, Nat.cast_sub hle, Nat.cast_pow, Nat.cast_pow, Nat.cast_ofNat]

/-- **A whole number is in range below half-way between the largest double and the next power of
two.** -/
theorem isFinite_ofScaled_iff (n : ℕ) :
    isFinite (ofScaled n 0) = true ↔ n < 2 ^ 1024 - 2 ^ 970 := by
  rcases Nat.eq_zero_or_pos n with rfl | hn
  · refine iff_of_true rfl (Nat.sub_pos_of_lt ?_)
    exact pow_lt_pow_right₀ one_lt_two (by decide)
  · have hM : 0 < n <<< 53 * 10 ^ 0 := by
      rw [Nat.shiftLeft_eq]
      positivity
    have hlog : 53 ≤ (n <<< 53 * 10 ^ 0).log2 := by
      refine (Nat.le_log2 hM.ne').2 ?_
      rw [Nat.shiftLeft_eq]
      omega
    have hleast : ¬ (0 : ℤ) < -(2 ^ 11 + (n.log2 : ℤ)) := by omega
    obtain ⟨m, e, hm, hround, hrange⟩ :=
      roundWithAccuracy_whole (E := -53 + 0) hM (by omega) (by omega)
    have hscientific :
        UnpackedFloat.ofScientific Format.binary64 n 0 = .finite .positive m e hm := by
      unfold UnpackedFloat.ofScientific
      rw [dif_neg hn.ne', if_neg (by decide), if_neg hleast, if_pos le_rfl]
      exact hround
    have hvalue : ((n <<< 53 * 10 ^ 0 : ℕ) : ℚ) * 2 ^ (-53 + 0 : ℤ) = n := by
      rw [Nat.shiftLeft_eq]
      push_cast
      norm_num
      ring
    have hmodel := toModel_ofScaled n 0
    rw [hscientific] at hmodel
    rw [isFinite_pack_iff hmodel, hrange, hvalue, rangeEnd_eq]
    exact Nat.cast_lt

/-- A sign does not matter to the range. -/
theorem isFinite_neg (x : Float) : isFinite (-x) = isFinite x := by
  obtain ⟨f⟩ := x
  have hneg : -(⟨f⟩ : Float) = ⟨Float.Model.pack f.unpack.neg⟩ := rfl
  have hback : (⟨f⟩ : Float) = ⟨Float.Model.pack f.unpack⟩ := by rw [pack_unpack]
  rw [hneg, hback]
  cases f.unpack with
  | notANumber => rfl
  | infinity s => cases s <;> rfl
  | zero s => cases s <;> rfl
  | finite s m e hm =>
    exact Bool.eq_iff_iff.2 ((isFinite_pack_iff rfl).trans (isFinite_pack_iff rfl).symm)

/-- **An integer is out of the range of the doubles** exactly when it is as far from zero as
that. -/
theorem ofInt?_eq_none_iff (n : ℤ) : ofInt? n = none ↔ 2 ^ 1024 - 2 ^ 970 ≤ n.natAbs := by
  have hsign : isFinite (ofInt n) = isFinite (ofScaled n.natAbs 0) := by
    rw [ofInt, withSign]
    split
    · exact isFinite_neg _
    · rfl
  rw [ofInt?, ite_eq_right_iff, ← not_lt, ← isFinite_ofScaled_iff, ← hsign]
  simp

end Realty.Double
