/-
# Doubles compared

* `eq_of_value_eq`: a number is the value of one mantissa and exponent only.
* `beq_iff_toRat?`: so finite doubles are equal exactly when their values are.  The two zeros are
  equal, and no other two doubles are.
* `isFinite_of_le`: what lies between finite doubles is finite.
-/
import Mathlib
import Realty.Proofs.Double.Reading

namespace Realty.Double

open Float.Model Float.Model.UnpackedFloat
open Shortest (lower upper)

/-! ## 1. Values -/

/-- The value of a mantissa and exponent, with a sign. -/
def value (negative : Bool) (m : Nat) (e : Int) : ℚ := Text.signed negative m * 2 ^ e

theorem toRat?_eq {x : Float} {negative : Bool} {m : Nat} {e : Int}
    (h : decode x = .finite negative m e) : toRat? x = some (value negative m e) := by
  rw [toRat?, h]
  refine congrArg some ?_
  split
  · next he =>
    have hpower : (2 : ℚ) ^ e = (2 ^ e.toNat : Nat) := by
      rw [Nat.cast_pow, ← zpow_natCast, Int.toNat_of_nonneg he]
      rfl
    rw [value, hpower, Nat.pow_eq]
    push_cast
    rfl
  · next he =>
    have hpower : (2 : ℚ) ^ e = ((2 ^ (-e).toNat : Nat) : ℚ)⁻¹ := by
      rw [Nat.cast_pow, ← zpow_natCast, Int.toNat_of_nonneg (by omega), zpow_neg, inv_inv]
      rfl
    rw [value, hpower, Rat.mkRat_eq_div, div_eq_mul_inv, Nat.pow_eq]

/-- A value lies within its interval. -/
theorem lower_le_value (m : Nat) (e : Int) : lower m e ≤ m * 2 ^ e := by
  have hpower : (0 : ℚ) < 2 ^ (e - 2) := by positivity
  have hless : ((4 * m - Shortest.reach m e : Nat) : ℚ) ≤ 4 * m := by
    exact_mod_cast Nat.sub_le (4 * m) _
  rw [lower, zpow_quarter e]
  calc _ ≤ 4 * m * (2 : ℚ) ^ (e - 2) := mul_le_mul_of_nonneg_right hless hpower.le
    _ = _ := by ring

theorem value_lt_upper (m : Nat) (e : Int) : m * (2 : ℚ) ^ e < upper m e := by
  rw [upper_eq]
  exact mul_lt_mul_of_pos_right (by linarith) (by positivity)

/-- **Mantissas and exponents are in the order of their values**, the exponents first. -/
theorem value_lt {m n : Nat} {e f : Int} (hm : IsCanonical m e) (hn : IsCanonical n f)
    (horder : e < f ∨ (e = f ∧ m < n)) : (m : ℚ) * 2 ^ e < n * 2 ^ f :=
  (value_lt_upper m e).trans_le
    ((Shortest.upper_le_lower hm hn horder).1.trans (lower_le_value n f))

/-- **A number is the value of one mantissa and exponent only.** -/
theorem eq_of_value_eq {m n : Nat} {e f : Int} (hm : IsCanonical m e) (hn : IsCanonical n f)
    (h : (m : ℚ) * 2 ^ e = n * 2 ^ f) : m = n ∧ e = f := by
  by_contra hne
  rcases lt_trichotomy e f with hlt | rfl | hlt
  · exact (value_lt hm hn (.inl hlt)).ne h
  · rcases lt_trichotomy m n with hlt | rfl | hlt
    · exact (value_lt hm hn (.inr ⟨rfl, hlt⟩)).ne h
    · exact hne ⟨rfl, rfl⟩
    · exact (value_lt hn hm (.inr ⟨rfl, hlt⟩)).ne h.symm
  · exact (value_lt hn hm (.inl hlt)).ne h.symm

theorem value_zero (negative : Bool) : value negative 0 0 = 0 := by
  cases negative <;> simp [value, Text.signed]

theorem value_ne_zero {m : Nat} {e : Int} (hm : 0 < m) (negative : Bool) :
    value negative m e ≠ 0 := by
  have hmantissa : (m : ℚ) ≠ 0 := by exact_mod_cast hm.ne'
  have hpower : (2 : ℚ) ^ e ≠ 0 := by positivity
  cases negative <;> simp [value, Text.signed, hmantissa, hpower]

/-- The sign is that of the value. -/
theorem value_eq_iff {s t : Sign} {m n : Nat} {e f : Int} (hm : IsCanonical m e)
    (hn : IsCanonical n f) :
    value (isNegative s) m e = value (isNegative t) n f ↔ s = t ∧ m = n ∧ e = f := by
  have hmPos : (0 : ℚ) < m * 2 ^ e := mul_pos (by exact_mod_cast hm.1) (by positivity)
  have hnPos : (0 : ℚ) < n * 2 ^ f := mul_pos (by exact_mod_cast hn.1) (by positivity)
  constructor
  · intro h
    cases s <;> cases t <;>
      simp only [value, Text.signed, isNegative, Bool.false_eq_true, if_true, if_false,
        Int.cast_neg, Int.cast_natCast, neg_mul] at h
    · exact ⟨rfl, eq_of_value_eq hm hn (neg_injective h)⟩
    · linarith
    · linarith
    · exact ⟨rfl, eq_of_value_eq hm hn h⟩
  · rintro ⟨rfl, rfl, rfl⟩
    rfl

/-! ## 2. Equality -/

theorem beq_iff_unpack {x y : Float} :
    (x == y) = true ↔ x.toModel.unpack ≠ .notANumber ∧ y.toModel.unpack ≠ .notANumber ∧
      (x.toModel.unpack = y.toModel.unpack ∨
        x.toModel.unpack = .zero .positive ∧ y.toModel.unpack = .zero .negative ∨
        x.toModel.unpack = .zero .negative ∧ y.toModel.unpack = .zero .positive) :=
  beq_iff_ne_notANumber_and_eq x.toModel.unpack y.toModel.unpack

/-- **Finite doubles are equal when their values are.** -/
theorem beq_iff_toRat? {x y : Float} (hx : isFinite x = true) (hy : isFinite y = true) :
    (x == y) = true ↔ toRat? x = toRat? y := by
  obtain ⟨_, m, e, hm⟩ := decode_of_isFinite hx
  obtain ⟨_, n, f, hn⟩ := decode_of_isFinite hy
  rw [toRat?_eq hm, toRat?_eq hn, Option.some_inj, beq_iff_unpack]
  obtain ⟨s, rfl, ⟨rfl, rfl, hs⟩ | ⟨hmPos, hs⟩⟩ := unpack_of_decode hm <;>
    obtain ⟨t, rfl, ⟨rfl, rfl, ht⟩ | ⟨hnPos, ht⟩⟩ := unpack_of_decode hn <;>
    rw [hs, ht]
  · rw [value_zero, value_zero]
    cases s <;> cases t <;> simp
  · rw [value_zero]
    simpa using (value_ne_zero hnPos (isNegative t)).symm
  · rw [value_zero]
    simpa using value_ne_zero hmPos (isNegative s)
  · have hmCanonical := (decode_finite hm).resolve_left fun h => hmPos.ne' h.1
    have hnCanonical := (decode_finite hn).resolve_left fun h => hnPos.ne' h.1
    rw [value_eq_iff hmCanonical hnCanonical]
    simp

/-! ## 3. Order -/

theorem le_iff_unpack {x y : Float} :
    x ≤ y ↔ x.toModel.unpack.le y.toModel.unpack = true := by
  show decide (x.toModel ≤ y.toModel) = true ↔ _
  rw [decide_eq_true_iff]
  rfl

/-- **What lies between finite doubles is finite.** -/
theorem isFinite_of_le {a x b : Float} (ha : isFinite a = true) (hb : isFinite b = true)
    (hax : a ≤ x) (hxb : x ≤ b) : isFinite x = true := by
  obtain ⟨_, k, d, hk⟩ := decode_of_isFinite ha
  obtain ⟨_, n, f, hn⟩ := decode_of_isFinite hb
  obtain ⟨r, -, hr⟩ := unpack_of_decode hk
  obtain ⟨t, -, ht⟩ := unpack_of_decode hn
  have hunpack : UnpackedFloat.unpack .binary64 x.toBits.toBitVec = x.toModel.unpack := rfl
  rw [le_iff_unpack] at hax hxb
  rw [isFinite, decode, hunpack]
  cases hx : x.toModel.unpack with
  | zero s => rfl
  | finite s m e hm => rfl
  | notANumber =>
    rw [hx] at hxb
    cases hxb
  | infinity s =>
    rw [hx] at hax hxb
    cases s with
    | positive =>
      obtain ⟨-, -, ht⟩ | ⟨hpos, ht⟩ := ht <;> rw [ht] at hxb <;> cases hxb
    | negative =>
      obtain ⟨-, -, hr⟩ | ⟨hpos, hr⟩ := hr <;> rw [hr] at hax <;> cases r <;> cases hax

end Realty.Double
