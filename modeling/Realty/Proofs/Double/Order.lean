/-
# Doubles in order

* `compare_unpack`: finite doubles are compared as their values are; `le_iff_value` is what that
  says of the order.
* `truncate?_eq`: a double is cut to the whole number that is nearest on the side of zero, and
  `towardZero_mono`: cutting keeps the order.
-/
import Mathlib
import Realty.Proofs.Double.Comparison

namespace Realty.Double

open Float.Model Float.Model.UnpackedFloat

/-! ## 1. Comparing -/

/-- Magnitudes are compared by their exponents first. -/
theorem compare_magnitude {m n : Nat} {e f : Int} (hm : IsCanonical m e) (hn : IsCanonical n f) :
    (compare e f).then (compare m n) = compare ((m : ℚ) * 2 ^ e) (n * 2 ^ f) := by
  rcases lt_trichotomy e f with hlt | rfl | hlt
  · rw [compare_lt_iff_lt.2 hlt, compare_lt_iff_lt.2 (value_lt hm hn (.inl hlt))]
    rfl
  · rw [compare_eq_iff_eq.2 rfl]
    rcases lt_trichotomy m n with hlt | rfl | hlt
    · rw [compare_lt_iff_lt.2 hlt, compare_lt_iff_lt.2 (value_lt hm hn (.inr ⟨rfl, hlt⟩))]
      rfl
    · rw [compare_eq_iff_eq.2 rfl, compare_eq_iff_eq.2 rfl]
      rfl
    · rw [compare_gt_iff_gt.2 hlt, compare_gt_iff_gt.2 (value_lt hn hm (.inr ⟨rfl, hlt⟩))]
      rfl
  · rw [compare_gt_iff_gt.2 hlt, compare_gt_iff_gt.2 (value_lt hn hm (.inl hlt))]
    rfl

theorem compare_neg (a b : ℚ) : compare (-a) (-b) = (compare a b).swap := by
  rcases lt_trichotomy a b with hlt | rfl | hlt
  · rw [compare_lt_iff_lt.2 hlt, compare_gt_iff_gt.2 (neg_lt_neg hlt)]
    rfl
  · rw [compare_eq_iff_eq.2 rfl, compare_eq_iff_eq.2 rfl]
    rfl
  · rw [compare_gt_iff_gt.2 hlt, compare_lt_iff_lt.2 (neg_lt_neg hlt)]
    rfl

theorem value_negative (m : Nat) (e : Int) : value true m e = -(m * 2 ^ e) := by
  rw [value, Text.signed, if_pos rfl]
  push_cast
  ring

theorem value_positive (m : Nat) (e : Int) : value false m e = m * 2 ^ e := by
  rw [value, Text.signed, if_neg Bool.false_ne_true]
  push_cast
  rfl

/-- **Finite doubles are compared as their values are.** -/
theorem compare_unpack {x y : Float} {s t : Bool} {m n : Nat} {e f : Int}
    (hx : decode x = .finite s m e) (hy : decode y = .finite t n f) :
    x.toModel.unpack.compare y.toModel.unpack = some (compare (value s m e) (value t n f)) := by
  have hpos {k : Nat} (hk : 0 < k) (g : Int) : (0 : ℚ) < k * 2 ^ g :=
    mul_pos (by exact_mod_cast hk) (by positivity)
  have hneg {k : Nat} (hk : 0 < k) (g : Int) : -((k : ℚ) * 2 ^ g) < 0 := neg_neg_of_pos (hpos hk g)
  have hxc := decode_finite hx
  have hyc := decode_finite hy
  obtain ⟨s, rfl, ⟨rfl, rfl, hs⟩ | ⟨hm, hs⟩⟩ := unpack_of_decode hx <;>
    obtain ⟨t, rfl, ⟨rfl, rfl, ht⟩ | ⟨hn, ht⟩⟩ := unpack_of_decode hy <;>
    rw [hs, ht]
  · rw [value_zero, value_zero, compare_eq_iff_eq.2 rfl]
    cases s <;> cases t <;> rfl
  · rw [value_zero]
    cases t with
    | positive =>
      rw [isNegative, value_positive, compare_lt_iff_lt.2 (hpos hn f)]
      cases s <;> rfl
    | negative =>
      rw [isNegative, value_negative, compare_gt_iff_gt.2 (hneg hn f)]
      cases s <;> rfl
  · rw [value_zero]
    cases s with
    | positive =>
      rw [isNegative, value_positive, compare_gt_iff_gt.2 (hpos hm e)]
      cases t <;> rfl
    | negative =>
      rw [isNegative, value_negative, compare_lt_iff_lt.2 (hneg hm e)]
      cases t <;> rfl
  · have hmagnitude := compare_magnitude (hxc.resolve_left fun h => hm.ne' h.1)
      (hyc.resolve_left fun h => hn.ne' h.1)
    cases s with
    | positive =>
      cases t with
      | positive =>
        rw [isNegative, value_positive, value_positive, ← hmagnitude]
        rfl
      | negative =>
        rw [isNegative, isNegative, value_positive, value_negative,
          compare_gt_iff_gt.2 ((hneg hn f).trans (hpos hm e))]
        rfl
    | negative =>
      cases t with
      | positive =>
        rw [isNegative, isNegative, value_positive, value_negative,
          compare_lt_iff_lt.2 ((hneg hm e).trans (hpos hn f))]
        rfl
      | negative =>
        rw [isNegative, value_negative, value_negative, compare_neg, ← hmagnitude]
        rfl

/-- **Finite doubles are in the order of their values.** -/
theorem le_iff_value {x y : Float} {s t : Bool} {m n : Nat} {e f : Int}
    (hx : decode x = .finite s m e) (hy : decode y = .finite t n f) :
    x ≤ y ↔ value s m e ≤ value t n f := by
  rw [le_iff_unpack, UnpackedFloat.le, compare_unpack hx hy, Option.any_some, ← compare_le_iff_le]
  cases compare (value s m e) (value t n f) <;> decide

/-! ## 2. Cutting toward zero -/

/-- A number cut to the whole number that is nearest on the side of zero. -/
def towardZero (q : ℚ) : ℤ := if q < 0 then ⌈q⌉ else ⌊q⌋

/-- **Cutting toward zero keeps the order.** -/
theorem towardZero_mono {p q : ℚ} (h : p ≤ q) : towardZero p ≤ towardZero q := by
  unfold towardZero
  by_cases hp : p < 0
  · by_cases hq : q < 0
    · rw [if_pos hp, if_pos hq]
      exact Int.ceil_mono h
    · -- what is cut is on either side of zero
      rw [if_pos hp, if_neg hq]
      exact (Int.ceil_le.2 (by exact_mod_cast hp.le)).trans (Int.floor_nonneg.2 (not_lt.1 hq))
  · have hq : ¬ q < 0 := fun hq => hp (h.trans_lt hq)
    rw [if_neg hp, if_neg hq]
    exact Int.floor_mono h

theorem towardZero_neg {q : ℚ} (h : 0 ≤ q) : towardZero (-q) = -⌊q⌋ := by
  unfold towardZero
  split
  · exact Int.ceil_neg
  · next hq =>
    obtain rfl : q = 0 := le_antisymm (neg_nonneg.1 (not_lt.1 hq)) h
    simp

/-- A magnitude is cut to its whole part. -/
theorem truncateScaled_eq (m : Nat) (e : Int) : (truncateScaled m e : ℤ) = ⌊(m : ℚ) * 2 ^ e⌋ := by
  unfold truncateScaled
  split
  · next he =>
    have hpower : (2 : ℚ) ^ e = (2 ^ e.toNat : ℕ) := by
      rw [Nat.cast_pow, ← zpow_natCast, Int.toNat_of_nonneg he]
      rfl
    rw [hpower, ← Nat.cast_mul, Int.floor_natCast]
    rfl
  · next he =>
    have hpower : (2 : ℚ) ^ e = ((2 ^ (-e).toNat : ℕ) : ℚ)⁻¹ := by
      rw [Nat.cast_pow, ← zpow_natCast, Int.toNat_of_nonneg (by omega), zpow_neg, inv_inv]
      rfl
    rw [hpower, ← div_eq_mul_inv]
    exact (Rat.floor_natCast_div_natCast m _).symm

/-- **A finite double is cut toward zero.** -/
theorem truncate?_eq {x : Float} {s : Bool} {m : Nat} {e : Int} (h : decode x = .finite s m e) :
    truncate? x = some (towardZero (value s m e)) := by
  have hmagnitude : (0 : ℚ) ≤ m * 2 ^ e := by positivity
  rw [truncate?, h]
  cases s with
  | false =>
    rw [value_positive, towardZero, if_neg (not_lt.2 hmagnitude), ← truncateScaled_eq]
    rfl
  | true =>
    rw [value_negative, towardZero_neg hmagnitude, ← truncateScaled_eq]
    rfl

end Realty.Double
