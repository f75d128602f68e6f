/-
# Doubles taken apart

* `decode_eq` gives the exact value of a double from its bits: a sign, an exponent and a fraction.
* `IsCanonical` is the mantissas and exponents that doubles have, each value once.
* `decode_injective`: a double is determined by what it stands for.
-/
import Realty.Double.Basic
import Mathlib

namespace Realty.Double

open Float.Model Float.Model.UnpackedFloat

/-! ## 1. Bits -/

/-- The bits of a double as a number. -/
def bits (x : Float) : Nat := x.toBits.toNat

/-- The fraction in the bits. -/
def fraction (n : Nat) : Nat := n % 2 ^ 52

/-- The exponent in the bits. -/
def biased (n : Nat) : Nat := n / 2 ^ 52 % 2 ^ 11

/-- The sign in the bits. -/
def signBit (n : Nat) : Bool := n / 2 ^ 63 == 1

theorem bits_lt (x : Float) : bits x < 2 ^ 64 := x.toBits.toNat_lt

theorem bits_injective {x y : Float} (h : bits x = bits y) : x = y := by
  obtain ⟨⟨a, ha⟩⟩ := x
  obtain ⟨⟨b, hb⟩⟩ := y
  have hab : a = b := UInt64.toNat.inj h
  subst hab
  rfl

theorem toNat_mantissa (x : Float) :
    (@unpackMantissa Format.binary64 x.toBits.toBitVec).toNat = fraction (bits x) := by
  simp [unpackMantissa, fraction, bits]

theorem toNat_exponent (x : Float) :
    (@unpackExponent Format.binary64 x.toBits.toBitVec).toNat = biased (bits x) := by
  simp [unpackExponent, biased, bits, Nat.shiftRight_eq_div_pow]

theorem isNegative_sign (x : Float) :
    isNegative (Sign.ofBitVec (@unpackSign Format.binary64 x.toBits.toBitVec)) =
      signBit (bits x) := by
  have hlt := bits_lt x
  have hbits : (@unpackSign Format.binary64 x.toBits.toBitVec).toNat = bits x / 2 ^ 63 := by
    have hbit : bits x / 2 ^ 63 < 2 := by omega
    simp only [bits] at hbit
    simp [unpackSign, bits, Nat.shiftRight_eq_div_pow]
    omega
  rw [Sign.ofBitVec, signBit]
  split
  · next h =>
    rw [h] at hbits
    have hzero : bits x / 2 ^ 63 = 0 := hbits.symm
    rw [hzero]
    rfl
  · next h =>
    have hne : (@unpackSign Format.binary64 x.toBits.toBitVec).toNat ≠ 0 :=
      fun hzero => h (BitVec.eq_of_toNat_eq hzero)
    have hone : bits x / 2 ^ 63 = 1 := by omega
    rw [hone]
    rfl

/-- The leading bit of a normal double is not stored. -/
theorem toNat_withImplicit (m : BitVec 52) : (1#1 ++ m).toNat = 2 ^ 52 + m.toNat := by
  rw [BitVec.toNat_append, ← Nat.shiftLeft_add_eq_or_of_lt m.isLt]
  rfl

/-- What a double stands for, by its bits. -/
theorem decode_eq (x : Float) :
    decode x =
      if biased (bits x) = 2047 then
        if fraction (bits x) = 0 then .infinity (signBit (bits x)) else .nan
      else if biased (bits x) = 0 then
        if fraction (bits x) = 0 then .finite (signBit (bits x)) 0 0
        else .finite (signBit (bits x)) (fraction (bits x)) (-1074)
      else .finite (signBit (bits x)) (2 ^ 52 + fraction (bits x)) (biased (bits x) - 1075) := by
  have hmantissa := toNat_mantissa x
  have hexponent := toNat_exponent x
  have hsign := isNegative_sign x
  have htop : @unpackExponent Format.binary64 x.toBits.toBitVec = -1#_ ↔
      biased (bits x) = 2047 := by
    rw [← BitVec.toNat_inj, hexponent]
    rfl
  have hbottom : @unpackExponent Format.binary64 x.toBits.toBitVec = 0#_ ↔
      biased (bits x) = 0 := by
    rw [← BitVec.toNat_inj, hexponent]
    rfl
  have hzero : @unpackMantissa Format.binary64 x.toBits.toBitVec = 0#_ ↔
      fraction (bits x) = 0 := by
    rw [← BitVec.toNat_inj, hmantissa]
    rfl
  unfold decode UnpackedFloat.unpack
  by_cases hb : biased (bits x) = 2047
  · by_cases hf : fraction (bits x) = 0
    · rw [if_pos (htop.2 hb), if_pos (hzero.2 hf), if_pos hb, if_pos hf]
      exact congrArg Decoded.infinity hsign
    · rw [if_pos (htop.2 hb), if_neg (hzero.not.2 hf), if_pos hb, if_neg hf]
  · rw [if_neg (htop.not.2 hb), if_neg hb]
    by_cases hlow : biased (bits x) = 0
    · rw [if_pos (hbottom.2 hlow), if_pos hlow]
      by_cases hf : fraction (bits x) = 0
      · rw [dif_pos (hzero.2 hf), if_pos hf]
        exact congrArg (Decoded.finite · 0 0) hsign
      · rw [dif_neg (hzero.not.2 hf), if_neg hf]
        show Decoded.finite (isNegative _) (BitVec.toNat _) ((BitVec.toNat _ : Int) - _ + 1) = _
        rw [hsign, hmantissa, hexponent, hlow]
        rfl
    · rw [if_neg (hbottom.not.2 hlow), if_neg hlow]
      show Decoded.finite (isNegative _) (BitVec.toNat _) ((BitVec.toNat _ : Int) - _) = _
      rw [hsign, toNat_withImplicit, hmantissa, hexponent]
      rfl

/-! ## 2. Values -/

/-- The mantissas and exponents of positive doubles: a mantissa is long, unless the exponent is the
least one. -/
def IsCanonical (m : Nat) (e : Int) : Prop :=
  0 < m ∧ m < 2 ^ 53 ∧ -1074 ≤ e ∧ e ≤ 971 ∧ (e ≠ -1074 → 2 ^ 52 ≤ m)

/-- What is finite is zero or has a canonical mantissa and exponent. -/
theorem decode_finite {x : Float} {negative : Bool} {m : Nat} {e : Int}
    (h : decode x = .finite negative m e) : (m = 0 ∧ e = 0) ∨ IsCanonical m e := by
  rw [decode_eq] at h
  have hfraction : fraction (bits x) < 2 ^ 52 := Nat.mod_lt _ (by decide)
  have hbiased : biased (bits x) < 2 ^ 11 := Nat.mod_lt _ (by decide)
  split at h
  · split at h <;> cases h
  · split at h
    · split at h
      · cases h
        exact Or.inl ⟨rfl, rfl⟩
      · cases h
        exact Or.inr ⟨by omega, by omega, by omega, by omega, by omega⟩
    · cases h
      exact Or.inr ⟨by omega, by omega, by omega, by omega, by omega⟩

/-! ## 3. Bits from values -/

/-- The sign in its place. -/
def signPart (negative : Bool) : Nat := if negative then 2 ^ 63 else 0

/-- The bits of what a double stands for. -/
def bitsOf : Decoded → Nat
  | .nan => 2047 * 2 ^ 52 + 2 ^ 51
  | .infinity negative => signPart negative + 2047 * 2 ^ 52
  | .finite negative m e =>
    signPart negative + if m < 2 ^ 52 then m else (e + 1075).toNat * 2 ^ 52 + (m - 2 ^ 52)

theorem bits_eq_parts (x : Float) :
    bits x = signPart (signBit (bits x)) + (biased (bits x) * 2 ^ 52 + fraction (bits x)) := by
  have hlt := bits_lt x
  simp only [signPart, signBit, biased, fraction, beq_iff_eq]
  split <;> omega

/-- There is one double that is not a number. -/
theorem bits_of_nan {x : Float} (hb : biased (bits x) = 2047) (hf : fraction (bits x) ≠ 0) :
    bits x = 2047 * 2 ^ 52 + 2 ^ 51 := by
  have htop : @unpackExponent Format.binary64 x.toBits.toBitVec = -1#_ := by
    rw [← BitVec.toNat_inj, toNat_exponent, hb]
    rfl
  have hnonzero : @unpackMantissa Format.binary64 x.toBits.toBitVec ≠ 0#_ := by
    intro hzero
    rw [← BitVec.toNat_inj, toNat_mantissa] at hzero
    exact hf hzero
  have hvalid := x.toModel.valid.eq_packedNaN htop hnonzero
  exact congrArg BitVec.toNat hvalid

/-- **The bits of a double follow from what it stands for.** -/
theorem bits_eq_bitsOf (x : Float) : bits x = bitsOf (decode x) := by
  have hfraction : fraction (bits x) < 2 ^ 52 := Nat.mod_lt _ (by decide)
  have hparts := bits_eq_parts x
  rw [decode_eq]
  split
  · next hb =>
    split
    · next hf =>
      rw [bitsOf]
      omega
    · next hf => exact bits_of_nan hb hf
  · split
    · next hlow =>
      split
      · next hf =>
        rw [bitsOf, if_pos (Nat.two_pow_pos 52)]
        omega
      · next hf =>
        rw [bitsOf, if_pos hfraction]
        omega
    · next hlow =>
      have hlong : ¬ 2 ^ 52 + fraction (bits x) < 2 ^ 52 := by omega
      have hexponent : ((biased (bits x) : Int) - 1075 + 1075).toNat = biased (bits x) := by omega
      rw [bitsOf, if_neg hlong, hexponent, Nat.add_sub_cancel_left]
      exact hparts

/-- **A double is determined by what it stands for.** -/
theorem decode_injective {x y : Float} (h : decode x = decode y) : x = y := by
  refine bits_injective ?_
  rw [bits_eq_bitsOf x, bits_eq_bitsOf y, h]

end Realty.Double
