/-
# The shortest text tells doubles apart

* `digits_contains`: the search for digits always ends on a decimal that rounds to the double.
* `eq_of_contains`: no decimal rounds to two doubles.
* `eq_of_digits`: so two doubles with one shortest decimal are equal.
-/
import Realty.Double.Shortest
import Realty.Proofs.Double.Decode
import Mathlib.Algebra.Order.Field.Power
import Mathlib.Algebra.Order.Field.Rat
import Mathlib.Tactic.Linarith
import Mathlib.Tactic.Positivity
import Mathlib.Tactic.FieldSimp

namespace Realty.Double.Shortest

/-! ## 1. The search ends in the interval -/

theorem contains_of_neighbour? {v : Interval} {p : Int} {d : Nat} (h : v.neighbour? p = some d) :
    v.contains d p = true := by
  simp only [Interval.neighbour?] at h
  split at h
  · next hlow _ =>
    cases h
    exact hlow
  · next _ hhigh =>
    cases h
    exact hhigh
  · cases h
  · next hlow hhigh =>
    split at h
    · cases h
      exact hlow
    · cases h
      exact hhigh

/-- A hit on the last grid of a search puts its result into the interval. -/
theorem search_contains {v : Interval} (fuel : Nat) (p : Int)
    (h : ∃ d, v.neighbour? (p - fuel) = some d ∧ d ≠ 0) :
    v.contains (search v (fuel + 1) p).1 (search v (fuel + 1) p).2 = true := by
  induction fuel generalizing p with
  | zero =>
    obtain ⟨d, hd, hne⟩ := h
    rw [Int.natCast_zero, Int.sub_zero] at hd
    rw [search, hd]
    simp only [if_neg hne]
    exact contains_of_neighbour? hd
  | succ fuel ih =>
    have hnext : ∃ d, v.neighbour? (p - 1 - fuel) = some d ∧ d ≠ 0 := by
      obtain ⟨d, hd, hne⟩ := h
      refine ⟨d, ?_, hne⟩
      rw [← hd]
      congr 1
      omega
    rw [search]
    cases hd : v.neighbour? p with
    | none => exact ih (p - 1) hnext
    | some d =>
      by_cases hne : d = 0
      · simp only [if_pos hne]
        exact ih (p - 1) hnext
      · simp only [if_neg hne]
        exact contains_of_neighbour? hd

/-- A grid that is finer than the interval above the value has a point in it. -/
theorem neighbour?_of_fine {v : Interval} {p : Int} (hlow : v.low ≤ v.value)
    (hstep : 0 < Nat.pow 10 p.toNat * v.den)
    (hvalue : Nat.pow 10 p.toNat * v.den ≤ v.value * Nat.pow 10 (-p).toNat)
    (hfine : v.value * Nat.pow 10 (-p).toNat + Nat.pow 10 p.toNat * v.den <
      v.high * Nat.pow 10 (-p).toNat) :
    ∃ d, v.neighbour? p = some d ∧ d ≠ 0 := by
  generalize hunit : Nat.pow 10 (-p).toNat = unit at *
  generalize hgrid : Nat.pow 10 p.toNat * v.den = step at *
  have hd : 1 ≤ v.value * unit / step := (Nat.one_le_div_iff hstep).2 hvalue
  have habove : v.contains (v.value * unit / step + 1) p = true := by
    have hfloor : v.value * unit / step * step ≤ v.value * unit := Nat.div_mul_le_self _ _
    have hnext : v.value * unit < (v.value * unit / step + 1) * step := by
      have := Nat.lt_div_mul_add hstep (a := v.value * unit)
      rw [Nat.add_mul, Nat.one_mul]
      exact this
    have hpoint : (v.value * unit / step + 1) * Nat.pow 10 p.toNat * v.den =
        (v.value * unit / step + 1) * step := by rw [Nat.mul_assoc, hgrid]
    have hlower : v.low * unit ≤ v.value * unit := Nat.mul_le_mul_right _ hlow
    have hupper : (v.value * unit / step + 1) * step ≤ v.value * unit + step := by
      rw [Nat.add_mul, Nat.one_mul]
      omega
    simp only [Interval.contains, hunit, hpoint]
    split <;> simp only [Bool.and_eq_true, decide_eq_true_eq] <;> omega
  simp only [Interval.neighbour?, hunit, hgrid]
  cases hbelow : v.contains (v.value * unit / step) p with
  | false =>
    rw [habove]
    exact ⟨_, rfl, by omega⟩
  | true =>
    rw [habove]
    dsimp only
    split
    · exact ⟨_, rfl, by omega⟩
    · exact ⟨_, rfl, by omega⟩

/-! ## 2. The last grid is fine enough -/

/-- The power of ten of the last grid, for a mantissa of so many bits after the first. -/
def lastGrid (log : Nat) (e : Int) : Int := (log + 1 + e) * 30103 / 100000 + 1 - 19

/-- Whether the last grid is finer than half the distance of doubles with this exponent. -/
def isFine (log : Nat) (e : Int) : Bool :=
  Nat.pow 10 (lastGrid log e).toNat * Nat.pow 2 (2 - e).toNat <
    2 * Nat.pow 2 (e - 2).toNat * Nat.pow 10 (-lastGrid log e).toNat

/-- It is for all doubles: the mantissa is long unless the exponent is the least one. -/
theorem isFine_long {k : Nat} (h : k < 2046) : isFine 52 ((k : Int) - 1074) = true := by
  have hall : ((List.range 2046).all fun k : Nat => isFine 52 ((k : Int) - 1074)) = true := by
    decide +kernel
  exact List.all_eq_true.1 hall k (List.mem_range.2 h)

theorem isFine_short : ∀ log < 53, isFine log (-1074) = true := by decide +kernel

theorem isFine_of_isCanonical {m : Nat} {e : Int} (h : IsCanonical m e) :
    isFine (Nat.log2 m) e = true := by
  obtain ⟨hpos, hlt, hlow, hhigh, hlong⟩ := h
  have hne : m ≠ 0 := by omega
  by_cases he : e = -1074
  · rw [he]
    exact isFine_short _ ((Nat.log2_lt hne).2 hlt)
  · have hlog : Nat.log2 m = 52 := (Nat.log2_eq_iff hne).2 ⟨hlong he, hlt⟩
    have hk := isFine_long (show (e + 1074).toNat < 2046 by omega)
    have hcast : (((e + 1074).toNat : Nat) : Int) - 1074 = e := by omega
    rw [hlog, ← hcast]
    exact hk

/-- **The digits found round to the double.** -/
theorem digits_contains {m : Nat} {e : Int} (h : IsCanonical m e) :
    (interval m e).contains (digits m e).1 (digits m e).2 = true := by
  have hfine := isFine_of_isCanonical h
  obtain ⟨hpos, -⟩ := h
  simp only [isFine, decide_eq_true_eq] at hfine
  refine search_contains 19 (magnitude m e) ?_
  show ∃ d, (interval m e).neighbour? (lastGrid (Nat.log2 m) e) = some d ∧ d ≠ 0
  generalize lastGrid (Nat.log2 m) e = p at hfine
  generalize hscale : Nat.pow 2 (e - 2).toNat = scale at hfine
  generalize hunit : Nat.pow 10 (-p).toNat = unit at hfine
  have hvalue : (interval m e).value * unit = 4 * m * (scale * unit) := by
    rw [← hscale, ← Nat.mul_assoc]
    rfl
  have hhigh : (interval m e).high * unit = 4 * m * (scale * unit) + 2 * scale * unit := by
    rw [Nat.mul_assoc 2, ← Nat.add_mul, ← Nat.mul_assoc, ← hscale]
    rfl
  have hhalf : 2 * scale * unit ≤ 4 * m * (scale * unit) := by
    rw [Nat.mul_assoc]
    exact Nat.mul_le_mul_right _ (by omega)
  have hstep : 0 < Nat.pow 10 p.toNat * (interval m e).den :=
    Nat.mul_pos (Nat.pow_pos (by decide)) (Nat.pow_pos (by decide))
  have hgrid : Nat.pow 10 p.toNat * (interval m e).den < 2 * scale * unit := hfine
  refine neighbour?_of_fine ?_ hstep ?_ ?_
  · exact Nat.mul_le_mul_right _ (Nat.sub_le _ _)
  · rw [hunit, hvalue]
    omega
  · rw [hunit, hvalue, hhigh]
    omega

/-! ## 3. Intervals as sets of rationals -/

/-- The decimal `d · 10 ^ p`. -/
def decimal (d : Nat) (p : Int) : ℚ := d * 10 ^ p

/-- How far below the value the interval reaches, in quarters of the last place. -/
def reach (m : Nat) (e : Int) : Nat := if m = 2 ^ 52 ∧ e > -1074 then 1 else 2

/-- The least real that may round to the value, and the greatest. -/
def lower (m : Nat) (e : Int) : ℚ := (4 * m - reach m e : Nat) * 2 ^ (e - 2)

def upper (m : Nat) (e : Int) : ℚ := (4 * m + 2 : Nat) * 2 ^ (e - 2)

/-- An integral power as a quotient of natural ones. -/
theorem zpow_eq_div (b : ℚ) (p : Int) : b ^ p = b ^ p.toNat / b ^ (-p).toNat := by
  rcases le_total 0 p with hp | hp
  · have hneg : (-p).toNat = 0 := by omega
    rw [hneg, pow_zero, div_one, ← zpow_natCast, Int.toNat_of_nonneg hp]
  · have hpos : p.toNat = 0 := by omega
    rw [hpos, pow_zero, one_div, ← zpow_natCast, Int.toNat_of_nonneg (by omega), zpow_neg, inv_inv]

/-- The comparison with a decimal, without denominators. -/
theorem le_decimal_iff (a d : Nat) (e p : Int) :
    (a : ℚ) * 2 ^ e ≤ decimal d p ↔
      a * Nat.pow 2 e.toNat * Nat.pow 10 (-p).toNat ≤
        d * Nat.pow 10 p.toNat * Nat.pow 2 (-e).toNat := by
  have htwo : (0 : ℚ) < 2 ^ (-e).toNat := by positivity
  have hten : (0 : ℚ) < 10 ^ (-p).toNat := by positivity
  rw [decimal, zpow_eq_div 2, zpow_eq_div 10, ← mul_div_assoc, ← mul_div_assoc,
    div_le_div_iff₀ htwo hten]
  exact_mod_cast Iff.rfl

theorem decimal_le_iff (a d : Nat) (e p : Int) :
    decimal d p ≤ (a : ℚ) * 2 ^ e ↔
      d * Nat.pow 10 p.toNat * Nat.pow 2 (-e).toNat ≤
        a * Nat.pow 2 e.toNat * Nat.pow 10 (-p).toNat := by
  have htwo : (0 : ℚ) < 2 ^ (-e).toNat := by positivity
  have hten : (0 : ℚ) < 10 ^ (-p).toNat := by positivity
  rw [decimal, zpow_eq_div 2, zpow_eq_div 10, ← mul_div_assoc, ← mul_div_assoc,
    div_le_div_iff₀ hten htwo]
  exact_mod_cast Iff.rfl

/-- What the interval contains lies between its ends, and inside when the mantissa is odd. -/
theorem bounds_of_contains {m : Nat} {e : Int} {d : Nat} {p : Int}
    (h : (interval m e).contains d p = true) :
    lower m e ≤ decimal d p ∧ decimal d p ≤ upper m e ∧
      (m % 2 = 1 → lower m e < decimal d p ∧ decimal d p < upper m e) := by
  have hden : -(e - 2) = 2 - e := by omega
  have hreach : (if m = 0x10000000000000 && e > -1074 then 1 else 2) = reach m e := by
    simp [reach]
  simp only [Interval.contains, interval, hreach] at h
  simp only [lower, upper, ← not_le, le_decimal_iff, decimal_le_iff, hden]
  split at h
  · next heven =>
    simp only [Bool.and_eq_true, decide_eq_true_eq] at h
    refine ⟨h.1, h.2, fun hodd => ?_⟩
    rw [beq_iff_eq] at heven
    omega
  · simp only [Bool.and_eq_true, decide_eq_true_eq] at h
    exact ⟨h.1.le, h.2.le, fun _ => ⟨not_le.2 h.1, not_le.2 h.2⟩⟩

/-- Multiples of powers of two are compared as multiples of the smaller power. -/
theorem scaled_lt_iff {e f : Int} (h : e ≤ f) (a b : Nat) :
    ((a : ℚ) * 2 ^ (e - 2) < b * 2 ^ (f - 2) ↔ a < b * 2 ^ (f - e).toNat) ∧
      ((a : ℚ) * 2 ^ (e - 2) ≤ b * 2 ^ (f - 2) ↔ a ≤ b * 2 ^ (f - e).toNat) := by
  have hpos : (0 : ℚ) < 2 ^ (e - 2) := by positivity
  have hexponent : f - 2 = ((f - e).toNat : Int) + (e - 2) := by omega
  have hpower : (2 : ℚ) ^ (f - 2) = 2 ^ (f - e).toNat * 2 ^ (e - 2) := by
    rw [hexponent, zpow_add₀ two_ne_zero, zpow_natCast]
  rw [hpower, ← mul_assoc, mul_lt_mul_iff_left₀ hpos, mul_le_mul_iff_left₀ hpos]
  exact ⟨by exact_mod_cast Iff.rfl, by exact_mod_cast Iff.rfl⟩

/-- **The intervals of different doubles are apart**, or touch where one of them is open. -/
theorem upper_le_lower {m n : Nat} {e f : Int} (hm : IsCanonical m e) (hn : IsCanonical n f)
    (h : e < f ∨ (e = f ∧ m < n)) :
    upper m e ≤ lower n f ∧ (m % 2 = 1 ∨ n % 2 = 1 ∨ upper m e < lower n f) := by
  obtain ⟨hmpos, hmlt, helow, hehigh, hmlong⟩ := hm
  obtain ⟨hnpos, hnlt, hflow, hfhigh, hnlong⟩ := hn
  have hle : e ≤ f := by omega
  simp only [upper, lower, (scaled_lt_iff hle _ _).1, (scaled_lt_iff hle _ _).2]
  rcases h with hlt | ⟨rfl, hlt⟩
  · -- the later mantissa is long, so twice its lower end is beyond every mantissa of the earlier
    have hlong : 2 ^ 52 ≤ n := hnlong (by omega)
    have hpower : 2 ≤ 2 ^ (f - e).toNat :=
      Nat.le_self_pow (by omega) 2
    have htwice : (4 * n - reach n f) * 2 ≤ (4 * n - reach n f) * 2 ^ (f - e).toNat :=
      Nat.mul_le_mul_left _ hpower
    by_cases hpowerOfTwo : n = 2 ^ 52
    · have hreach : reach n f = 1 := if_pos ⟨hpowerOfTwo, by omega⟩
      omega
    · have hreach : reach n f = 2 := if_neg (by tauto)
      omega
  · have hreach : reach n e = 2 := by
      refine if_neg ?_
      rintro ⟨rfl, he⟩
      have := hmlong (by omega)
      omega
    have hsame : (e - e).toNat = 0 := by omega
    rw [hreach, hsame, pow_zero, Nat.mul_one]
    omega

/-- A decimal that rounds to one double does not round to a later one. -/
theorem not_contains_both {m n : Nat} {e f : Int} (hm : IsCanonical m e) (hn : IsCanonical n f)
    {d c : Nat} {p q : Int} (hd : (interval m e).contains d p = true)
    (hc : (interval n f).contains c q = true) (h : decimal d p = decimal c q) :
    ¬ (e < f ∨ (e = f ∧ m < n)) := by
  intro horder
  obtain ⟨-, hupper, hmopen⟩ := bounds_of_contains hd
  obtain ⟨hlower, -, hnopen⟩ := bounds_of_contains hc
  obtain ⟨hle, hodd | hodd | hlt⟩ := upper_le_lower hm hn horder
  · have := (hmopen hodd).2
    linarith
  · have := (hnopen hodd).1
    linarith
  · linarith

/-- **No decimal rounds to two doubles.** -/
theorem eq_of_contains {m n : Nat} {e f : Int} (hm : IsCanonical m e) (hn : IsCanonical n f)
    {d c : Nat} {p q : Int} (hd : (interval m e).contains d p = true)
    (hc : (interval n f).contains c q = true) (h : decimal d p = decimal c q) :
    m = n ∧ e = f := by
  have hbefore := not_contains_both hm hn hd hc h
  have hafter := not_contains_both hn hm hc hd h.symm
  omega

/-- **Two doubles with one shortest decimal are equal.** -/
theorem eq_of_digits {m n : Nat} {e f : Int} (hm : IsCanonical m e) (hn : IsCanonical n f)
    (h : decimal (digits m e).1 (digits m e).2 = decimal (digits n f).1 (digits n f).2) :
    m = n ∧ e = f :=
  eq_of_contains hm hn (digits_contains hm) (digits_contains hn) h

end Realty.Double.Shortest
