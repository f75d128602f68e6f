/-
# The text of a double tells its value

* `written` reads the number that digits with a point and a power of ten write.
* `Writes` is the parts that texts of doubles have, and the decimals that they write.
* `writes_magnitudeText`: the text of a positive double writes its shortest decimal.
* `IsMagnitude` is what tells the text of a double from that of a whole number.
* `textChars_injective`: two finite doubles with one text are equal.
-/
import Realty.Proofs.Double.Shortest
import Realty.Proofs.Text.Digits
import Mathlib.Tactic.Ring

namespace Realty.Double

open Shortest (decimal)
open Text

/-! ## 1. Reading -/

/-- The power of ten at the end of a text. -/
def exponentValue : List Char → Int
  | 'e' :: '-' :: r => -(digitsValue r : Int)
  | 'e' :: '+' :: r => digitsValue r
  | _ => 0

/-- The digits before the point, and those after it. -/
def wholePart (mantissa : List Char) : List Char := mantissa.takeWhile (· != '.')

def fractionPart (mantissa : List Char) : List Char := (mantissa.dropWhile (· != '.')).drop 1

/-- The number that digits with a point and a power of ten write. -/
def written (cs : List Char) : ℚ :=
  let mantissa := cs.takeWhile (· != 'e')
  decimal (digitsValue (wholePart mantissa ++ fractionPart mantissa))
    (exponentValue (cs.dropWhile (· != 'e')) - (fractionPart mantissa).length)

/-- What follows the digits: nothing or a power of ten. -/
def IsTail (cs : List Char) : Prop := cs = [] ∨ ∃ r, cs = 'e' :: r

/-- A run of other characters is taken and dropped up to a character. -/
theorem takeWhile_ne_append {as r : List Char} {c : Char} (h : ∀ a ∈ as, a ≠ c) :
    (as ++ r).takeWhile (· != c) = as ++ r.takeWhile (· != c) ∧
      (as ++ r).dropWhile (· != c) = r.dropWhile (· != c) := by
  have hall : ∀ a ∈ as, (a != c) = true := fun a ha => bne_iff_ne.2 (h a ha)
  exact ⟨List.takeWhile_append_of_pos hall, List.dropWhile_append_of_pos hall⟩

/-- A mantissa without a power of ten is cut where the power begins. -/
theorem takeWhile_tail {as tail : List Char} (h : ∀ a ∈ as, a ≠ 'e') (htail : IsTail tail) :
    (as ++ tail).takeWhile (· != 'e') = as ∧ (as ++ tail).dropWhile (· != 'e') = tail := by
  obtain ⟨htake, hdrop⟩ := takeWhile_ne_append (r := tail) h
  rw [htake, hdrop]
  rcases htail with rfl | ⟨r, rfl⟩ <;> simp

theorem parts_point {whole : List Char} (hwhole : AreDigits whole) (fraction : List Char) :
    wholePart (whole ++ '.' :: fraction) = whole ∧
      fractionPart (whole ++ '.' :: fraction) = fraction := by
  obtain ⟨htake, hdrop⟩ := takeWhile_ne_append (r := '.' :: fraction)
    fun a ha => hwhole.ne ha (d := '.') rfl
  rw [wholePart, fractionPart, htake, hdrop]
  exact ⟨List.append_nil whole, rfl⟩

theorem parts_whole {whole : List Char} (hwhole : AreDigits whole) :
    wholePart whole = whole ∧ fractionPart whole = [] := by
  obtain ⟨htake, hdrop⟩ := takeWhile_ne_append (r := []) fun a ha => hwhole.ne ha (d := '.') rfl
  rw [List.append_nil] at htake hdrop
  rw [wholePart, fractionPart, htake, hdrop]
  exact ⟨List.append_nil whole, rfl⟩

/-- A text is read from its mantissa and its power of ten. -/
theorem written_append {mantissa tail : List Char} (h : ∀ a ∈ mantissa, a ≠ 'e')
    (htail : IsTail tail) :
    written (mantissa ++ tail) =
      decimal (digitsValue (wholePart mantissa ++ fractionPart mantissa))
        (exponentValue tail - (fractionPart mantissa).length) := by
  obtain ⟨htake, hdrop⟩ := takeWhile_tail h htail
  simp only [written, htake, hdrop]

/-- **Digits with a point are read as all their digits**, scaled by those after the point. -/
theorem written_point {whole fraction tail : List Char} (hwhole : AreDigits whole)
    (hfraction : AreDigits fraction) (htail : IsTail tail) :
    written (whole ++ '.' :: fraction ++ tail) =
      decimal (digitsValue (whole ++ fraction)) (exponentValue tail - fraction.length) := by
  have hmantissa : ∀ a ∈ whole ++ '.' :: fraction, a ≠ 'e' := by
    intro a ha
    rcases List.mem_append.1 ha with ha | ha
    · exact hwhole.ne ha rfl
    · rcases List.mem_cons.1 ha with rfl | ha
      · decide
      · exact hfraction.ne ha rfl
  obtain ⟨hpoint, hrest⟩ := parts_point hwhole fraction
  rw [written_append hmantissa htail, hpoint, hrest]

/-- Digits without a point. -/
theorem written_whole {whole tail : List Char} (hwhole : AreDigits whole) (htail : IsTail tail) :
    written (whole ++ tail) = decimal (digitsValue whole) (exponentValue tail) := by
  obtain ⟨hpoint, hrest⟩ := parts_whole hwhole
  rw [written_append (fun a ha => hwhole.ne ha rfl) htail, hpoint, hrest, List.append_nil,
    List.length_nil, Int.natCast_zero, Int.sub_zero]

/-! ## 2. The text of a decimal -/

@[simp] theorem exponentValue_nil : exponentValue [] = 0 := rfl

theorem exponentText_isTail (e : Int) : IsTail (exponentText e) := Or.inr ⟨_, rfl⟩

theorem exponentValue_exponentText (e : Int) : exponentValue (exponentText e) = e := by
  have hdigits : digitsValue (padZeros 2 (natDigits e.natAbs)) = e.natAbs := by
    rw [padZeros, digitsValue_zeros_append, digitsValue_natDigits]
  unfold exponentText
  split
  · simp only [exponentValue, hdigits]
    omega
  · simp only [exponentValue, hdigits]
    omega

/-- Zeros at the end scale a decimal. -/
theorem decimal_zeros (d k : Nat) (p : Int) : decimal (10 ^ k * d) p = decimal d (p + k) := by
  simp only [decimal]
  rw [zpow_add₀ (by norm_num), zpow_natCast]
  push_cast
  ring

/-- What may stand behind the digits: nothing, or a power of ten. -/
def IsPower (tail : List Char) : Prop := tail = [] ∨ ∃ k, tail = exponentText k

theorem IsPower.isTail {tail : List Char} (h : IsPower tail) : IsTail tail := by
  rcases h with rfl | ⟨k, rfl⟩
  · exact Or.inl rfl
  · exact exponentText_isTail k

/-- The texts of doubles without their signs, part by part, and the decimals that they write: digits
on both sides of a point with at most a power of ten behind them, or digits with a power of ten. -/
inductive Writes : List Char → ℚ → Prop
  | point {whole fraction tail : List Char} (hwhole : AreDigits whole) (hne : whole ≠ [])
      (hfraction : AreDigits fraction) (htail : IsPower tail) :
      Writes (whole ++ '.' :: fraction ++ tail)
        (decimal (digitsValue (whole ++ fraction)) (exponentValue tail - fraction.length))
  | whole {whole : List Char} (hwhole : AreDigits whole) (hne : whole ≠ []) (k : Int) :
      Writes (whole ++ exponentText k) (decimal (digitsValue whole) k)

theorem Writes.written_eq {cs : List Char} {v : ℚ} (h : Writes cs v) : written cs = v := by
  cases h with
  | point hwhole hne hfraction htail => exact written_point hwhole hfraction htail.isTail
  | whole hwhole hne k =>
    rw [written_whole hwhole (exponentText_isTail k), exponentValue_exponentText]

/-- Digits on both sides of a point with nothing behind them. -/
theorem writes_fraction {whole fraction : List Char} {v : ℚ} (hwhole : AreDigits whole)
    (hne : whole ≠ []) (hfraction : AreDigits fraction)
    (hvalue : decimal (digitsValue (whole ++ fraction)) (-fraction.length) = v) :
    Writes (whole ++ '.' :: fraction) v := by
  have h := Writes.point hwhole hne hfraction (Or.inl rfl)
  rw [exponentValue_nil, Int.zero_sub, hvalue, List.append_nil] at h
  exact h

theorem writes_positional {ds : List Char} (hds : AreDigits ds) (hne : ds ≠ []) (point : Int) :
    Writes (positional ds point) (decimal (digitsValue ds) (point - ds.length)) := by
  simp only [positional]
  split
  · next hpoint =>
    have hvalue : decimal
        (digitsValue (List.replicate 1 '0' ++ (List.replicate (-point).toNat '0' ++ ds)))
        (-(List.replicate (-point).toNat '0' ++ ds).length) =
          decimal (digitsValue ds) (point - ds.length) := by
      rw [digitsValue_zeros_append, digitsValue_zeros_append, List.length_append,
        List.length_replicate]
      congr 1
      omega
    exact writes_fraction (areDigits_zeros 1) (List.cons_ne_nil _ _)
      ((areDigits_zeros (-point).toNat).append hds) hvalue
  · next hpoint =>
    split
    · next hlong =>
      have hvalue : decimal
          (digitsValue
            (ds ++ List.replicate (point.toNat - ds.length) '0' ++ List.replicate 1 '0'))
          (-(List.replicate 1 '0').length) = decimal (digitsValue ds) (point - ds.length) := by
        rw [List.append_assoc, List.replicate_append_replicate, digitsValue_append_zeros,
          decimal_zeros, List.length_replicate]
        congr 1
        omega
      exact writes_fraction (hds.append (areDigits_zeros (point.toNat - ds.length)))
        (List.append_ne_nil_of_left_ne_nil hne _) (areDigits_zeros 1) hvalue
    · next hshort =>
      have htake : ds.take point.toNat ≠ [] := by
        intro hnil
        rcases List.take_eq_nil_iff.1 hnil with hzero | hnil
        · omega
        · exact hne hnil
      refine writes_fraction (hds.take _) htake (hds.drop _) ?_
      rw [List.take_append_drop, List.length_drop]
      congr 1
      omega

theorem writes_scientific {ds : List Char} (hds : AreDigits ds) (hne : ds ≠ []) (point : Int) :
    Writes (scientific ds point) (decimal (digitsValue ds) (point - ds.length)) := by
  match ds with
  | [] => exact absurd rfl hne
  | [d] => exact .whole hds hne (point - 1)
  | d :: c :: r =>
    have hhead : AreDigits [d] := fun a ha => hds a (by simp_all)
    have htail : AreDigits (c :: r) := fun a ha => hds a (List.mem_cons_of_mem d ha)
    have h := Writes.point hhead (List.cons_ne_nil _ _) htail (Or.inr ⟨point - 1, rfl⟩)
    have hpower : point - 1 - (c :: r).length = point - (d :: c :: r).length := by
      rw [List.length_cons (a := d)]
      omega
    rw [exponentValue_exponentText, hpower] at h
    exact h

/-- **The text of a positive double writes its shortest decimal.** -/
theorem writes_magnitudeText (m : Nat) (e : Int) :
    Writes (magnitudeText m e) (decimal (Shortest.digits m e).1 (Shortest.digits m e).2) := by
  have hds := areDigits_natDigits (Shortest.digits m e).1
  have hne := natDigits_ne_nil (Shortest.digits m e).1
  have hpoint : ∀ n p : Int, n + p - n = p := by omega
  simp only [magnitudeText]
  split
  · have h := writes_positional hds hne
      ((natDigits (Shortest.digits m e).1).length + (Shortest.digits m e).2)
    rwa [digitsValue_natDigits, hpoint] at h
  · have h := writes_scientific hds hne
      ((natDigits (Shortest.digits m e).1).length + (Shortest.digits m e).2)
    rwa [digitsValue_natDigits, hpoint] at h

/-! ## 3. The shape of a text -/

/-- Whether a character stands in the text of a finite double. -/
def isFloatChar (c : Char) : Bool := c.isDigit || c == '.' || c == 'e' || c == '+' || c == '-'

/-- The text of a double without its sign: it starts with a digit, and a point or a power of ten
tells it from a whole number. -/
structure IsMagnitude (cs : List Char) : Prop where
  startsWithDigit : ∃ c r, cs = c :: r ∧ c.isDigit = true
  chars : ∀ c ∈ cs, isFloatChar c = true
  marked : '.' ∈ cs ∨ 'e' ∈ cs

theorem isFloatChar_of_isDigit {c : Char} (h : c.isDigit = true) : isFloatChar c = true := by
  simp [isFloatChar, h]

theorem exponentText_chars (e : Int) : ∀ c ∈ exponentText e, isFloatChar c = true := by
  intro c hc
  rcases List.mem_cons.1 hc with rfl | hc
  · rfl
  · rcases List.mem_cons.1 hc with rfl | hc
    · split <;> rfl
    · have hdigits := (areDigits_zeros (2 - (natDigits e.natAbs).length)).append
        (areDigits_natDigits e.natAbs)
      exact isFloatChar_of_isDigit (hdigits c hc)

/-- What is made of digits with a point or a power of ten is told from a whole number. -/
theorem Writes.isMagnitude {cs : List Char} {v : ℚ} (h : Writes cs v) : IsMagnitude cs := by
  cases h with
  | @point whole fraction tail hwhole hne hfraction htail =>
    have hchars : ∀ c ∈ tail, isFloatChar c = true := by
      rcases htail with rfl | ⟨k, rfl⟩
      · simp
      · exact exponentText_chars k
    refine ⟨?_, fun c hc => ?_, Or.inl (by simp)⟩
    · rw [List.append_assoc]
      exact hwhole.startsWithDigit hne
    · rcases List.mem_append.1 hc with hc | hc
      · rcases List.mem_append.1 hc with hc | hc
        · exact isFloatChar_of_isDigit (hwhole c hc)
        · rcases List.mem_cons.1 hc with rfl | hc
          · rfl
          · exact isFloatChar_of_isDigit (hfraction c hc)
      · exact hchars c hc
  | whole hwhole hne k =>
    refine ⟨hwhole.startsWithDigit hne, fun c hc => ?_,
      Or.inr (List.mem_append_right _ List.mem_cons_self)⟩
    rcases List.mem_append.1 hc with hc | hc
    · exact isFloatChar_of_isDigit (hwhole c hc)
    · exact exponentText_chars k c hc

theorem signed_chars {cs : List Char} (h : ∀ c ∈ cs, isFloatChar c = true) (negative : Bool) :
    ∀ c ∈ (if negative then ['-'] else []) ++ cs, isFloatChar c = true := by
  intro c hc
  rcases List.mem_append.1 hc with hc | hc
  · cases negative with
    | false => cases hc
    | true =>
      obtain rfl := List.mem_singleton.1 hc
      rfl
  · exact h c hc

theorem IsMagnitude.signed_chars {cs : List Char} (h : IsMagnitude cs) (negative : Bool) :
    ∀ c ∈ (if negative then ['-'] else []) ++ cs, isFloatChar c = true :=
  Double.signed_chars h.chars negative

/-! ## 4. Doubles with one text -/

/-- The text of a finite double without its sign. -/
def unsigned (m : Nat) (e : Int) : List Char := if m = 0 then "0.0".toList else magnitudeText m e

theorem writes_zero (e : Int) : Writes (unsigned 0 e) 0 := by
  have hvalue : decimal (digitsValue (List.replicate 1 '0' ++ List.replicate 1 '0'))
      (-(List.replicate 1 '0').length) = 0 := by
    have hzero : digitsValue (List.replicate 1 '0' ++ List.replicate 1 '0') = 0 := rfl
    rw [hzero, decimal, Nat.cast_zero, zero_mul]
  have htext : unsigned 0 e = List.replicate 1 '0' ++ '.' :: List.replicate 1 '0' := rfl
  rw [htext]
  exact writes_fraction (areDigits_zeros 1) (List.cons_ne_nil _ _) (areDigits_zeros 1) hvalue

theorem writes_unsigned {m : Nat} (hm : m ≠ 0) (e : Int) :
    Writes (unsigned m e) (decimal (Shortest.digits m e).1 (Shortest.digits m e).2) := by
  rw [unsigned, if_neg hm]
  exact writes_magnitudeText m e

theorem isMagnitude_unsigned (m : Nat) (e : Int) : IsMagnitude (unsigned m e) := by
  by_cases hm : m = 0
  · rw [hm]
    exact (writes_zero e).isMagnitude
  · exact (writes_unsigned hm e).isMagnitude

/-- The least real that rounds to a positive double is positive. -/
theorem lower_pos {m : Nat} {e : Int} (h : 0 < m) : 0 < Shortest.lower m e := by
  have hreach : Shortest.reach m e ≤ 2 := by
    unfold Shortest.reach
    split <;> omega
  have hnumber : 0 < 4 * m - Shortest.reach m e := by omega
  exact mul_pos (by exact_mod_cast hnumber) (by positivity)

theorem digits_pos {m : Nat} {e : Int} (h : IsCanonical m e) :
    0 < decimal (Shortest.digits m e).1 (Shortest.digits m e).2 :=
  (lower_pos h.1).trans_le (Shortest.bounds_of_contains (Shortest.digits_contains h)).1

/-- **Magnitudes with one text are equal.** -/
theorem unsigned_injective {m n : Nat} {e f : Int} (hm : (m = 0 ∧ e = 0) ∨ IsCanonical m e)
    (hn : (n = 0 ∧ f = 0) ∨ IsCanonical n f) (h : unsigned m e = unsigned n f) :
    m = n ∧ e = f := by
  have hread {k : Nat} {g : Int} (hk : IsCanonical k g) := (writes_unsigned hk.1.ne' g).written_eq
  have hzero := (writes_zero 0).written_eq
  rcases hm with ⟨rfl, rfl⟩ | hm <;> rcases hn with ⟨rfl, rfl⟩ | hn
  · exact ⟨rfl, rfl⟩
  · rw [h, hread hn] at hzero
    exact absurd hzero (digits_pos hn).ne'
  · rw [← h, hread hm] at hzero
    exact absurd hzero (digits_pos hm).ne'
  · refine Shortest.eq_of_digits hm hn ?_
    rw [← hread hm, ← hread hn, h]

/-- A sign before texts that start with a digit is told from no sign. -/
theorem sign_append_injective {s t : Bool} {as bs : List Char} (ha : IsMagnitude as)
    (hb : IsMagnitude bs)
    (h : (if s then ['-'] else []) ++ as = (if t then ['-'] else []) ++ bs) : s = t ∧ as = bs := by
  obtain ⟨c, r, rfl, hc⟩ := ha.startsWithDigit
  obtain ⟨d, q, rfl, hd⟩ := hb.startsWithDigit
  cases s <;> cases t <;> simp at h ⊢
  · exact h
  · rw [h.1] at hc
    cases hc
  · rw [← h.1] at hd
    cases hd
  · exact h

theorem decode_of_isFinite {x : Float} (h : isFinite x = true) :
    ∃ negative m e, decode x = .finite negative m e := by
  unfold isFinite at h
  split at h
  · next negative m e hm => exact ⟨negative, m, e, hm⟩
  · cases h

theorem textChars_finite {x : Float} {negative : Bool} {m : Nat} {e : Int}
    (h : decode x = .finite negative m e) :
    textChars x = (if negative then ['-'] else []) ++ unsigned m e := by
  rw [textChars, h]
  rfl

/-- The text of a finite double holds digits, points, signs and the mark of a power of ten. -/
theorem textChars_chars {x : Float} (h : isFinite x = true) :
    ∀ c ∈ textChars x, isFloatChar c = true := by
  obtain ⟨negative, m, e, hdecode⟩ := decode_of_isFinite h
  rw [textChars_finite hdecode]
  exact (isMagnitude_unsigned m e).signed_chars negative

theorem textChars_ne_nil {x : Float} (h : isFinite x = true) : textChars x ≠ [] := by
  obtain ⟨negative, m, e, hdecode⟩ := decode_of_isFinite h
  obtain ⟨c, r, hbody, -⟩ := (isMagnitude_unsigned m e).startsWithDigit
  rw [textChars_finite hdecode, hbody]
  exact List.append_ne_nil_of_right_ne_nil _ (List.cons_ne_nil c r)

/-- **Finite doubles with one text are equal.** -/
theorem textChars_injective {x y : Float} (hx : isFinite x = true) (hy : isFinite y = true)
    (h : textChars x = textChars y) : x = y := by
  obtain ⟨s, m, e, hm⟩ := decode_of_isFinite hx
  obtain ⟨t, n, f, hn⟩ := decode_of_isFinite hy
  rw [textChars_finite hm, textChars_finite hn] at h
  obtain ⟨rfl, hbody⟩ :=
    sign_append_injective (isMagnitude_unsigned m e) (isMagnitude_unsigned n f) h
  obtain ⟨rfl, rfl⟩ := unsigned_injective (decode_finite hm) (decode_finite hn) hbody
  exact decode_injective (hm.trans hn.symm)

end Realty.Double
