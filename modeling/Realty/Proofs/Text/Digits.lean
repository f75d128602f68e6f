/-
# Digits tell the number

* `AreDigits` is the texts of digits alone, and `digitsValue` is what they write.
* `digitsValue_natDigits`: the digits of a number write it.  `digitsValue_lt`: how large a number
  digits can write.
* `intDigits_injective`: two integers with one text are equal.
-/
import Realty.Text.Digit
import Mathlib.Algebra.Group.Nat.Defs

namespace Realty.Text

/-! ## 1. Texts of digits -/

/-- Whether every character is a digit. -/
def AreDigits (cs : List Char) : Prop := ∀ c ∈ cs, c.isDigit = true

/-- The number that digits write. -/
def digitsValue (cs : List Char) : Nat := Nat.ofDigitChars 10 cs 0

theorem AreDigits.ne {cs : List Char} (h : AreDigits cs) {c d : Char} (hc : c ∈ cs)
    (hd : d.isDigit = false) : c ≠ d := by
  rintro rfl
  rw [h c hc] at hd
  cases hd

theorem AreDigits.append {as bs : List Char} (ha : AreDigits as) (hb : AreDigits bs) :
    AreDigits (as ++ bs) := by
  intro c hc
  rcases List.mem_append.1 hc with hc | hc
  · exact ha c hc
  · exact hb c hc

theorem AreDigits.take {cs : List Char} (h : AreDigits cs) (k : Nat) : AreDigits (cs.take k) :=
  fun c hc => h c (List.mem_of_mem_take hc)

theorem AreDigits.drop {cs : List Char} (h : AreDigits cs) (k : Nat) : AreDigits (cs.drop k) :=
  fun c hc => h c (List.mem_of_mem_drop hc)

theorem AreDigits.startsWithDigit {cs r : List Char} (h : AreDigits cs) (hne : cs ≠ []) :
    ∃ c t, cs ++ r = c :: t ∧ c.isDigit = true := by
  cases cs with
  | nil => exact absurd rfl hne
  | cons c t => exact ⟨c, t ++ r, rfl, h c List.mem_cons_self⟩

theorem areDigits_natDigits (n : Nat) : AreDigits (natDigits n) :=
  fun _ hc => Nat.isDigit_of_mem_toDigits (by decide) (by decide) hc

theorem areDigits_zeros (n : Nat) : AreDigits (List.replicate n '0') := by
  intro c hc
  rw [List.eq_of_mem_replicate hc]
  rfl

theorem natDigits_ne_nil (n : Nat) : natDigits n ≠ [] := Nat.toDigits_ne_nil

/-! ## 2. What digits write -/

theorem digitsValue_natDigits (n : Nat) : digitsValue (natDigits n) = n :=
  Nat.ofDigitChars_ten_toDigits

/-- Reading digit by digit gives the number that they write. -/
theorem ofDigits_map (cs : List Char) :
    ofDigits (cs.map fun c => c.toNat - 48) = digitsValue cs := by
  rw [ofDigits, List.foldl_map]
  rfl

theorem digitsValue_zeros_append (n : Nat) (cs : List Char) :
    digitsValue (List.replicate n '0' ++ cs) = digitsValue cs := by
  rw [digitsValue, Nat.ofDigitChars_append, Nat.ofDigitChars_replicate_zero, Nat.mul_zero]
  rfl

theorem digitsValue_append_zeros (cs : List Char) (n : Nat) :
    digitsValue (cs ++ List.replicate n '0') = 10 ^ n * digitsValue cs := by
  rw [digitsValue, Nat.ofDigitChars_append, Nat.ofDigitChars_replicate_zero]
  rfl

/-- **Digits write a number below the power of ten for their count.** -/
theorem digitsValue_lt {cs : List Char} (h : AreDigits cs) :
    digitsValue cs < 10 ^ cs.length := by
  induction cs with
  | nil => decide
  | cons c cs ih =>
    have hrest := ih fun d hd => h d (List.mem_cons_of_mem c hd)
    have hdigit : c.toNat - '0'.toNat ≤ 9 := by
      have hc := h c List.mem_cons_self
      simp only [Char.isDigit, Bool.and_eq_true, decide_eq_true_eq] at hc
      have hle : c.toNat ≤ 57 := UInt32.le_iff_toNat_le.1 hc.2
      exact Nat.sub_le_of_le_add hle
    have hvalue : digitsValue (c :: cs) =
        10 ^ cs.length * (c.toNat - '0'.toNat) + digitsValue cs := by
      rw [digitsValue, Nat.ofDigitChars_cons, Nat.ofDigitChars_eq_ofDigitChars_zero, Nat.mul_zero,
        Nat.zero_add]
      rfl
    calc digitsValue (c :: cs) = 10 ^ cs.length * (c.toNat - '0'.toNat) + digitsValue cs := hvalue
      _ < 10 ^ cs.length * (c.toNat - '0'.toNat) + 10 ^ cs.length := Nat.add_lt_add_left hrest _
      _ = 10 ^ cs.length * (c.toNat - '0'.toNat + 1) := (Nat.mul_succ _ _).symm
      _ ≤ 10 ^ cs.length * 10 := Nat.mul_le_mul_left _ (Nat.succ_le_succ hdigit)
      _ = 10 ^ (c :: cs).length := (Nat.pow_succ ..).symm

theorem natDigits_injective {m n : Nat} (h : natDigits m = natDigits n) : m = n := by
  rw [← digitsValue_natDigits m, h, digitsValue_natDigits]

/-! ## 3. Integers -/

/-- The text of an integer starts with a digit or a minus sign. -/
theorem natDigits_ne_minus {n : Nat} {r : List Char} : natDigits n ≠ '-' :: r := by
  intro h
  refine (areDigits_natDigits n).ne (c := '-') (d := '-') ?_ rfl rfl
  rw [h]
  exact List.mem_cons_self

/-- **Two integers with one text are equal.** -/
theorem intDigits_injective {m n : Int} (h : intDigits m = intDigits n) : m = n := by
  cases m with
  | ofNat m =>
    cases n with
    | ofNat n => exact congrArg Int.ofNat (natDigits_injective h)
    | negSucc n => exact absurd h natDigits_ne_minus
  | negSucc m =>
    cases n with
    | ofNat n => exact absurd h.symm natDigits_ne_minus
    | negSucc n =>
      have hsucc := natDigits_injective (List.cons.inj h).2
      exact congrArg Int.negSucc (Nat.succ.inj hsucc)

/-- The text of an integer is that of its magnitude behind its sign. -/
theorem intDigits_eq (n : Int) :
    intDigits n = (if n < 0 then ['-'] else []) ++ natDigits n.natAbs := by
  cases n with
  | ofNat n =>
    have hsign : ¬ Int.ofNat n < 0 := Int.not_lt.2 (Int.natCast_nonneg n)
    rw [if_neg hsign]
    rfl
  | negSucc n =>
    rw [if_pos (Int.negSucc_lt_zero n)]
    rfl

/-- The text of an integer holds digits and a minus sign. -/
theorem isDigit_or_minus_of_mem_intDigits {n : Int} {c : Char} (h : c ∈ intDigits n) :
    c.isDigit = true ∨ c = '-' := by
  cases n with
  | ofNat n => exact Or.inl (areDigits_natDigits n c h)
  | negSucc n =>
    rcases List.mem_cons.1 h with rfl | h
    · exact Or.inr rfl
    · exact Or.inl (areDigits_natDigits (n + 1) c h)

theorem intDigits_ne_nil (n : Int) : intDigits n ≠ [] := by
  cases n with
  | ofNat n => exact natDigits_ne_nil n
  | negSucc n => exact List.cons_ne_nil _ _

end Realty.Text
