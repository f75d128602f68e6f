/-
# Written numbers are read back

* `IsWhole` is the digits that a number starts with, and `number_whole` reads them with a sign.
* `IsFractional` is the texts of doubles without their signs, by their parts, and
  `isFractional_unsigned` says that they are.
* `number_int` and `number_float`: the reader gets back the number and what stands behind it.
* `value_scalar`: so it does with words and numbers as values.
-/
import Realty.Proofs.Double.Reading
import Realty.Proofs.Json.Key

namespace Realty.Json

open Text (AreDigits natDigits intDigits signed)
open Double (IsPower exponentText exponentValue written unsigned ofNumeral)
open Double.Shortest (decimal)

/-! ## 1. Digits -/

/-- What ends digits: nothing, or another character. -/
def EndsDigits (r : List Char) : Prop := ∀ c ∈ r.head?, isDigit c = false

theorem endsDigits_cons {c : Char} (h : isDigit c = false) (r : List Char) :
    EndsDigits (c :: r) := by
  intro d hd
  cases hd
  exact h

theorem isTokenChar_of_isDigit {c : Char} (h : isDigit c = true) : isTokenChar c = true := by
  rw [isTokenChar, Double.isFloatChar_of_isDigit h, Bool.or_true]

theorem IsCut.endsDigits {r : List Char} (h : IsCut r) : EndsDigits r := by
  intro c hc
  cases hdigit : isDigit c with
  | false => rfl
  | true => exact absurd ((isTokenChar_of_isDigit hdigit).symm.trans (h c hc)) (by decide)

/-- Behind a scalar stands no character of one. -/
theorem IsCut.ne {c d : Char} {r : List Char} (h : IsCut (c :: r)) (hd : isTokenChar d = true) :
    c ≠ d := by
  rintro rfl
  exact absurd (hd.symm.trans (h c rfl)) (by decide)

/-- **A run of digits ends where they end.** -/
theorem span_digits {ds r : List Char} (hds : AreDigits ds) (hr : EndsDigits r) :
    (ds ++ r).span isDigit = (ds, r) := by
  have hall : ∀ c ∈ ds, isDigit c = true := hds
  have hrest : r.takeWhile isDigit = [] ∧ r.dropWhile isDigit = r := by
    cases r with
    | nil => exact ⟨rfl, rfl⟩
    | cons c r =>
      have hc : isDigit c = false := hr c rfl
      simp [hc]
  rw [List.span_eq_takeWhile_dropWhile, List.takeWhile_append_of_pos hall,
    List.dropWhile_append_of_pos hall, hrest.1, hrest.2, List.append_nil]

theorem digitsValue_eq (ds : List Char) : digitsValue ds = Text.digitsValue ds :=
  Text.ofDigits_map ds

/-- The digits that a number starts with: a leading zero stands alone. -/
structure IsWhole (ds : List Char) : Prop where
  digits : AreDigits ds
  ne_nil : ds ≠ []
  zero : ∀ r, ds = '0' :: r → r = []

theorem isWhole_zero : IsWhole ['0'] where
  digits := Text.areDigits_zeros 1
  ne_nil := List.cons_ne_nil _ _
  zero _ h := (List.cons.inj h).2.symm

/-- Digits that start with another one. -/
theorem isWhole_cons {c : Char} {ds : List Char} (h : AreDigits (c :: ds)) (hc : c ≠ '0') :
    IsWhole (c :: ds) where
  digits := h
  ne_nil := List.cons_ne_nil _ _
  zero _ heq := absurd (List.cons.inj heq).1 hc

/-- **The digits of a positive number start with no zero**: without it they would write the same
number, and they are as few as can be. -/
theorem natDigits_leading {n : Nat} (h : 0 < n) : ∃ c r, natDigits n = c :: r ∧ c ≠ '0' := by
  obtain ⟨c, r, hdigits⟩ := List.exists_cons_of_ne_nil (Text.natDigits_ne_nil n)
  refine ⟨c, r, hdigits, ?_⟩
  rintro rfl
  have hr : AreDigits r := fun d hd =>
    Text.areDigits_natDigits n d (hdigits ▸ List.mem_cons_of_mem _ hd)
  have hvalue : Text.digitsValue r = n := by
    have hwhole := Text.digitsValue_natDigits n
    rwa [hdigits, show '0' :: r = List.replicate 1 '0' ++ r from rfl,
      Text.digitsValue_zeros_append] at hwhole
  have hlt : n < 10 ^ r.length := hvalue ▸ Text.digitsValue_lt hr
  have hne : 0 < r.length := by
    rcases Nat.eq_zero_or_pos r.length with hzero | hpos
    · rw [hzero, pow_zero] at hlt
      omega
    · exact hpos
  have hshort : (natDigits n).length ≤ r.length :=
    (Nat.length_toDigits_le_iff (by decide) hne).2 hlt
  rw [hdigits, List.length_cons] at hshort
  omega

theorem isWhole_natDigits (n : Nat) : IsWhole (natDigits n) := by
  rcases Nat.eq_zero_or_pos n with rfl | hn
  · exact isWhole_zero
  · obtain ⟨c, r, hdigits, hc⟩ := natDigits_leading hn
    have hds := Text.areDigits_natDigits n
    rw [hdigits] at hds ⊢
    exact isWhole_cons hds hc

/-! ## 2. The parts of a number -/

theorem fraction_point {ds r : List Char} (hds : AreDigits ds) (hne : ds ≠ [])
    (hr : EndsDigits r) : fraction ('.' :: (ds ++ r)) = (ds, r) := by
  obtain ⟨c, cs, rfl⟩ := List.exists_cons_of_ne_nil hne
  have hc : isDigit c = true := hds c List.mem_cons_self
  have hspan : (c :: (cs ++ r)).span isDigit = (c :: cs, r) := span_digits hds hr
  simp only [List.cons_append, fraction, hc, if_true, hspan]

theorem fraction_none {r : List Char} (h : ∀ t, r ≠ '.' :: t) : fraction r = ([], r) := by
  unfold fraction
  split
  · next c t => exact absurd rfl (h _)
  · rfl

/-- The digits of a power of ten are read with their sign. -/
theorem exponent?_cons {t ds r : List Char} {negative : Bool} (hds : AreDigits ds) (hne : ds ≠ [])
    (hr : EndsDigits r) (hsign : Text.readSign t = (negative, ds ++ r)) :
    exponent? ('e' :: t) = some (signed negative (Text.digitsValue ds), r) := by
  have hspan := span_digits hds hr
  obtain ⟨c, cs, rfl⟩ := List.exists_cons_of_ne_nil hne
  simp only [exponent?, hsign, hspan, digitsValue_eq]
  rfl

/-- **The power of ten behind a number is read back.** -/
theorem exponent?_exponentText (k : Int) {r : List Char} (hr : EndsDigits r) :
    exponent? (exponentText k ++ r) = some (k, r) := by
  have hdigits : AreDigits (Text.padZeros 2 (natDigits k.natAbs)) :=
    (Text.areDigits_zeros _).append (Text.areDigits_natDigits _)
  have hne : Text.padZeros 2 (natDigits k.natAbs) ≠ [] :=
    List.append_ne_nil_of_right_ne_nil _ (Text.natDigits_ne_nil _)
  have hvalue : Text.digitsValue (Text.padZeros 2 (natDigits k.natAbs)) = k.natAbs := by
    rw [Text.padZeros, Text.digitsValue_zeros_append, Text.digitsValue_natDigits]
  unfold exponentText
  split
  · rw [List.cons_append, List.cons_append, exponent?_cons hdigits hne hr rfl, hvalue, signed,
      if_pos rfl]
    congr 2
    omega
  · rw [List.cons_append, List.cons_append, exponent?_cons hdigits hne hr rfl, hvalue, signed,
      if_neg Bool.false_ne_true]
    congr 2
    omega

theorem exponent?_none {r : List Char} (h : IsCut r) : exponent? r = none := by
  cases r with
  | nil => rfl
  | cons c r =>
    have hlower : c ≠ 'e' := h.ne rfl
    have hupper : c ≠ 'E' := h.ne rfl
    simp [exponent?, hlower, hupper]

/-- Behind its digits a number has a point, a power of ten, both or neither. -/
theorem numberTail_point {fraction tail r : List Char} (hfraction : AreDigits fraction)
    (hne : fraction ≠ []) (htail : IsPower tail) (hr : IsCut r) (negative : Bool)
    (whole : List Char) :
    numberTail negative whole ('.' :: (fraction ++ (tail ++ r))) =
      .ok (.float (ofNumeral (.decimal negative (Text.digitsValue (whole ++ fraction))
        (exponentValue tail - fraction.length))), r) := by
  rcases htail with rfl | ⟨k, rfl⟩
  · have hparts := fraction_point hfraction hne hr.endsDigits
    simp only [numberTail, List.nil_append, hparts, exponent?_none hr, digitsValue_eq]
    simp [hne]
  · have hends : EndsDigits (exponentText k ++ r) := endsDigits_cons rfl _
    have hparts := fraction_point hfraction hne hends
    simp only [numberTail, hparts, exponent?_exponentText k hr.endsDigits, digitsValue_eq,
      Double.exponentValue_exponentText]

theorem numberTail_power {r : List Char} (hr : IsCut r) (negative : Bool) (whole : List Char)
    (k : Int) :
    numberTail negative whole (exponentText k ++ r) =
      .ok (.float (ofNumeral (.decimal negative (Text.digitsValue whole) k)), r) := by
  have hparts : fraction (exponentText k ++ r) = ([], exponentText k ++ r) :=
    fraction_none fun t ht => absurd (List.cons.inj ht).1 (by decide)
  simp only [numberTail, hparts, exponent?_exponentText k hr.endsDigits, digitsValue_eq,
    List.append_nil, List.length_nil, Int.natCast_zero, Int.sub_zero]

theorem numberTail_whole {whole r : List Char} (hlength : whole.length ≤ maxIntegerDigits)
    (hr : IsCut r) (negative : Bool) :
    numberTail negative whole r =
      .ok (.int (signed negative (Text.digitsValue whole)), r) := by
  have hparts : fraction r = ([], r) := by
    refine fraction_none ?_
    rintro t rfl
    exact hr.ne (d := '.') rfl rfl
  simp only [numberTail, hparts, exponent?_none hr, digitsValue_eq, List.isEmpty_nil, Bool.not_true,
    Bool.false_eq_true, if_false, if_neg (Nat.not_lt.2 hlength)]

/-- **A number is read from the digits that it starts with**, and its sign. -/
theorem number_whole {whole r : List Char} (h : IsWhole whole) (hr : EndsDigits r)
    (negative : Bool) :
    number ((if negative then ['-'] else []) ++ (whole ++ r)) = numberTail negative whole r := by
  obtain ⟨c, ds, rfl⟩ := List.exists_cons_of_ne_nil h.ne_nil
  have hminus : c ≠ '-' := h.digits.ne List.mem_cons_self rfl
  have hspan : (c :: (ds ++ r)).span isDigit = (c :: ds, r) := span_digits h.digits hr
  rw [number.eq_def]
  split
  next b s heq =>
    obtain ⟨rfl, rfl⟩ : b = negative ∧ s = c :: (ds ++ r) := by
      cases negative with
      | true =>
        cases heq
        exact ⟨rfl, rfl⟩
      | false =>
        split at heq
        · next hcons => exact absurd (List.cons.inj hcons).1 hminus
        · cases heq
          exact ⟨rfl, rfl⟩
    split
    · next hcons =>
      obtain ⟨rfl, rfl⟩ := List.cons.inj hcons
      obtain rfl := h.zero ds rfl
      rfl
    · rw [hspan]

/-! ## 3. Integers and doubles -/

theorem signed_natAbs (n : Int) : signed (decide (n < 0)) n.natAbs = n := by
  rw [signed]
  split
  · next h =>
    have hn : n < 0 := of_decide_eq_true h
    omega
  · next h =>
    have hn : ¬ n < 0 := mt decide_eq_true h
    omega

/-- **An integer is read back**, unless it has too many digits. -/
theorem number_int {n : Int} (h : n.natAbs < 10 ^ maxIntegerDigits) {r : List Char}
    (hr : IsCut r) : number (intDigits n ++ r) = .ok (.int n, r) := by
  have hlength : (natDigits n.natAbs).length ≤ maxIntegerDigits :=
    (Nat.length_toDigits_le_iff (by decide) (by decide)).2 h
  have hread := number_whole (isWhole_natDigits n.natAbs) hr.endsDigits (decide (n < 0))
  simp only [decide_eq_true_eq] at hread
  rw [Text.intDigits_eq, List.append_assoc, hread, numberTail_whole hlength hr,
    Text.digitsValue_natDigits, signed_natAbs]

/-- The texts of doubles without their signs, by their parts: digits on both sides of a point with
at most a power of ten behind them, or digits with a power of ten. -/
inductive IsFractional : List Char → Prop
  | point {whole fraction tail : List Char} (hwhole : IsWhole whole)
      (hfraction : AreDigits fraction) (hne : fraction ≠ []) (htail : IsPower tail) :
      IsFractional (whole ++ '.' :: fraction ++ tail)
  | power {whole : List Char} (hwhole : IsWhole whole) (k : Int) :
      IsFractional (whole ++ exponentText k)

/-- **A fractional number is read as the decimal that it writes.** -/
theorem number_of_isFractional {cs r : List Char} (h : IsFractional cs) (hr : IsCut r)
    (negative : Bool) :
    ∃ d p, number ((if negative then ['-'] else []) ++ (cs ++ r)) =
      .ok (.float (ofNumeral (.decimal negative d p)), r) ∧ decimal d p = written cs := by
  cases h with
  | @point whole fraction tail hwhole hfraction hne htail =>
    refine ⟨_, _, ?_, (Double.written_point hwhole.digits hfraction htail.isTail).symm⟩
    rw [← numberTail_point hfraction hne htail hr, List.append_assoc, List.append_assoc]
    exact number_whole hwhole (endsDigits_cons rfl _) negative
  | @power whole hwhole k =>
    refine ⟨Text.digitsValue whole, k, ?_, ?_⟩
    · rw [← numberTail_power hr, List.append_assoc]
      exact number_whole hwhole (endsDigits_cons rfl _) negative
    · rw [Double.written_whole hwhole.digits (Double.exponentText_isTail k),
        Double.exponentValue_exponentText]

/-- Digits around a point, when they start with no zero. -/
theorem isFractional_positional {c : Char} {ds : List Char} (hds : AreDigits (c :: ds))
    (hc : c ≠ '0') (point : Int) : IsFractional (Double.positional (c :: ds) point) := by
  have hempty {whole fraction : List Char} (hwhole : IsWhole whole) (hfraction : AreDigits fraction)
      (hne : fraction ≠ []) : IsFractional (whole ++ '.' :: fraction) := by
    have h := IsFractional.point hwhole hfraction hne (Or.inl rfl)
    rwa [List.append_nil] at h
  simp only [Double.positional]
  split
  · exact hempty isWhole_zero ((Text.areDigits_zeros _).append hds)
      (List.append_ne_nil_of_right_ne_nil _ (List.cons_ne_nil _ _))
  · next hpoint =>
    split
    · exact hempty (isWhole_cons (hds.append (Text.areDigits_zeros _)) hc)
        (Text.areDigits_zeros 1) (List.cons_ne_nil _ _)
    · next hlong =>
      obtain ⟨k, hk⟩ : ∃ k, point.toNat = k + 1 := Nat.exists_eq_add_one.2 (by omega)
      rw [hk] at hlong ⊢
      refine hempty (isWhole_cons (hds.take (k + 1)) hc) (hds.drop _) ?_
      rw [Ne, List.drop_eq_nil_iff]
      omega

/-- Digits with a power of ten, when they start with no zero. -/
theorem isFractional_scientific {c : Char} {ds : List Char} (hds : AreDigits (c :: ds))
    (hc : c ≠ '0') (point : Int) : IsFractional (Double.scientific (c :: ds) point) := by
  have hhead : IsWhole [c] := isWhole_cons (hds.take 1) hc
  cases ds with
  | nil => exact .power hhead (point - 1)
  | cons d ds =>
    exact .point hhead (hds.drop 1) (List.cons_ne_nil _ _) (Or.inr ⟨point - 1, rfl⟩)

/-- **The text of a double is that of a fractional number.** -/
theorem isFractional_unsigned {m : Nat} {e : Int}
    (h : (m = 0 ∧ e = 0) ∨ Double.IsCanonical m e) : IsFractional (unsigned m e) := by
  rcases h with ⟨rfl, rfl⟩ | h
  · have hzero := IsFractional.point isWhole_zero (Text.areDigits_zeros 1) (List.cons_ne_nil _ _)
      (Or.inl rfl)
    exact hzero
  · have hdigits : 0 < (Double.Shortest.digits m e).1 := by
      by_contra hzero
      have hpos := Double.digits_pos h
      rw [Nat.eq_zero_of_not_pos hzero, decimal, Nat.cast_zero, zero_mul] at hpos
      exact lt_irrefl 0 hpos
    obtain ⟨c, ds, htext, hc⟩ := natDigits_leading hdigits
    have hds := Text.areDigits_natDigits (Double.Shortest.digits m e).1
    rw [htext] at hds
    rw [unsigned, if_neg h.1.ne']
    simp only [Double.magnitudeText, htext]
    split
    · exact isFractional_positional hds hc _
    · exact isFractional_scientific hds hc _

/-- **A finite double is read back.** -/
theorem number_float {x : Float} (h : Double.isFinite x = true) {r : List Char} (hr : IsCut r) :
    number (Double.textChars x ++ r) = .ok (.float x, r) := by
  obtain ⟨negative, m, e, hdecode⟩ := Double.decode_of_isFinite h
  obtain ⟨d, p, hread, hdecimal⟩ :=
    number_of_isFractional (isFractional_unsigned (Double.decode_finite hdecode)) hr negative
  rw [Double.textChars_finite hdecode, List.append_assoc, hread,
    Double.ofNumeral_of_written hdecode hdecimal]

/-! ## 4. Scalars as values -/

/-- Each of the words is read. -/
theorem word?_words (r : List Char) : ∀ p ∈ words, word? (p.1.toList ++ r) = some (p.2, r) := by
  simp only [words, List.forall_mem_cons]
  exact ⟨rfl, rfl, rfl, rfl, rfl, rfl, List.forall_mem_nil _⟩

/-- A number is none of the words: they start with letters, behind a sign at most. -/
theorem word?_digit {c : Char} (h : c.isDigit = true) (negative : Bool) (r : List Char) :
    word? ((if negative then ['-'] else []) ++ c :: r) = none := by
  have hne {d : Char} (hd : d.isDigit = false) : d ≠ c := by
    rintro rfl
    exact absurd (h.symm.trans hd) (by decide)
  have hletters : 'n' ≠ c ∧ 't' ≠ c ∧ 'f' ≠ c ∧ 'N' ≠ c ∧ 'I' ≠ c ∧ '-' ≠ c :=
    ⟨hne rfl, hne rfl, hne rfl, hne rfl, hne rfl, hne rfl⟩
  cases negative <;> simp [word?, words, afterWord?, hletters]

/-- A value that starts like a scalar is a word or a number. -/
theorem value_eq_number {c : Char} (h : startShape c = .scalar) (fuel room : Nat)
    (r : List Char) :
    value (fuel + 1) room (c :: r) =
      match word? (c :: r) with
      | some hit => .ok hit
      | none => number (c :: r) := by
  have hstart {d : Char} (hd : startShape d ≠ .scalar) : c ≠ d := by
    rintro rfl
    exact hd h
  rw [value.eq_def]
  simp only
  split
  · next heq => exact absurd (List.cons.inj heq).1 (hstart (by decide))
  · next heq => exact absurd (List.cons.inj heq).1 (hstart (by decide))
  · next heq => exact absurd (List.cons.inj heq).1 (hstart (by decide))
  · rfl

/-- **A word or a number is read back as a value.** -/
theorem value_scalar {v : Value} (h : v.isScalar = true)
    (hint : ∀ n, v = .int n → n.natAbs < 10 ^ maxIntegerDigits) {fuel room : Nat}
    {r : List Char} (hr : IsCut r) :
    value (fuel + 1) room ((encode v).toList ++ r) = .ok (v, r) := by
  obtain ⟨c, t, htext, hshape, -⟩ := encode_start (.scalar h)
  rw [shape_scalar h] at hshape
  have hread : value (fuel + 1) room ((encode v).toList ++ r) =
      match word? ((encode v).toList ++ r) with
      | some hit => .ok hit
      | none => number ((encode v).toList ++ r) := by
    rw [htext, List.cons_append]
    exact value_eq_number hshape fuel room (t ++ r)
  rw [hread]
  cases hkind : scalarKind v with
  | word => rw [word?_words r _ (mem_words h hkind)]
  | whole =>
    obtain ⟨n, rfl⟩ := eq_int_of_scalarKind hkind
    obtain ⟨d, ds, hnat⟩ := List.exists_cons_of_ne_nil (Text.natDigits_ne_nil n.natAbs)
    have hd : d.isDigit = true :=
      Text.areDigits_natDigits n.natAbs d (hnat ▸ List.mem_cons_self)
    have hword : word? (intDigits n ++ r) = none := by
      have hnone := word?_digit hd (decide (n < 0)) (ds ++ r)
      simp only [decide_eq_true_eq] at hnone
      rw [Text.intDigits_eq, hnat, List.append_assoc]
      exact hnone
    rw [toList_encode_int, hword, number_int (hint n rfl) hr]
  | double =>
    obtain ⟨x, rfl, hx⟩ := eq_float_of_scalarKind hkind
    obtain ⟨negative, m, e, hdecode⟩ := Double.decode_of_isFinite hx
    obtain ⟨d, ds, hbody, hd⟩ := (Double.isMagnitude_unsigned m e).startsWithDigit
    have hword : word? (Double.textChars x ++ r) = none := by
      rw [Double.textChars_finite hdecode, hbody, List.append_assoc]
      exact word?_digit hd negative (ds ++ r)
    rw [toList_encode_float hx, hword, number_float hx hr]

end Realty.Json
