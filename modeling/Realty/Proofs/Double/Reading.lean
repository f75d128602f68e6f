/-
# The text of a double reads back as it

* `withSign_ofScaled`: a decimal in the interval of a double is read as it, with its sign.
* `readDecimal?_of_writes`: the reader finds the decimal that the text of a double writes.
* `read?_textChars`: so the text of a finite double is read as that double, negative zero included.
-/
import Mathlib
import Realty.Proofs.Double.Rounding
import Realty.Proofs.Double.Text
import Realty.Proofs.Text.Trim
import Realty.Text.Numeral

namespace Realty.Double

open Float.Model Float.Model.UnpackedFloat
open Shortest (decimal)
open Text

/-! ## 1. Doubles from what they stand for -/

/-- What a finite double is taken apart into. -/
theorem unpack_of_decode {x : Float} {negative : Bool} {m : Nat} {e : Int}
    (h : decode x = .finite negative m e) :
    ∃ s, isNegative s = negative ∧
      (m = 0 ∧ e = 0 ∧ x.toModel.unpack = .zero s ∨ ∃ hm, x.toModel.unpack = .finite s m e hm) := by
  unfold decode at h
  split at h
  · cases h
  · cases h
  · next s hs =>
    cases h
    exact ⟨s, rfl, .inl ⟨rfl, rfl, hs⟩⟩
  · next s n f hn hs =>
    cases h
    exact ⟨s, rfl, .inr ⟨hn, hs⟩⟩

/-- A double is what it is taken apart into, put together again. -/
theorem pack_unpack (f : Float.Model) : Float.Model.pack f.unpack = f := by
  obtain ⟨b, hb⟩ := f
  have hback : UnpackedFloat.pack .binary64 (UnpackedFloat.unpack .binary64 b.toBitVec) =
      b.toBitVec := pack_unpack_of_valid hb
  simp only [Float.Model.pack, Float.Model.unpack, hback]

/-- The bits of a double with any sign, and what they are taken apart into. -/
theorem unpack_components (s : Sign) (a : BitVec 11) (b : BitVec 52) :
    UnpackedFloat.unpack .binary64 (packComponents .binary64 s a b) =
      if a = -1#11 then if b = 0#52 then .infinity s else .notANumber
      else if a = 0#11 then
        if h : b = 0#52 then .zero s
        else .finite s b.toNat (a.toNat - 1075 + 1)
          (Nat.pos_of_ne_zero fun hzero => h (BitVec.eq_of_toNat_eq hzero))
      else .finite s (1#1 ++ b).toNat (a.toNat - 1075) (by rw [toNat_withImplicit]; omega) := by
  unfold UnpackedFloat.unpack
  simp only [unpackExponent_packComponents, unpackMantissa_packComponents,
    unpackSign_packComponents, Sign.ofBitVec_toBitVec]
  rfl

/-- **A finite double has one with the other sign.** -/
theorem unpack_pack_finite {f : Float.Model} {s : Sign} {m : Nat} {e : Int} {hm : 0 < m}
    (h : f.unpack = .finite s m e hm) (t : Sign) :
    (Float.Model.pack (.finite t m e hm)).unpack = .finite t m e hm := by
  obtain ⟨r, a, b, hparts⟩ : ∃ r a b, packComponents .binary64 r a b = f.toBits.toBitVec :=
    ⟨_, _, _, @packComponents_unpackSign_unpackExponent_unpackMantissa .binary64 _⟩
  rw [Float.Model.unpack, ← hparts, unpack_components] at h
  have hflipped : UnpackedFloat.unpack .binary64 (packComponents .binary64 t a b) =
      .finite t m e hm ∧ a ≠ -1#11 := by
    rw [unpack_components]
    split at h
    · split at h <;> cases h
    · next hfinite =>
      refine ⟨?_, hfinite⟩
      rw [if_neg hfinite]
      split at h
      · next hlow =>
        split at h
        · cases h
        · next hnonzero =>
          cases h
          rw [if_pos hlow, dif_neg hnonzero]
      · next hhigh =>
        cases h
        rw [if_neg hhigh]
  obtain ⟨hflipped, hfinite⟩ := hflipped
  -- only an exponent of ones could make the other bits invalid, and the exponent is the same
  have hvalid : Format.binary64.Valid (packComponents .binary64 t a b) :=
    ⟨fun hnan => absurd (unpackExponent_packComponents.symm.trans hnan) hfinite⟩
  have hback := pack_unpack_of_valid hvalid
  rw [hflipped] at hback
  show UnpackedFloat.unpack .binary64 (UnpackedFloat.pack .binary64 (.finite t m e hm)) = _
  rw [hback, hflipped]

/-- A sign before a number that is put together and taken apart as it is. -/
theorem withSign_of_ofScientific {x : Float} {s : Sign} {u : UnpackedFloat} {d : Nat} {p : Int}
    (hscientific : UnpackedFloat.ofScientific .binary64 d p = u)
    (hu : (Float.Model.pack u).unpack = u)
    (hx : x.toModel.unpack = if isNegative s then u.neg else u) :
    withSign (isNegative s) (ofScaled d p) = x := by
  have hscaled : ofScaled d p = ⟨Float.Model.pack u⟩ := by
    show Float.ofModel (Float.Model.pack (Float.Model.pack
      (UnpackedFloat.ofScientific .binary64 d p)).unpack) = _
    rw [hscientific, hu]
  rw [hscaled, withSign]
  split
  · next hsign =>
    rw [if_pos hsign] at hx
    show Float.ofModel (Float.Model.pack (Float.Model.pack u).unpack.neg) = x
    rw [hu, ← hx, pack_unpack]
  · next hsign =>
    rw [if_neg hsign] at hx
    rw [← hx, pack_unpack]

/-- **A decimal in the interval of a double is read as it**, with its sign. -/
theorem withSign_ofScaled {x : Float} {negative : Bool} {m : Nat} {e : Int}
    (h : decode x = .finite negative m e) {d : Nat} {p : Int}
    (hd : m = 0 ∧ d = 0 ∨ RoundsTo (decimal d p) m e) :
    withSign negative (ofScaled d p) = x := by
  obtain ⟨s, rfl, ⟨rfl, -, hx⟩ | ⟨hm, hx⟩⟩ := unpack_of_decode h
  · obtain ⟨-, rfl⟩ | hd := hd
    · refine withSign_of_ofScientific (u := .zero .positive) rfl rfl ?_
      cases s <;> exact hx
    · exact absurd hd.isCanonical.1 (Nat.lt_irrefl 0)
  · obtain ⟨rfl, -⟩ | hd := hd
    · exact absurd hm (Nat.lt_irrefl 0)
    · refine withSign_of_ofScientific (ofScientific_eq hd) (unpack_pack_finite hx .positive) ?_
      cases s <;> exact hx

/-! ## 2. Digits -/

/-- The value of an ASCII digit. -/
theorem digitValue?_of_isDigit {c : Char} (h : c.isDigit = true) :
    digitValue? c = some (c.toNat - 48) := by
  simp only [Char.isDigit, Bool.and_eq_true, decide_eq_true_eq] at h
  have hlow : 48 ≤ c.toNat := UInt32.le_iff_toNat_le.1 h.1
  have hhigh : c.toNat ≤ 57 := UInt32.le_iff_toNat_le.1 h.2
  have hread := digitValue?_digitChar (c.toNat - 48) (by omega)
  rwa [digitChar, Nat.add_sub_cancel' hlow, Char.ofNat_toNat] at hread

/-- What ends a run of digits: the end, or a character that is neither a digit nor an underscore. -/
def EndsRun (r : List Char) : Prop := ∀ c t, r = c :: t → digitValue? c = none ∧ c ≠ '_'

theorem endsRun_nil : EndsRun [] := by
  intro c t h
  cases h

theorem endsRun_cons {c : Char} (hvalue : digitValue? c = none) (hc : c ≠ '_') (r : List Char) :
    EndsRun (c :: r) := by
  intro d t h
  cases h
  exact ⟨hvalue, hc⟩

/-- A run goes on through the digits. -/
theorem digitRun_more_append {ds r : List Char} (hds : AreDigits ds) (hr : EndsRun r) :
    digitRun.more (ds ++ r) = (ds.map fun c => c.toNat - 48, r) := by
  induction ds with
  | nil =>
    cases r with
    | nil => rfl
    | cons c t =>
      obtain ⟨hvalue, hc⟩ := hr c t rfl
      simp [digitRun.more, hvalue, hc]
  | cons d ds ih =>
    have hrest := ih fun c hc => hds c (List.mem_cons_of_mem d hc)
    have hdigit := hds d List.mem_cons_self
    have hne : d ≠ '_' := hds.ne List.mem_cons_self rfl
    rw [List.cons_append, digitRun.more, digitValue?_of_isDigit hdigit, hrest]
    · rfl
    · rintro - - rfl
      exact absurd rfl hne

/-- **A run is the digits up to what ends it.** -/
theorem digitRun_append {ds r : List Char} (hds : AreDigits ds) (hr : EndsRun r) :
    digitRun (ds ++ r) = (ds.map fun c => c.toNat - 48, r) := by
  cases ds with
  | nil =>
    cases r with
    | nil => rfl
    | cons c t => simp [digitRun, (hr c t rfl).1]
  | cons d ds =>
    have hrest := digitRun_more_append (fun c hc => hds c (List.mem_cons_of_mem d hc)) hr
    rw [List.cons_append, digitRun, digitValue?_of_isDigit (hds d List.mem_cons_self), hrest]
    rfl

/-! ## 3. Texts -/

/-- The digits of a power of ten are read with their sign. -/
theorem readExponent?_cons {r ds : List Char} {negative : Bool} (hds : AreDigits ds) (hne : ds ≠ [])
    (hsign : readSign r = (negative, ds)) :
    Numeral.readExponent? ('e' :: r) = some (signed negative (digitsValue ds)) := by
  have hrun := digitRun_append hds endsRun_nil
  rw [List.append_nil] at hrun
  obtain ⟨c, cs, rfl⟩ := List.exists_cons_of_ne_nil hne
  simp only [Numeral.readExponent?, hsign, hrun]
  rw [← ofDigits_map]
  rfl

/-- The power of ten behind the digits is read back. -/
theorem readExponent?_exponentText (k : Int) : Numeral.readExponent? (exponentText k) = some k := by
  have hdigits : AreDigits (padZeros 2 (natDigits k.natAbs)) :=
    (areDigits_zeros _).append (areDigits_natDigits _)
  have hvalue : digitsValue (padZeros 2 (natDigits k.natAbs)) = k.natAbs := by
    rw [padZeros, digitsValue_zeros_append, digitsValue_natDigits]
  have hne : padZeros 2 (natDigits k.natAbs) ≠ [] :=
    List.append_ne_nil_of_right_ne_nil _ (natDigits_ne_nil _)
  unfold exponentText
  split
  · rw [readExponent?_cons hdigits hne rfl, hvalue, signed, if_pos rfl]
    congr 1
    omega
  · rw [readExponent?_cons hdigits hne rfl, hvalue, signed, if_neg Bool.false_ne_true]
    congr 1
    omega

theorem endsRun_exponentText (k : Int) : EndsRun (exponentText k) :=
  endsRun_cons (by decide) (by decide) _

/-- **The reader finds the decimal that a text writes.** -/
theorem readDecimal?_of_writes {cs : List Char} {v : ℚ} (h : Writes cs v) (negative : Bool) :
    ∃ d p, Numeral.readDecimal? negative cs = some (.decimal negative d p) ∧ decimal d p = v := by
  cases h with
  | @point whole fraction tail hwhole hne hfraction htail =>
    have hends : EndsRun tail ∧ Numeral.readExponent? tail = some (exponentValue tail) := by
      rcases htail with rfl | ⟨k, rfl⟩
      · exact ⟨endsRun_nil, rfl⟩
      · rw [exponentValue_exponentText]
        exact ⟨endsRun_exponentText k, readExponent?_exponentText k⟩
    obtain ⟨hends, hexponent⟩ := hends
    have hpoint : EndsRun ('.' :: (fraction ++ tail)) := endsRun_cons (by decide) (by decide) _
    refine ⟨digitsValue (whole ++ fraction), exponentValue tail - fraction.length, ?_, rfl⟩
    rw [List.append_assoc, List.cons_append, Numeral.readDecimal?, digitRun_append hwhole hpoint]
    simp only [digitRun_append hfraction hends, hexponent, Option.map_some, List.length_map,
      List.isEmpty_map, List.isEmpty_eq_false_iff.2 hne, ← List.map_append, ofDigits_map]
    rfl
  | @whole whole hwhole hne k =>
    refine ⟨digitsValue whole, k, ?_, rfl⟩
    have hexponent := readExponent?_exponentText k
    have hends := endsRun_exponentText k
    obtain ⟨r, hr⟩ : ∃ r, exponentText k = 'e' :: r := ⟨_, rfl⟩
    rw [hr] at hexponent hends ⊢
    simp [Numeral.readDecimal?, digitRun_append hwhole hends, hexponent, hne, ofDigits_map]

/-- The characters in the text of a double are not blank. -/
theorem isBlank_of_isFloatChar {c : Char} (h : isFloatChar c = true) : isBlank c = false := by
  simp only [isFloatChar, Bool.or_eq_true, beq_iff_eq] at h
  rcases h with (((h | rfl) | rfl) | rfl) | rfl
  · simp only [Char.isDigit, Bool.and_eq_true, decide_eq_true_eq] at h
    have hlow : 48 ≤ c.toNat := UInt32.le_iff_toNat_le.1 h.1
    have hhigh : c.toNat ≤ 57 := UInt32.le_iff_toNat_le.1 h.2
    simp only [isBlank]
    grind
  · decide
  · decide
  · decide
  · decide

/-- **A text that starts with a digit is read with its sign.** -/
theorem read?_signed {cs : List Char} (hstart : ∃ c r, cs = c :: r ∧ c.isDigit = true)
    (hchars : ∀ c ∈ cs, isFloatChar c = true) (negative : Bool) :
    Numeral.read? ((if negative then ['-'] else []) ++ cs) = Numeral.readDecimal? negative cs := by
  have htrim : trimWhere isWhiteSpace ((if negative then ['-'] else []) ++ cs) =
      (if negative then ['-'] else []) ++ cs := by
    refine (bare_of_forall fun c hc => ?_).trimWhere_self
    rw [isWhiteSpace, isBlank_of_isFloatChar (signed_chars hchars negative c hc),
      Bool.false_and]
  obtain ⟨c, r, rfl, hdigit⟩ := hstart
  have hne {d : Char} (hd : d.isDigit = false) : c ≠ d := by
    rintro rfl
    rw [hdigit] at hd
    cases hd
  have hsign : readSign ((if negative then ['-'] else []) ++ c :: r) = (negative, c :: r) := by
    cases negative with
    | true => rfl
    | false =>
      show readSign (c :: r) = _
      unfold readSign
      split
      · next hc =>
        exact absurd (List.cons.inj hc).1 (hne rfl)
      · next hc =>
        exact absurd (List.cons.inj hc).1 (hne rfl)
      · rfl
  have hlower : c.toLower = c := by
    refine dif_neg fun hupper => ?_
    simp only [Char.isDigit, Bool.and_eq_true, decide_eq_true_eq] at hdigit
    have hlow : 65 ≤ c.toNat := UInt32.le_iff_toNat_le.1 hupper.1
    have hhigh : c.toNat ≤ 57 := UInt32.le_iff_toNat_le.1 hdigit.2
    omega
  have hword {w : List Char} {d : Char} (hd : d.isDigit = false) :
      asciiLower (c :: r) ≠ d :: w := by
    intro hw
    exact hne hd (hlower.symm.trans (List.cons.inj hw).1)
  have hinf : asciiLower (c :: r) ≠ ['i', 'n', 'f'] := hword rfl
  have hinfinity : asciiLower (c :: r) ≠ ['i', 'n', 'f', 'i', 'n', 'i', 't', 'y'] := hword rfl
  have hnan : asciiLower (c :: r) ≠ ['n', 'a', 'n'] := hword rfl
  rw [Numeral.read?, htrim, hsign]
  simp [hinf, hinfinity, hnan]

theorem read?_of_isMagnitude {cs : List Char} (h : IsMagnitude cs) (negative : Bool) :
    Numeral.read? ((if negative then ['-'] else []) ++ cs) = Numeral.readDecimal? negative cs :=
  read?_signed h.startsWithDigit h.chars negative

/-- The decimal that the text of a double writes is rounded to it. -/
theorem exists_writes {m : Nat} {e : Int} (h : (m = 0 ∧ e = 0) ∨ IsCanonical m e) :
    ∃ v, Writes (unsigned m e) v ∧ (m = 0 ∧ v = 0 ∨ RoundsTo v m e) := by
  rcases h with ⟨rfl, rfl⟩ | h
  · exact ⟨0, writes_zero 0, .inl ⟨rfl, rfl⟩⟩
  · obtain ⟨hlow, hhigh, hinside⟩ := Shortest.bounds_of_contains (Shortest.digits_contains h)
    exact ⟨_, writes_unsigned h.1.ne' e, .inr ⟨h, hlow, hhigh, hinside⟩⟩

/-- A decimal that the text of a double writes is read as that double, with its sign. -/
theorem ofNumeral_of_written {x : Float} {negative : Bool} {m : Nat} {e : Int}
    (hdecode : decode x = .finite negative m e) {d : Nat} {p : Int}
    (h : decimal d p = written (unsigned m e)) : ofNumeral (.decimal negative d p) = x := by
  obtain ⟨v, hwrites, hrounds⟩ := exists_writes (decode_finite hdecode)
  obtain rfl : v = decimal d p := hwrites.written_eq.symm.trans h.symm
  refine withSign_ofScaled hdecode (hrounds.imp_left fun ⟨hm, hzero⟩ => ⟨hm, ?_⟩)
  rw [decimal, mul_eq_zero] at hzero
  exact_mod_cast hzero.resolve_right (by positivity)

/-- **The text of a finite double is read as that double.** -/
theorem read?_textChars {x : Float} (h : isFinite x = true) :
    (Numeral.read? (textChars x)).map ofNumeral = some x := by
  obtain ⟨negative, m, e, hdecode⟩ := decode_of_isFinite h
  obtain ⟨v, hwrites, -⟩ := exists_writes (decode_finite hdecode)
  obtain ⟨d, p, hread, rfl⟩ := readDecimal?_of_writes hwrites negative
  rw [textChars_finite hdecode, read?_of_isMagnitude (isMagnitude_unsigned m e), hread,
    Option.map_some, ofNumeral_of_written hdecode hwrites.written_eq.symm]

end Realty.Double
