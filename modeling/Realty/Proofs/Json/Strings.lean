/-
# Written strings are read back

* `codeUnit_hexPadded` reads four hexadecimal digits, and `unicodeEscape_single` and
  `unicodeEscape_pair` the one or two escapes of a character.
* `stringBody_encodeChar` reads one written character.
* `stringBody_encode`: the reader gets from a written string the string and what stands behind it.
* `encodeString_append_injective`: so no written string begins another one.
-/
import Realty.Json.Encode
import Realty.Json.Parse

namespace Realty.Json

/-! ## 1. Escapes by number -/

theorem hexValue?_hexChar : ∀ d < 16, Text.hexValue? (Text.hexChar d) = some d := by decide

/-- Four hexadecimal digits are read as the number below their bound. -/
theorem codeUnit_hexPadded {n : Nat} (h : n < 0x10000) (x : Char) (r : List Char) :
    codeUnit (Text.hexPadded 4 n ++ x :: r) = .ok (n, x :: r) := by
  have hdigits : Text.hexPadded 4 n =
      [Text.hexChar (n / 4096 % 16), Text.hexChar (n / 256 % 16), Text.hexChar (n / 16 % 16),
        Text.hexChar (n / 1 % 16)] := rfl
  have hread : ∀ k, Text.hexValue? (Text.hexChar (k % 16)) = some (k % 16) :=
    fun k => hexValue?_hexChar _ (Nat.mod_lt _ (by decide))
  simp only [hdigits, List.cons_append, List.nil_append, codeUnit, hread, Nat.div_one]
  congr 2
  omega

theorem hexPadded_length (n : Nat) : (Text.hexPadded 4 n).length = 4 := rfl

/-- The code point of a character is no half of a pair. -/
theorem toNat_not_half (c : Char) : isHighHalf c.toNat = false ∧ isLowHalf c.toNat = false := by
  have hvalid : c.toNat < 0xD800 ∨ 0xDFFF < c.toNat ∧ c.toNat < 0x110000 := c.valid
  simp only [isHighHalf, isLowHalf, Bool.and_eq_false_iff, decide_eq_false_iff_not]
  omega

theorem unitChar_toNat (c : Char) : unitChar c.toNat = c := by
  obtain ⟨hhigh, hlow⟩ := toNat_not_half c
  simp [unitChar, hhigh, hlow]

/-- A character that has one code unit. -/
theorem unicodeEscape_single {c : Char} (h : c.toNat < 0x10000) (x : Char) (r : List Char) :
    unicodeEscape (Text.hexPadded 4 c.toNat ++ x :: r) = .ok (c, x :: r) := by
  rw [unicodeEscape, codeUnit_hexPadded h]
  simp only [bind, Except.bind, (toNat_not_half c).1, unitChar_toNat, Bool.false_and,
    Bool.false_eq_true, if_false]
  split <;> rfl

/-- Two escapes that are the halves of a pair. -/
theorem unicodeEscape_halves {s t rest : List Char} {high low : Nat}
    (hs : codeUnit s = .ok (high, '\\' :: 'u' :: t)) (hhigh : isHighHalf high = true)
    (hlong : 4 < t.length) (ht : codeUnit t = .ok (low, rest)) (hlow : isLowHalf low = true) :
    unicodeEscape s =
      .ok (Char.ofNat (0x10000 + (high - 0xD800) * 0x400 + (low - 0xDC00)), rest) := by
  rw [unicodeEscape, hs]
  simp only [bind, Except.bind, hhigh, decide_eq_true hlong, Bool.and_self, if_true, ht, hlow]

/-- A character that has two code units. -/
theorem unicodeEscape_pair {c : Char} (h : 0x10000 ≤ c.toNat) (x : Char) (r : List Char) :
    unicodeEscape (Text.hexPadded 4 (0xD800 + (c.toNat - 0x10000) / 0x400) ++
      (unitEscape (0xDC00 + (c.toNat - 0x10000) % 0x400) ++ x :: r)) = .ok (c, x :: r) := by
  have hvalid : c.toNat < 0xD800 ∨ 0xDFFF < c.toNat ∧ c.toNat < 0x110000 := c.valid
  generalize hhigh : 0xD800 + (c.toNat - 0x10000) / 0x400 = high
  generalize hlow : 0xDC00 + (c.toNat - 0x10000) % 0x400 = low
  have hhighHalf : isHighHalf high = true := by
    simp only [isHighHalf, Bool.and_eq_true, decide_eq_true_eq]
    omega
  have hlowHalf : isLowHalf low = true := by
    simp only [isLowHalf, Bool.and_eq_true, decide_eq_true_eq]
    omega
  have hlong : 4 < (Text.hexPadded 4 low ++ x :: r).length := by
    rw [List.length_append, hexPadded_length, List.length_cons]
    omega
  have hpoint : 0x10000 + (high - 0xD800) * 0x400 + (low - 0xDC00) = c.toNat := by omega
  have hread := unicodeEscape_halves (codeUnit_hexPadded (by omega) '\\' ('u' :: _)) hhighHalf hlong
    (codeUnit_hexPadded (by omega) x r) hlowHalf
  rw [hpoint, Char.ofNat_toNat] at hread
  exact hread

/-! ## 2. One character -/

/-- Reading goes on behind a character that was read. -/
def andThen (c : Char) (rest : Except Error (List Char × List Char)) :
    Except Error (List Char × List Char) :=
  rest.map fun (cs, r) => (c :: cs, r)

theorem stringBody_escape {e c : Char} (h : escapeChar? e = some c) (he : e ≠ 'u') (fuel : Nat)
    (r : List Char) : stringBody (fuel + 1) ('\\' :: e :: r) = andThen c (stringBody fuel r) := by
  rw [stringBody.eq_def]
  simp only [show ('\\' : Char) ≠ '"' by decide, if_false, if_true]
  split
  · next hnone =>
    rw [h] at hnone
    cases hnone
  · next hsome =>
    rw [h] at hsome
    cases hsome
    cases stringBody fuel r <;> rfl

theorem stringBody_unicode {c : Char} {s r : List Char} (h : unicodeEscape s = .ok (c, r))
    (fuel : Nat) :
    stringBody (fuel + 1) ('\\' :: 'u' :: s) = andThen c (stringBody fuel r) := by
  rw [stringBody.eq_def]
  simp only [show ('\\' : Char) ≠ '"' by decide, if_false, if_true, h]
  cases hrest : stringBody fuel r <;> simp only [bind, Except.bind, hrest] <;> rfl

theorem stringBody_plain {c : Char} (hquote : c ≠ '"') (hescape : c ≠ '\\') (hprint : 32 ≤ c.toNat)
    (fuel : Nat) (r : List Char) :
    stringBody (fuel + 1) (c :: r) = andThen c (stringBody fuel r) := by
  rw [stringBody.eq_def]
  simp only [if_neg hquote, if_neg hescape, if_neg (show ¬ c.toNat < 32 by omega)]
  cases stringBody fuel r <;> rfl

/-- **A written character is read as itself**, when the string goes on. -/
theorem stringBody_encodeChar (c : Char) (fuel : Nat) (x : Char) (r : List Char) :
    stringBody (fuel + 1) (encodeChar c ++ x :: r) = andThen c (stringBody fuel (x :: r)) := by
  have hnumber : ∀ n, c.toNat = n → c = Char.ofNat n := by
    rintro n rfl
    exact (Char.ofNat_toNat c).symm
  simp only [encodeChar]
  split
  · next h =>
    simp only [Bool.or_eq_true, decide_eq_true_eq] at h
    rcases h with rfl | rfl
    · exact stringBody_escape rfl (by decide) fuel _
    · exact stringBody_escape rfl (by decide) fuel _
  · next hplain =>
    simp only [Bool.or_eq_true, decide_eq_true_eq, not_or] at hplain
    split
    · next h => exact h ▸ stringBody_escape rfl (by decide) fuel _
    split
    · next h => exact h ▸ stringBody_escape rfl (by decide) fuel _
    split
    · next h => exact h ▸ stringBody_escape rfl (by decide) fuel _
    split
    · next h =>
      rw [hnumber _ h]
      exact stringBody_escape rfl (by decide) fuel _
    split
    · next h =>
      rw [hnumber _ h]
      exact stringBody_escape rfl (by decide) fuel _
    split
    · next h =>
      simp only [Bool.and_eq_true, decide_eq_true_eq] at h
      exact stringBody_plain hplain.1 hplain.2 h.1 fuel _
    split
    · next h => exact stringBody_unicode (unicodeEscape_single h x r) fuel
    · next h =>
      rw [List.append_assoc]
      exact stringBody_unicode (unicodeEscape_pair (by omega) x r) fuel

/-! ## 3. Strings -/

/-- **The reader gets back what was written** between the quotes. -/
theorem stringBody_encode (cs : List Char) {fuel : Nat} (h : cs.length < fuel) (r : List Char) :
    stringBody fuel (cs.flatMap encodeChar ++ '"' :: r) = .ok (cs, r) := by
  induction cs generalizing fuel with
  | nil =>
    obtain ⟨fuel, rfl⟩ := Nat.exists_eq_add_one.2 h
    rw [List.flatMap_nil, List.nil_append, stringBody.eq_def]
    rfl
  | cons c cs ih =>
    rw [List.length_cons] at h
    obtain ⟨fuel, rfl⟩ := Nat.exists_eq_add_one.2 (Nat.zero_lt_of_lt h)
    have hrest : stringBody fuel (cs.flatMap encodeChar ++ '"' :: r) = .ok (cs, r) := ih (by omega)
    rw [List.flatMap_cons, List.append_assoc]
    -- an escape by number is read only if a character follows, and the closing quote does at least
    cases hnext : cs.flatMap encodeChar ++ '"' :: r with
    | nil => simp at hnext
    | cons x t =>
      rw [stringBody_encodeChar, ← hnext, hrest]
      rfl

/-- The text of a string is its characters between two quotes. -/
theorem toList_encodeString (s : String) :
    (encodeString s).toList = '"' :: (s.toList.flatMap encodeChar ++ ['"']) := by
  rw [encodeString, String.toList_ofList, List.cons_append]

/-- **No written string begins another one.** -/
theorem encodeString_append_injective {s t : String} {u v : List Char}
    (h : (encodeString s).toList ++ u = (encodeString t).toList ++ v) : s = t ∧ u = v := by
  rw [toList_encodeString, toList_encodeString, List.cons_append, List.cons_append,
    List.append_assoc, List.append_assoc] at h
  have hbody := (List.cons.inj h).2
  have hs := stringBody_encode s.toList
    (show s.toList.length < s.toList.length + t.toList.length + 1 by omega) u
  have ht := stringBody_encode t.toList
    (show t.toList.length < s.toList.length + t.toList.length + 1 by omega) v
  rw [show '"' :: u = ['"'] ++ u from rfl, hbody] at hs
  obtain ⟨hchars, hrest⟩ := Prod.mk.inj (Except.ok.inj (hs.symm.trans ht))
  exact ⟨String.toList_inj.1 hchars, hrest⟩

end Realty.Json
