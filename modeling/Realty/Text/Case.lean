/-
# Lower case for keyword look-up

Keywords are ASCII words, and a user may write them in any case.  `lower` maps exactly the
characters whose lower-case form holds an ASCII letter: the letters A to Z, the Kelvin sign, and
the dotted capital I, whose lower-case form has two characters.  Every other character is left
alone: no keyword holds its lower-case form, so the mapping decides each look-up as the full one
would.
-/

namespace Realty.Text

/-- The lower-case form of a character, as far as it holds an ASCII letter. -/
def lowerChar (c : Char) : List Char :=
  if 'A' ≤ c && c ≤ 'Z' then [Char.ofNat (c.toNat + 32)]
  else if c.toNat = 0x212A then ['k']
  else if c.toNat = 0x130 then ['i', Char.ofNat 0x307]
  else [c]

/-- Lower case, for comparison with ASCII words. -/
def lower (s : List Char) : List Char := s.flatMap lowerChar

/-- Lower case of ASCII letters alone. -/
def asciiLower (s : List Char) : List Char := s.map Char.toLower

/-- A character that is no ASCII capital is its own lower-case form, the two exceptions apart. -/
theorem lowerChar_of_not_upper {c : Char} (h : ¬('A' ≤ c ∧ c ≤ 'Z')) (hk : c.toNat ≠ 0x212A)
    (hi : c.toNat ≠ 0x130) : lowerChar c = [c] := by
  have : ('A' ≤ c && c ≤ 'Z') = false := by simpa using h
  simp only [lowerChar, this, hk, hi]
  rfl

end Realty.Text
