/-
# Reading UTF-8

`Utf8.decode` reads bytes as text.  The decoder is a machine over bytes: a lead byte says how many
continuation bytes follow and which values the first of them may take.  Where the bytes break the
form, the longest start that could have become a character is read as one replacement character,
and reading goes on with the byte that broke it.
-/

namespace Realty.Text.Utf8

/-- A character of which some bytes are still to come. -/
structure Pending where
  /-- The bits read so far. -/
  value : Nat
  /-- How many bytes are to come. -/
  needed : Nat
  /-- The least and the greatest next byte. -/
  lo : Nat
  hi : Nat
deriving DecidableEq, Repr

/-- The character that stands for broken bytes. -/
def replacement : Char := Char.ofNat 0xFFFD

/-- What the first byte of a character gives: a character, or the wait for more bytes. -/
def lead (b : Nat) : Char ⊕ Pending :=
  if b < 0x80 then .inl (Char.ofNat b)
  else if b < 0xC2 then .inl replacement
  else if b < 0xE0 then .inr ⟨b - 0xC0, 1, 0x80, 0xBF⟩
  else if b = 0xE0 then .inr ⟨0, 2, 0xA0, 0xBF⟩
  else if b = 0xED then .inr ⟨0xD, 2, 0x80, 0x9F⟩
  else if b < 0xF0 then .inr ⟨b - 0xE0, 2, 0x80, 0xBF⟩
  else if b = 0xF0 then .inr ⟨0, 3, 0x90, 0xBF⟩
  else if b < 0xF4 then .inr ⟨b - 0xF0, 3, 0x80, 0xBF⟩
  else if b = 0xF4 then .inr ⟨4, 3, 0x80, 0x8F⟩
  else .inl replacement

/-- The text of bytes, some bytes of a character having been read. -/
def decodeFrom : Option Pending → List Nat → List Char
  | none, [] => []
  | some _, [] => [replacement]
  | none, b :: r =>
    match lead b with
    | .inl c => c :: decodeFrom none r
    | .inr p => decodeFrom (some p) r
  | some p, b :: r =>
    if p.lo ≤ b && b ≤ p.hi then
      let v := p.value * 64 + b % 64
      if p.needed = 1 then Char.ofNat v :: decodeFrom none r
      else decodeFrom (some ⟨v, p.needed - 1, 0x80, 0xBF⟩) r
    else
      replacement ::
        match lead b with
        | .inl c => c :: decodeFrom none r
        | .inr q => decodeFrom (some q) r

/-- The text of bytes. -/
def decode (bytes : List Nat) : List Char := decodeFrom none bytes

end Realty.Text.Utf8
