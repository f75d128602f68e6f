/-
# Decimal digits

* `digitZeros` lists the zero of every decimal script (Unicode general category Nd, version 14);
  the ten digits of a script follow each other from there.
* `digitValue?` reads one digit of any script; on ASCII it is the usual reading
  (`digitValue?_digitChar`).
* `digitChar` and `natDigits` write numbers with ASCII digits.
-/

namespace Realty.Text

/-! ## 1. Reading -/

/-- The code point of the digit zero in each decimal script. -/
def digitZeros : List Nat :=
  [0x30, 0x660, 0x6F0, 0x7C0, 0x966, 0x9E6, 0xA66, 0xAE6, 0xB66, 0xBE6, 0xC66, 0xCE6, 0xD66,
   0xDE6, 0xE50, 0xED0, 0xF20, 0x1040, 0x1090, 0x17E0, 0x1810, 0x1946, 0x19D0, 0x1A80,
   0x1A90, 0x1B50, 0x1BB0, 0x1C40, 0x1C50, 0xA620, 0xA8D0, 0xA900, 0xA9D0, 0xA9F0, 0xAA50,
   0xABF0, 0xFF10, 0x104A0, 0x10D30, 0x11066, 0x110F0, 0x11136, 0x111D0, 0x112F0, 0x11450,
   0x114D0, 0x11650, 0x116C0, 0x11730, 0x118E0, 0x11950, 0x11C50, 0x11D50, 0x11DA0, 0x16A60,
   0x16AC0, 0x16B50, 0x1D7CE, 0x1D7D8, 0x1D7E2, 0x1D7EC, 0x1D7F6, 0x1E140, 0x1E2F0, 0x1E950,
   0x1FBF0]

/-- The value of a decimal digit of any script. -/
def digitValue? (c : Char) : Option Nat :=
  (digitZeros.find? fun z => z ≤ c.toNat && c.toNat < z + 10).map (c.toNat - ·)

/-- Whether a character is a decimal digit of some script. -/
def isDigit (c : Char) : Bool := (digitValue? c).isSome

/-- The number that a run of digit values writes, most significant first. -/
def ofDigits (ds : List Nat) : Nat := ds.foldl (fun n d => 10 * n + d) 0

/-- The value of an ASCII hexadecimal digit, either case. -/
def hexValue? (c : Char) : Option Nat :=
  if '0' ≤ c && c ≤ '9' then some (c.toNat - 48)
  else if 'a' ≤ c && c ≤ 'f' then some (c.toNat - 87)
  else if 'A' ≤ c && c ≤ 'F' then some (c.toNat - 55)
  else none

/-! ## 2. Writing -/

/-- The ASCII digit of a value below ten. -/
def digitChar (d : Nat) : Char := Char.ofNat (48 + d)

/-- The lower-case hexadecimal digit of a value below sixteen. -/
def hexChar (d : Nat) : Char := if d < 10 then digitChar d else Char.ofNat (87 + d)

/-- The decimal digits of a number, most significant first; zero has one. -/
def natDigits (n : Nat) : List Char := Nat.toDigits 10 n

/-- The decimal text of an integer. -/
def intDigits : Int → List Char
  | .ofNat n => natDigits n
  | .negSucc n => '-' :: natDigits (n + 1)

/-- The decimal text of an integer, as a string. -/
def intText (n : Int) : String := String.ofList (intDigits n)

/-- A text padded on the left with zeros to a width. -/
def padZeros (width : Nat) (s : List Char) : List Char :=
  List.replicate (width - s.length) '0' ++ s

/-- The hexadecimal text of a number at a fixed width. -/
def hexPadded (width n : Nat) : List Char :=
  (List.range width).reverse.map fun i => hexChar (n / Nat.pow 16 i % 16)

/-- Reading an ASCII digit gives back its value. -/
theorem digitValue?_digitChar : ∀ d < 10, digitValue? (digitChar d) = some d := by decide

end Realty.Text
