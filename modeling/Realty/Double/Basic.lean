/-
# Binary floating point

What the rest of the library needs to know about doubles, in terms of their exact values.

* `ofScaled m e` is the double nearest to `m · 10 ^ e`, ties to even; integers and numerals are
  both rounded by it, so a number and its text give one double (`ofInt`, `ofNumeral`).
* `decode` gives the exact value of a double as `± mantissa · 2 ^ exponent`.
* `truncate?` cuts a finite double toward zero; `toRat?` is its value.
-/
import Realty.Text.Numeral

namespace Realty.Double

/-! ## 1. Rounding to a double -/

/-- The double nearest to `m · 10 ^ e`; a value beyond the range is infinite. -/
def ofScaled (m : Nat) (e : Int) : Float := Float.ofBits (Float.Model.ofScientific m e).toBits

/-- Infinity, with a sign. -/
def infinity (negative : Bool) : Float :=
  Float.ofBits (if negative then 0xFFF0000000000000 else 0x7FF0000000000000)

/-- Not a number. -/
def nan : Float := Float.ofBits 0x7FF8000000000000

/-- A double with its sign changed if asked. -/
def withSign (negative : Bool) (x : Float) : Float := if negative then -x else x

/-- The double nearest to an integer. -/
def ofInt (n : Int) : Float := withSign (n < 0) (ofScaled n.natAbs 0)

/-- The double nearest to a written number. -/
def ofNumeral : Text.Numeral → Float
  | .decimal negative digits exponent => withSign negative (ofScaled digits exponent)
  | .infinity negative => infinity negative
  | .nan => nan

/-! ## 2. Exact values -/

/-- What a double stands for. -/
inductive Decoded where
  | nan
  | infinity (negative : Bool)
  | finite (negative : Bool) (mantissa : Nat) (exponent : Int)
deriving DecidableEq, Repr

/-- Whether a sign is the minus sign. -/
def isNegative : Float.Model.UnpackedFloat.Sign → Bool
  | .negative => true
  | .positive => false

/-- A double taken apart; zero has mantissa zero. -/
def decode (x : Float) : Decoded :=
  match Float.Model.UnpackedFloat.unpack .binary64 x.toBits.toBitVec with
  | .notANumber => .nan
  | .infinity s => .infinity (isNegative s)
  | .zero s => .finite (isNegative s) 0 0
  | .finite s m e _ => .finite (isNegative s) m e

/-- Whether a double is neither infinite nor not a number. -/
def isFinite (x : Float) : Bool :=
  match decode x with
  | .finite .. => true
  | _ => false

/-- Whether a double is not a number. -/
def isNaN (x : Float) : Bool := decode x = .nan

/-- Whether a double is a zero of either sign. -/
def isZero (x : Float) : Bool :=
  match decode x with
  | .finite _ m _ => m == 0
  | _ => false

/-- A magnitude `m · 2 ^ e` cut to a whole number. -/
def truncateScaled (m : Nat) (e : Int) : Nat :=
  if 0 ≤ e then m * Nat.pow 2 e.toNat else m / Nat.pow 2 (-e).toNat

/-- A finite double cut toward zero. -/
def truncate? (x : Float) : Option Int :=
  match decode x with
  | .finite negative m e => some (Text.signed negative (truncateScaled m e))
  | _ => none

/-- The value of a finite double. -/
def toRat? (x : Float) : Option Rat :=
  match decode x with
  | .finite negative m e =>
    let n := Text.signed negative m
    some (if 0 ≤ e then (n * Nat.pow 2 e.toNat : Int) else mkRat n (Nat.pow 2 (-e).toNat))
  | _ => none

/-- The integer nearest to an integer, by way of a double; none when it is out of range. -/
def ofInt? (n : Int) : Option Float :=
  let x := ofInt n
  if isFinite x then some x else none

end Realty.Double
