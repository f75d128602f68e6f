/-
# Doubles to a fixed number of places

`fixedText places x` writes the exact value of a double rounded to the given number of decimal
places, a half going to the even neighbour.
-/
import Realty.Double.Basic

namespace Realty.Double

/-- The integer nearest to a quotient, a half going to the even neighbour. -/
def roundDiv (num den : Nat) : Nat :=
  let q := num / den
  let twice := 2 * (num % den)
  if twice < den || (twice = den && q % 2 = 0) then q else q + 1

/-- The text of a double with the given number of decimal places. -/
def fixedText (places : Nat) (x : Float) : String :=
  match decode x with
  | .nan => "nan"
  | .infinity negative => if negative then "-inf" else "inf"
  | .finite negative m e =>
    let unit := Nat.pow 10 places
    let n := roundDiv (m * unit * Nat.pow 2 e.toNat) (Nat.pow 2 (-e).toNat)
    let whole := Text.natDigits (n / unit)
    let fraction := Text.padZeros places (Text.natDigits (n % unit))
    String.ofList ((if negative then ['-'] else []) ++ whole ++ '.' :: fraction)

end Realty.Double
