/-
# The shortest text of a double

* `Shortest.digits` finds, for a positive double, the fewest decimal digits that read back as it,
  and of those the nearest to it.  The reals that round to the double form an interval around it;
  for one digit, two digits and so on the two neighbours of the value on that decimal grid are
  tried, and the first grid with a neighbour in the interval decides.
* `text` writes them: positionally when the first digit stands from four places after the point
  to sixteen before it, and otherwise with a power of ten of two digits at least.
-/
import Realty.Double.Basic

namespace Realty.Double

/-! ## 1. The digits -/

namespace Shortest

/-- A positive value and the reals that round to it, as numerators over one denominator. -/
structure Interval where
  low : Nat
  value : Nat
  high : Nat
  den : Nat
  /-- Whether the two ends round to the value. -/
  closed : Bool
deriving Repr

/-- The interval of `m · 2 ^ e`.  Below a power of two the doubles lie twice as close. -/
def interval (m : Nat) (e : Int) : Interval :=
  let below := if m = 0x10000000000000 && e > -1074 then 1 else 2
  let scale := Nat.pow 2 (e - 2).toNat
  { low := (4 * m - below) * scale
    value := 4 * m * scale
    high := (4 * m + 2) * scale
    den := Nat.pow 2 (2 - e).toNat
    closed := m % 2 == 0 }

/-- Whether the decimal `d · 10 ^ p` lies in the interval. -/
def Interval.contains (v : Interval) (d : Nat) (p : Int) : Bool :=
  let x := d * Nat.pow 10 p.toNat * v.den
  let unit := Nat.pow 10 (-p).toNat
  if v.closed then v.low * unit ≤ x && x ≤ v.high * unit
  else v.low * unit < x && x < v.high * unit

/-- The neighbour of the value on the grid of step `10 ^ p` that lies in the interval; of two the
nearer one, and the even one in a tie. -/
def Interval.neighbour? (v : Interval) (p : Int) : Option Nat :=
  let num := v.value * Nat.pow 10 (-p).toNat
  let step := Nat.pow 10 p.toNat * v.den
  let d := num / step
  match v.contains d p, v.contains (d + 1) p with
  | true, false => some d
  | false, true => some (d + 1)
  | false, false => none
  | true, true =>
    let twice := 2 * (num % step)
    if twice < step || (twice = step && d % 2 = 0) then some d else some (d + 1)

/-- A power of ten that is not below the value. -/
def magnitude (m : Nat) (e : Int) : Int := (Nat.log2 m + 1 + e) * 30103 / 100000 + 1

/-- The first hit on the grids `10 ^ p`, `10 ^ (p - 1)`, …, as digits and power of ten. -/
def search (v : Interval) : Nat → Int → Nat × Int
  | 0, p => (v.value * Nat.pow 10 (-p).toNat / (Nat.pow 10 p.toNat * v.den), p)
  | fuel + 1, p =>
    match v.neighbour? p with
    | some d => if d = 0 then search v fuel (p - 1) else (d, p)
    | none => search v fuel (p - 1)

/-- The shortest decimal `d · 10 ^ p` that reads back as `m · 2 ^ e`. -/
def digits (m : Nat) (e : Int) : Nat × Int := search (interval m e) 20 (magnitude m e)

end Shortest

/-! ## 2. The text -/

/-- The range of places of the first digit, counted from the point, that is written
positionally. -/
def positionalPlaces : Int × Int := (-3, 16)

/-- The text of a power of ten: a sign and two digits at least. -/
def exponentText (e : Int) : List Char :=
  'e' :: (if e < 0 then '-' else '+') :: Text.padZeros 2 (Text.natDigits e.natAbs)

/-- A digit string whose point stands after `point` digits. -/
def positional (ds : List Char) (point : Int) : List Char :=
  if point ≤ 0 then '0' :: '.' :: List.replicate (-point).toNat '0' ++ ds
  else
    let k := point.toNat
    if ds.length ≤ k then ds ++ List.replicate (k - ds.length) '0' ++ ['.', '0']
    else ds.take k ++ '.' :: ds.drop k

/-- A digit string with the point after its first digit, and a power of ten. -/
def scientific (ds : List Char) (point : Int) : List Char :=
  match ds with
  | [] => []
  | [d] => d :: exponentText (point - 1)
  | d :: r => d :: '.' :: r ++ exponentText (point - 1)

/-- The text of a positive finite value. -/
def magnitudeText (m : Nat) (e : Int) : List Char :=
  let (d, p) := Shortest.digits m e
  let ds := Text.natDigits d
  let point := ds.length + p
  if positionalPlaces.1 ≤ point && point ≤ positionalPlaces.2 then positional ds point
  else scientific ds point

/-- The shortest text of a double. -/
def textChars (x : Float) : List Char :=
  match decode x with
  | .nan => "nan".toList
  | .infinity negative => (if negative then "-inf" else "inf").toList
  | .finite negative m e =>
    (if negative then ['-'] else []) ++ (if m = 0 then "0.0".toList else magnitudeText m e)

/-- The shortest text of a double, as a string. -/
def text (x : Float) : String := String.ofList (textChars x)

end Realty.Double
