/-
# Decimal numbers

Exact decimal numbers, which remember how many places they were written with.

* `Decimal.text` writes a number positionally when its power of ten is not positive and its first
  digit stands no more than six places after the point, and otherwise with an exponent.
* `Decimal.read?` reads every form that `Numeral` knows; underscores are ignored wherever they
  stand.
* `Decimal.toRat?` is the value.
-/
import Realty.Double.Basic

namespace Realty

/-- A decimal number: an integer times a power of ten, or a special value. -/
inductive Decimal where
  | finite (negative : Bool) (coefficient : Nat) (exponent : Int)
  | infinity (negative : Bool)
  | nan
deriving DecidableEq, Repr

namespace Decimal

/-! ## 1. Text -/

/-- The power of ten after the letter, with its sign. -/
def exponentText (e : Int) : List Char :=
  'E' :: (if e < 0 then '-' else '+') :: Text.natDigits e.natAbs

/-- The magnitude `coefficient · 10 ^ exponent` as text. -/
def magnitudeText (coefficient : Nat) (exponent : Int) : List Char :=
  let ds := Text.natDigits coefficient
  let left := exponent + ds.length
  if exponent ≤ 0 && left > -6 then
    if exponent = 0 then ds
    else if left ≤ 0 then '0' :: '.' :: List.replicate (-left).toNat '0' ++ ds
    else ds.take left.toNat ++ '.' :: ds.drop left.toNat
  else
    let mantissa := match ds with
      | d :: x :: r => d :: '.' :: x :: r
      | ds => ds
    mantissa ++ (if left = 1 then [] else exponentText (left - 1))

/-- The text of a decimal number. -/
def textChars : Decimal → List Char
  | .finite negative c e => (if negative then ['-'] else []) ++ magnitudeText c e
  | .infinity negative => (if negative then "-Infinity" else "Infinity").toList
  | .nan => "NaN".toList

/-- The text of a decimal number, as a string. -/
def text (d : Decimal) : String := String.ofList d.textChars

/-- The decimal number that a text writes. -/
def read? (s : List Char) : Option Decimal :=
  (Text.Numeral.read? (Text.trim (s.filter (· ≠ '_')))).map fun
    | .decimal negative digits exponent => .finite negative digits exponent
    | .infinity negative => .infinity negative
    | .nan => .nan

/-! ## 2. Value -/

/-- Whether a number is neither infinite nor not a number. -/
def isFinite : Decimal → Bool
  | .finite .. => true
  | _ => false

/-- The value of a finite decimal number. -/
def toRat? : Decimal → Option Rat
  | .finite negative c e =>
    let n := Text.signed negative c
    some (if 0 ≤ e then (n * Nat.pow 10 e.toNat : Int) else mkRat n (Nat.pow 10 (-e).toNat))
  | _ => none

end Decimal

end Realty
