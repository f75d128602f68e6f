/-
# Numerals

The text forms of numbers that a user may type.

* A digit is a decimal digit of any script, and a single underscore may stand between two digits
  (`digitRun`).
* An integer is an optional sign and a run of digits (`readInt?`).
* A numeral is an integer with an optional fraction and an optional power of ten, or one of the
  words `inf`, `infinity` and `nan` in any case (`Numeral.read?`).

White space around a number is ignored; white space inside it is not.
-/
import Realty.Text.Blank
import Realty.Text.Digit
import Realty.Text.Case

namespace Realty.Text

/-- The digits at the start of a text, and what follows them.  Before the first digit no
underscore is read, so a run starts and ends with a digit. -/
def digitRun : List Char → List Nat × List Char
  | [] => ([], [])
  | c :: r =>
    match digitValue? c with
    | none => ([], c :: r)
    | some d => let t := more r; (d :: t.1, t.2)
where
  /-- The rest of a run, after one of its digits. -/
  more : List Char → List Nat × List Char
    | [] => ([], [])
    | '_' :: c :: r =>
      match digitValue? c with
      | none => ([], '_' :: c :: r)
      | some d => let t := more r; (d :: t.1, t.2)
    | c :: r =>
      match digitValue? c with
      | none => ([], c :: r)
      | some d => let t := more r; (d :: t.1, t.2)

/-- Whether a text starts with a minus sign, and what follows its sign. -/
def readSign : List Char → Bool × List Char
  | '-' :: r => (true, r)
  | '+' :: r => (false, r)
  | r => (false, r)

/-- A magnitude with a sign. -/
def signed (negative : Bool) (n : Nat) : Int := if negative then -(n : Int) else n

/-- The integer that a text writes. -/
def readInt? (s : List Char) : Option Int :=
  let (negative, r) := readSign (trimWhere isWhiteSpace s)
  match digitRun r with
  | (d :: ds, []) => some (signed negative (ofDigits (d :: ds)))
  | _ => none

/-- A number as it is written: a digit string times a power of ten, or a word. -/
inductive Numeral where
  | decimal (negative : Bool) (digits : Nat) (exponent : Int)
  | infinity (negative : Bool)
  | nan
deriving DecidableEq, Repr

namespace Numeral

/-- The power of ten that may follow the digits, up to the end of the text. -/
def readExponent? : List Char → Option Int
  | [] => some 0
  | c :: r =>
    if c = 'e' || c = 'E' then
      let (negative, t) := readSign r
      match digitRun t with
      | (d :: ds, []) => some (signed negative (ofDigits (d :: ds)))
      | _ => none
    else none

/-- Digits with an optional fraction and power of ten. -/
def readDecimal? (negative : Bool) (s : List Char) : Option Numeral :=
  let (whole, r) := digitRun s
  let (fraction, t) := match r with
    | '.' :: r => digitRun r
    | r => ([], r)
  if whole.isEmpty && fraction.isEmpty then none
  else (readExponent? t).map fun e =>
    .decimal negative (ofDigits (whole ++ fraction)) (e - fraction.length)

/-- The number that a text writes. -/
def read? (s : List Char) : Option Numeral :=
  let (negative, r) := readSign (trimWhere isWhiteSpace s)
  let word := asciiLower r
  if word = "inf".toList || word = "infinity".toList then some (.infinity negative)
  else if word = "nan".toList then some .nan
  else readDecimal? negative r

end Numeral

end Realty.Text
