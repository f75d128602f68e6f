/-
# Arithmetic in the query language

The expressions that compute with numbers, as the query language reads them, in exact arithmetic.

* `Number` and `Test` are expressions with a number and with a truth; `Number.text` and `Test.text`
  write them without any parentheses of their own.
* `Number.isPlaced` and `Test.isPlaced` say that every operand binds at least as tight as its
  operator asks for, so that the text is read as the expression it was written from.
* `Number.value` and `Test.truth` evaluate on a row.  Every operand is evaluated, whatever another
  one says: the query language may take them in any order.  A zero divisor has no value.
-/
import Mathlib.Data.Rat.Floor

namespace Realty.Sql.Arithmetic

/-! ## 1. Expressions -/

mutual

/-- An expression with a number. -/
inductive Number where
  | column (name : String)
  | slot (name : String)
  | whole (n : Nat)
  | add (a b : Number)
  | sub (a b : Number)
  | mul (a b : Number)
  | div (a b : Number)
  | parens (a : Number)
  /-- What a division leaves. -/
  | mod (a b : Number)
  /-- One of two numbers, as a test says. -/
  | choice (test : Test) (a b : Number)

/-- An expression with a truth. -/
inductive Test where
  | less (a b : Number)
  | greater (a b : Number)
  | equal (a b : Number)
  /-- One of two tests holds, and not both. -/
  | differ (s t : Test)
  | both (s t : Test)
  | parens (t : Test)

end

/-- The text of a choice with the texts of its parts. -/
def choiceText (test a b : String) : String :=
  "CASE WHEN " ++ test ++ " THEN " ++ a ++ " ELSE " ++ b ++ " END"

mutual

/-- The text of an expression. -/
def Number.text : Number → String
  | .column name => name
  | .slot name => ":" ++ name
  | .whole n => Nat.repr n
  | .add a b => a.text ++ " + " ++ b.text
  | .sub a b => a.text ++ " - " ++ b.text
  | .mul a b => a.text ++ " * " ++ b.text
  | .div a b => a.text ++ " / " ++ b.text
  | .parens a => "(" ++ a.text ++ ")"
  | .mod a b => "MOD(" ++ a.text ++ ", " ++ b.text ++ ")"
  | .choice test a b => choiceText test.text a.text b.text

/-- The text of a test. -/
def Test.text : Test → String
  | .less a b => a.text ++ " < " ++ b.text
  | .greater a b => a.text ++ " > " ++ b.text
  | .equal a b => a.text ++ " = " ++ b.text
  | .differ s t => s.text ++ " <> " ++ t.text
  | .both s t => s.text ++ " AND " ++ t.text
  | .parens t => "(" ++ t.text ++ ")"

end

/-! ## 2. Precedence -/

/-- How tight an expression binds: sums least, then products. -/
def Number.tightness : Number → Nat
  | .add .. | .sub .. => 1
  | .mul .. | .div .. => 2
  | _ => 3

/-- How tight a test binds: conjunctions least, then comparisons. -/
def Test.tightness : Test → Nat
  | .both .. => 1
  | .parens _ => 3
  | _ => 2

mutual

/-- Whether every operand binds as tight as its operator asks for; operators of one kind are read
from the left. -/
def Number.isPlaced : Number → Bool
  | .column _ | .slot _ | .whole _ => true
  | .add a b | .sub a b => a.isPlaced && b.isPlaced && decide (2 ≤ b.tightness)
  | .mul a b | .div a b =>
    a.isPlaced && b.isPlaced && decide (2 ≤ a.tightness) && decide (3 ≤ b.tightness)
  | .parens a => a.isPlaced
  | .mod a b => a.isPlaced && b.isPlaced
  | .choice test a b => test.isPlaced && a.isPlaced && b.isPlaced

/-- Whether every operand of a test binds as tight as its operator asks for. -/
def Test.isPlaced : Test → Bool
  | .less a b | .greater a b | .equal a b => a.isPlaced && b.isPlaced
  | .differ s t =>
    s.isPlaced && t.isPlaced && decide (3 ≤ s.tightness) && decide (3 ≤ t.tightness)
  | .both s t => s.isPlaced && t.isPlaced && decide (2 ≤ t.tightness)
  | .parens t => t.isPlaced

end

/-! ## 3. Values -/

/-- A quotient; there is none by zero. -/
def quotient (x y : Rat) : Option Rat := if y = 0 then none else some (x / y)

/-- A number cut toward zero. -/
def truncated (x : Rat) : Int := if 0 ≤ x then ⌊x⌋ else ⌈x⌉

/-- What a division leaves, with the sign of the dividend. -/
def remainder (x y : Rat) : Option Rat := (quotient x y).map fun q => x - y * truncated q

section Values

/-- The numbers in the columns of a row, and those that the placeholders are bound to. -/
structure Context where
  row : String → Rat
  params : List (String × Rat)

variable (context : Context)

mutual

/-- The number of an expression, if it has one. -/
def Number.value : Number → Option Rat
  | .column name => some (context.row name)
  | .slot name => context.params.lookup name
  | .whole n => some n
  | .add a b => do return (← a.value) + (← b.value)
  | .sub a b => do return (← a.value) - (← b.value)
  | .mul a b => do return (← a.value) * (← b.value)
  | .div a b => do quotient (← a.value) (← b.value)
  | .parens a => a.value
  | .mod a b => do remainder (← a.value) (← b.value)
  | .choice test a b => do if ← test.truth then a.value else b.value

/-- The truth of a test, if it has one. -/
def Test.truth : Test → Option Bool
  | .less a b => do return decide ((← a.value) < (← b.value))
  | .greater a b => do return decide ((← b.value) < (← a.value))
  | .equal a b => do return decide ((← a.value) = (← b.value))
  | .differ s t => do return (← s.truth) != (← t.truth)
  | .both s t => do
    let x ← s.truth
    let y ← t.truth
    return x && y
  | .parens t => t.truth

end

end Values

end Realty.Sql.Arithmetic
