/-
# Values

Filter values, predicate values and row fields are values of one dynamic type: a request may send
anything anywhere, and what a place accepts is decided there.

* `Value.isTruthy` is the truth of a value: empty and zero values are false.
* `Value.toNumber?` is the exact value of a number, truth values counting as one and zero.
* `Value.same` compares structurally: numbers by their value whatever their kind, mappings without
  regard to order, lists and tuples apart.
* `Value.text` is the plain text of a value, `Value.listing` its form inside a listing of values;
  the two differ in strings, decimals and dates only.

Texts are sequences of Unicode characters.  Halves of surrogate pairs are no characters: a text with
such a half standing alone, or with two of them that are not joined to one character, is no value
here, and all that is said of all values leaves such texts out.  An integer of more than 4300 digits
is refused a text: what is said of the texts of values leaves such integers out.
-/
import Realty.Decimal
import Realty.Calendar
import Realty.Double.Shortest
import Realty.Text.Quoted
import Realty.Text.Split

namespace Realty

/-- A dynamic value. -/
inductive Value where
  | null
  | bool (b : Bool)
  | int (n : Int)
  | float (x : Float)
  /-- A text of Unicode characters, none of them a surrogate half. -/
  | str (s : String)
  | decimal (d : Decimal)
  | date (d : Date)
  | datetime (t : DateTime)
  | list (items : List Value)
  | tuple (items : List Value)
  | object (fields : List (String × Value))
deriving Inhabited

namespace Value

/-! ## 1. Views -/

/-- The name of a value's kind, as messages give it. -/
def kindName : Value → String
  | .null => "NoneType"
  | .bool _ => "bool"
  | .int _ => "int"
  | .float _ => "float"
  | .str _ => "str"
  | .decimal _ => "decimal.Decimal"
  | .date _ => "datetime.date"
  | .datetime _ => "datetime.datetime"
  | .list _ => "list"
  | .tuple _ => "tuple"
  | .object _ => "dict"

/-- The name of a value's kind without what stands before its last point. -/
def bareKindName : Value → String
  | .decimal _ => "Decimal"
  | .date _ => "date"
  | .datetime _ => "datetime"
  | v => v.kindName

/-- The items of a list or tuple. -/
def items? : Value → Option (List Value)
  | .list xs => some xs
  | .tuple xs => some xs
  | _ => none

/-- Whether a value is the null value. -/
def isNull : Value → Bool
  | .null => true
  | _ => false

/-- The truth of a value: false for null, zero and whatever is empty. -/
def isTruthy : Value → Bool
  | .null => false
  | .bool b => b
  | .int n => n != 0
  | .float x => !Double.isZero x
  | .str s => !s.isEmpty
  | .decimal (.finite _ c _) => c != 0
  | .decimal _ => true
  | .date _ => true
  | .datetime _ => true
  | .list xs => !xs.isEmpty
  | .tuple xs => !xs.isEmpty
  | .object fs => !fs.isEmpty

/-- Whether a filter was left empty: null, the empty text, or no items. -/
def isBlank : Value → Bool
  | .null => true
  | .str s => s.isEmpty
  | .list xs => xs.isEmpty
  | .tuple xs => xs.isEmpty
  | _ => false

/-! ## 2. Numbers -/

/-- The exact value of a number, or an infinity. -/
inductive Number where
  | finite (q : Rat)
  | infinity (negative : Bool)
deriving DecidableEq

/-- The exact value of a number; none for what is not a number. -/
def toNumber? : Value → Option Number
  | .bool b => some (.finite (if b then 1 else 0))
  | .int n => some (.finite n)
  | .float x =>
    match Double.decode x with
    | .nan => none
    | .infinity negative => some (.infinity negative)
    | .finite .. => (Double.toRat? x).map .finite
  | .decimal (.infinity negative) => some (.infinity negative)
  | .decimal d => d.toRat?.map .finite
  | _ => none

/-- Whether one number is less than another. -/
def Number.lt : Number → Number → Bool
  | .finite p, .finite q => decide (p < q)
  | .infinity negative, .finite _ => negative
  | .finite _, .infinity negative => !negative
  | .infinity a, .infinity b => a && !b

/-- Whether both values are numbers, the first less than the second. -/
def isLess (a b : Value) : Bool :=
  match a.toNumber?, b.toNumber? with
  | some x, some y => x.lt y
  | _, _ => false

/-! ## 3. Equality -/

mutual

/-- Whether two values are equal: numbers by value, mappings by what each key maps to. -/
def same : Value → Value → Bool
  | .null, .null => true
  | .str a, .str b => a == b
  | .date a, .date b => a == b
  | .datetime a, .datetime b => a == b
  | .list xs, .list ys => sameItems xs ys
  | .tuple xs, .tuple ys => sameItems xs ys
  | .object fs, .object gs => fs.length == gs.length && sameFields fs gs
  | a, b =>
    match a.toNumber?, b.toNumber? with
    | some x, some y => x == y
    | _, _ => false

/-- Whether two lists are equal item by item. -/
def sameItems : List Value → List Value → Bool
  | [], [] => true
  | x :: xs, y :: ys => x.same y && sameItems xs ys
  | _, _ => false

/-- Whether every field of a mapping has an equal one in another mapping. -/
def sameFields : List (String × Value) → List (String × Value) → Bool
  | [], _ => true
  | (k, x) :: fs, gs =>
    (match gs.lookup k with
      | some y => x.same y
      | none => false) && sameFields fs gs

end

/-! ## 4. Text -/

/-- The text of a truth value. -/
def boolText (b : Bool) : String := if b then "True" else "False"

/-- The numbers that a moment is listed by: a zero second is left out, and so is a zero fraction. -/
def momentArguments (t : DateTime) : List Nat :=
  let base := [t.date.year, t.date.month, t.date.day, t.hour, t.minute]
  if t.microsecond ≠ 0 then base ++ [t.second, t.microsecond]
  else if t.second ≠ 0 then base ++ [t.second]
  else base

/-- Numbers with a comma and a space between them. -/
def argumentText (ns : List Nat) : String :=
  Text.joined ", " (ns.map fun (n : Nat) => Text.intText n)

/-- Listed items between two brackets. -/
def bracketed (opening closing : String) (items : List String) : String :=
  opening ++ Text.joined ", " items ++ closing

mutual

/-- A value inside a listing of values: text is quoted. -/
def listing : Value → String
  | .null => "None"
  | .bool b => boolText b
  | .int n => Text.intText n
  | .float x => Double.text x
  | .str s => Text.quoted s
  | .decimal d => "Decimal('" ++ d.text ++ "')"
  | .date d => "datetime.date(" ++ argumentText [d.year, d.month, d.day] ++ ")"
  | .datetime t => "datetime.datetime(" ++ argumentText (momentArguments t) ++ ")"
  | .list xs => bracketed "[" "]" (listingItems xs)
  | .tuple [x] => "(" ++ x.listing ++ ",)"
  | .tuple xs => bracketed "(" ")" (listingItems xs)
  | .object fs => bracketed "\x7b" "\x7d" (listingFields fs)

/-- The listed form of each item. -/
def listingItems : List Value → List String
  | [] => []
  | x :: xs => x.listing :: listingItems xs

/-- The listed form of each field. -/
def listingFields : List (String × Value) → List String
  | [] => []
  | (k, x) :: fs => (Text.quoted k ++ ": " ++ x.listing) :: listingFields fs

end

/-- The plain text of a value. -/
def text : Value → String
  | .str s => s
  | .decimal d => d.text
  | .date d => d.iso
  | .datetime t => t.isoWith ' '
  | v => v.listing

end Value

end Realty
