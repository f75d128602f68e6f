/-
# Faults

A dynamic value may stand where an operation cannot use it.  A fault says what was wrong; its
message names the kinds of value involved.  Rejections that a user of the search can cause and
should read have their own types, beside the operations that raise them.
-/
import Realty.Value.Basic

namespace Realty

/-- Why an operation could not use a value. -/
inductive Fault where
  /-- Arithmetic was asked of something that is no number. -/
  | notReal (kind : String)
  /-- A double was asked of something that is neither a number nor text. -/
  | notConvertible (kind : String)
  /-- A double was asked of a text that writes none. -/
  | notNumeral (text : String)
  /-- An integer was asked of a text that writes none. -/
  | notIntegral (text : String)
  /-- An integer was asked of something that is neither a number nor text. -/
  | notInteger (kind : String)
  /-- An integer was asked of a double that is not a number. -/
  | integerOfNaN
  /-- An integer was asked of an infinite double. -/
  | integerOfInfinity
  /-- An integer is beyond the range of doubles. -/
  | integerTooLarge
  /-- The text of an integer has too many digits. -/
  | integerTooLong (digits : Nat)
  /-- An element was asked of something that has none. -/
  | notSubscriptable (kind : String)
  /-- An element was asked beyond the end. -/
  | indexOutOfRange (kind : String)
  /-- A mapping was asked for a key that it does not have. -/
  | missingKey (key : String)
  /-- The length was asked of something that has none. -/
  | noLength (kind : String)
  /-- The elements were asked of something that has none. -/
  | notIterable (kind : String)
  /-- Two coordinates were asked of something that has no elements. -/
  | notUnpackable (kind : String)
  /-- Two coordinates were asked of fewer elements. -/
  | tooFewElements (count : Nat)
  /-- Two values have no order. -/
  | notComparable (operator left right : String)
  /-- An arithmetic operator does not take two such values. -/
  | noOperator (operator left right : String)
  /-- Text was asked of something else. -/
  | notText (kind : String)
  /-- A function has no value at its argument. -/
  | outsideDomain
  /-- Something is nested more deeply than there is room for. -/
  | nestedTooDeeply
deriving DecidableEq, Repr

/-- The text of a fault. -/
def Fault.message : Fault → String
  | .notReal kind => "must be real number, not " ++ kind
  | .notConvertible kind =>
    "float() argument must be a string or a real number, not '" ++ kind ++ "'"
  | .notNumeral s => "could not convert string to float: " ++ Text.quoted s
  | .notIntegral s => "invalid literal for int() with base 10: " ++ Text.quoted s
  | .notInteger kind =>
    "int() argument must be a string, a bytes-like object or a real number, not '" ++ kind ++ "'"
  | .integerOfNaN => "cannot convert float NaN to integer"
  | .integerOfInfinity => "cannot convert float infinity to integer"
  | .integerTooLarge => "int too large to convert to float"
  | .integerTooLong digits =>
    "Exceeds the limit (4300 digits) for integer string conversion: value has " ++
      Text.intText digits ++
      " digits; use sys.set_int_max_str_digits() to increase the limit"
  | .notSubscriptable kind => "'" ++ kind ++ "' object is not subscriptable"
  | .indexOutOfRange kind =>
    (if kind = "str" then "string" else kind) ++ " index out of range"
  | .missingKey key => key
  | .noLength kind => "object of type '" ++ kind ++ "' has no len()"
  | .notIterable kind => "'" ++ kind ++ "' object is not iterable"
  | .notUnpackable kind => "cannot unpack non-iterable " ++ kind ++ " object"
  | .tooFewElements count =>
    "not enough values to unpack (expected at least 2, got " ++ Text.intText count ++ ")"
  | .notComparable operator left right =>
    "'" ++ operator ++ "' not supported between instances of '" ++ left ++ "' and '" ++ right ++
      "'"
  | .noOperator operator left right =>
    "unsupported operand type(s) for " ++ operator ++ ": '" ++ left ++ "' and '" ++ right ++ "'"
  | .notText kind => "expected string or bytes-like object, got '" ++ kind ++ "'"
  | .outsideDomain => "math domain error"
  | .nestedTooDeeply => "maximum recursion depth exceeded"

/-- The most digits that the text of an integer may have. -/
def Fault.maxDigits : Nat := 4300

/-- The integer that a text writes. -/
def integerOfText (s : String) : Except Fault Int :=
  match Text.readInt? s.toList with
  | none => .error (.notIntegral s)
  | some n =>
    let digits := s.toList.countP Text.isDigit
    if digits > Fault.maxDigits then .error (.integerTooLong digits) else .ok n

/-! ## Steps that may fail -/

theorem bind_eq_ok_iff {ε α β : Type} {x : Except ε α} {f : α → Except ε β} {b : β} :
    x >>= f = .ok b ↔ ∃ a, x = .ok a ∧ f a = .ok b := by
  cases x <;> simp [bind, Except.bind]

theorem map_eq_ok_iff {ε α β : Type} {f : α → β} {x : Except ε α} {b : β} :
    x.map f = .ok b ↔ ∃ a, x = .ok a ∧ f a = b := by
  cases x <;> simp [Except.map]

end Realty
