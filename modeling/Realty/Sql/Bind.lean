/-
# Bound values and their types

* `BindType.ofValue` is the type of a value by itself, `BindType.compared` its type in a
  comparison with a column: the column's own type, unless the value is of another family.
* `BindType.castName?` is the cast that a placeholder carries; numbers with a fraction and truth
  values carry none.
* `literal` writes a value in place, as its type demands.
-/
import Realty.Geo.Reading
import Realty.Sql.Column

namespace Realty.Sql

/-! ## 1. Types -/

/-- The type that a value is bound with. -/
inductive BindType where
  | column (t : ColumnType)
  | string
  | integer
  | bigInteger
  | boolean
  | date
  | timestamp
  | float
  | decimal
  | unknown
deriving DecidableEq, Repr

/-- Types that compare without a cast. -/
inductive Family where
  | text
  | whole
  | truth
  | day
  | moment
  | number
  | place
  | none
deriving DecidableEq, Repr

/-- The family of a column type. -/
def ColumnType.family : ColumnType → Family
  | .varchar _ | .text => .text
  | .integer => .whole
  | .boolean => .truth
  | .date => .day
  | .timestamp => .moment
  | .numeric _ _ => .number
  | .point => .place

namespace BindType

/-- The family of a type. -/
def family : BindType → Family
  | .column t => t.family
  | .string => .text
  | .integer | .bigInteger => .whole
  | .boolean => .truth
  | .date => .day
  | .timestamp => .moment
  | .float | .decimal => .number
  | .unknown => .none

/-- The least magnitude that needs more than 31 bits. -/
def wideMagnitude : Nat := 0x80000000

/-- Whether an integer needs more than 31 bits. -/
def isWide (n : Int) : Bool := wideMagnitude ≤ n.natAbs

/-- The type of a value by itself. -/
def ofValue : Value → BindType
  | .bool _ => .boolean
  | .int n => if isWide n then .bigInteger else .integer
  | .float _ => .float
  | .str _ => .string
  | .decimal _ => .decimal
  | .date _ => .date
  | .datetime _ => .timestamp
  | _ => .unknown

/-- The type of a value that is compared with a column. -/
def compared (c : Column) (v : Value) : BindType :=
  let t := ofValue v
  if c.type = .point || t = .unknown || t.family = c.type.family then .column c.type else t

/-- The cast that a placeholder of a type carries. -/
def castName? : BindType → Option String
  | .column (.varchar _) | .column .text | .string => some "VARCHAR"
  | .column .integer | .integer => some "INTEGER"
  | .bigInteger => some "BIGINT"
  | .column .date | .date => some "DATE"
  | .column .timestamp | .timestamp => some "TIMESTAMP WITHOUT TIME ZONE"
  | _ => none

/-- The name of a type in messages. -/
def name : BindType → String
  | .column .timestamp | .timestamp => "DATETIME"
  | .column t => t.name
  | .string => "VARCHAR"
  | .integer => "INTEGER"
  | .bigInteger => "BIGINT"
  | .boolean => "BOOLEAN"
  | .date => "DATE"
  | .float => "FLOAT"
  | .decimal => "NUMERIC"
  | .unknown => "NULL"

end BindType

/-! ## 2. Whole numbers -/

/-- The whole number that a value says, cut toward zero. -/
def wholeNumber (v : Value) : Except Fault Int :=
  match v with
  | .bool b => .ok (if b then 1 else 0)
  | .int n => .ok n
  | .float x =>
    match Double.decode x with
    | .nan => .error .integerOfNaN
    | .infinity _ => .error .integerOfInfinity
    | .finite negative m e => .ok (Text.signed negative (Double.truncateScaled m e))
  | .str s => integerOfText s
  | .decimal (.finite negative c e) =>
    let q := if 0 ≤ e then c * Nat.pow 10 e.toNat else c / Nat.pow 10 (-e).toNat
    .ok (Text.signed negative q)
  | .decimal .nan => .error .integerOfNaN
  | .decimal (.infinity _) => .error .integerOfInfinity
  | v => .error (.notInteger v.kindName)

/-! ## 3. Literals -/

/-- Why a value cannot be written in place. -/
inductive LiteralError where
  /-- Values of the type are never written in place. -/
  | noLiteral (value : Value) (type : BindType)
  /-- The value does not fit its type. -/
  | unfit (value : Value) (type : BindType)

/-- The length above which a value in a message is shortened. -/
def maxShown : Nat := 300

/-- A value in a message; the middle of a long one is left out. -/
def shown (v : Value) : String :=
  let cs := v.listing.toList
  if cs.length ≤ maxShown then v.listing
  else
    String.ofList (cs.take (maxShown / 2)) ++ " ... (" ++
      Text.intText ((cs.length - maxShown : Nat) : Int) ++ " characters truncated) ... " ++
      String.ofList (cs.drop (cs.length - maxShown / 2))

/-- The text of an error. -/
def LiteralError.message : LiteralError → String
  | .noLiteral v t =>
    "No literal value renderer is available for literal value \"" ++ shown v ++
      "\" with datatype " ++ t.name
  | .unfit v t =>
    "Could not render literal value \"" ++ shown v ++ "\" with datatype " ++ t.name ++
      "; see parent stack trace for more detail."

/-- A text in single quotes; quotes and percent signs are doubled. -/
def quote (s : String) : String :=
  String.ofList ('\'' :: s.toList.flatMap (fun c => if c = '\'' || c = '%' then [c, c] else [c]) ++
    ['\''])

/-- A truth value as a keyword. -/
def boolText (b : Bool) : String := if b then "true" else "false"

/-- The truth value that a value stands for. -/
def truth? (v : Value) : Option Bool :=
  match v.toNumber? with
  | some (.finite q) => if q = 0 then some false else if q = 1 then some true else none
  | _ => none

/-- The day of a date or moment. -/
def dayText? : Value → Option String
  | .date d => some d.iso
  | .datetime t => some t.date.iso
  | _ => none

/-- The text of a date or moment. -/
def momentText? : Value → Option String
  | .date d => some d.iso
  | .datetime t => some (t.isoWith ' ')
  | _ => none

/-- What a family writes for a value other than null, if the value fits. -/
def familyText? (v : Value) : Family → Option String
  | .text =>
    match v with
    | .str s => some (quote s)
    | _ => none
  | .whole => (wholeNumber v).toOption.map Text.intText
  | .truth => (truth? v).map boolText
  | .day => (dayText? v).map fun s => "'" ++ s ++ "'"
  | .moment => (momentText? v).map fun s => "'" ++ s ++ "'"
  | .number => some v.text
  | .place | .none => none

/-- A value written in place. -/
def literal (t : BindType) (v : Value) : Except LiteralError String :=
  if v.isNull then .ok "NULL"
  else if t.family = .place || t.family = .none then .error (.noLiteral v t)
  else match familyText? v t.family with
    | some s => .ok s
    | none => .error (.unfit v t)

end Realty.Sql
