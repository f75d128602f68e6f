/-
# Predicates as clauses

`Predicate.clause` turns a predicate into a clause over the listings table.  Every value becomes a
bound value; a column name is looked up and never written as it was given.

All children of a joining are turned into clauses, and can fail, before anything is simplified.
-/
import Realty.Double.Fixed
import Realty.ListingNumber
import Realty.Predicate.Basic
import Realty.Sql.Clause
import Realty.Sql.Pattern

namespace Realty.Sql

/-! ## 1. Errors -/

/-- Why a statement cannot be written. -/
inductive RenderError where
  /-- A predicate names a column that the table does not have. -/
  | unknownColumn (name : String)
  /-- A value stands where a predicate should. -/
  | notPredicate (value : Value)
  /-- A value is given for a placeholder that the text does not have. -/
  | unknownPlaceholder (name : String)
  /-- Null or a truth value is compared by order. -/
  | unorderedConstant
  /-- A number of days does not fit a machine integer. -/
  | daysTooLarge
  /-- A number of days is beyond the longest span. -/
  | spanTooLong (days : Int)
  /-- A date is beyond the calendar. -/
  | dateOutOfRange
  /-- Something other than a number is given for days. -/
  | notDays (kind : String)
  /-- A parameter with a name of its own has the name of a numbered one. -/
  | conflict (name : String)
  /-- A value cannot be written in place. -/
  | literal (e : LiteralError)
  /-- A value cannot be used. -/
  | fault (f : Fault)

/-- The longest span of days. -/
def maxSpan : Nat := 999999999

/-- The text of an error. -/
def RenderError.message : RenderError → String
  | .unknownColumn name => "listings has no column " ++ Text.quoted name
  | .notPredicate v => "Unsupported predicate node: " ++ v.bareKindName
  | .unknownPlaceholder name =>
    "This text() construct doesn't define a bound parameter named " ++ Text.quoted name
  | .unorderedConstant =>
    "Only '=', '!=', 'is_()', 'is_not()', 'is_distinct_from()', 'is_not_distinct_from()' " ++
      "operators can be used with None/True/False"
  | .daysTooLarge => "Python int too large to convert to C int"
  | .spanTooLong days =>
    "days=" ++ Text.intText days ++ "; must have magnitude <= " ++ Text.intText maxSpan
  | .dateOutOfRange => "date value out of range"
  | .notDays kind => "unsupported type for timedelta days component: " ++ kind
  | .conflict name =>
    "Bind parameter '" ++ name ++ "' conflicts with unique bind parameter of the same name"
  | .literal e => e.message
  | .fault f => f.message

/-! ## 2. Spans of days -/

/-- Microseconds of a day. -/
def dayMicroseconds : Nat := 86400000000

/-- The whole number nearest to a double, a half going to the even neighbour. -/
def nearest (x : Float) : Int :=
  match Double.decode x with
  | .finite negative m e =>
    Text.signed negative (Double.roundDiv (m * Nat.pow 2 e.toNat) (Nat.pow 2 (-e).toNat))
  | _ => 0

/-- The whole days in a double's number of days, after rounding to microseconds. -/
def daysOfDouble (x : Float) : Except RenderError Int := do
  let whole ← match wholeNumber (.float x) with
    | .ok n => .ok n
    | .error f => .error (.fault f)
  let fraction := x - Double.ofInt whole
  let microseconds := whole * dayMicroseconds + nearest (fraction * Double.ofInt dayMicroseconds)
  return microseconds.fdiv dayMicroseconds

/-- A number of days as a span. -/
def spanOfDays (n : Int) : Except RenderError Int :=
  if n < -0x80000000 || 0x80000000 ≤ n then .error .daysTooLarge
  else if n.natAbs > maxSpan then .error (.spanTooLong n)
  else .ok n

/-- The span that a value gives in days. -/
def span (v : Value) : Except RenderError Int :=
  match v with
  | .bool b => .ok (if b then 1 else 0)
  | .int n => spanOfDays n
  | .float x => do spanOfDays (← daysOfDouble x)
  | v => .error (.notDays v.kindName)

/-- The date so many days before a date, from which `ListedWithin` counts. -/
def cutoff (today : Date) (days : Value) : Except RenderError Date := do
  match today.addDays? (-(← span days)) with
  | some d => return d
  | none => .error .dateOutOfRange

/-! ## 3. Comparisons -/

/-- The column of a name: `listing_column`. -/
def columnOf (name : String) : Except RenderError Column :=
  match listings.find? name with
  | some c => .ok c
  | none => .error (.unknownColumn name)

/-- A column of the listings table in a statement. -/
def columnText (c : Column) : String := listings.name ++ "." ++ c.name

/-- A value compared with a column.  A point is given as text and converted. -/
def comparedValue (c : Column) (v : Value) : List Piece :=
  let bind : Piece := .bind ⟨c.name, v, .compared c v⟩
  if c.type = .point then [.text "ST_GeomFromEWKT(", bind, .text ")"] else [bind]

/-- A column compared with a value. -/
def comparison (c : Column) (operator : String) (v : Value) : List Piece :=
  .text (columnText c ++ " " ++ operator ++ " ") :: comparedValue c v

/-- A column compared with a value by order. -/
def ordered (c : Column) (operator : String) (v : Value) : Except RenderError Clause :=
  match v with
  | .null | .bool _ => .error .unorderedConstant
  | v => .ok (.leaf (comparison c operator v))

/-- A column equal to a value; null and truth values have forms of their own. -/
def equality (c : Column) (v : Value) : Clause :=
  match v with
  | .null => .leaf [.text (columnText c ++ " IS NULL")]
  | .bool b => .leaf [.text (columnText c ++ " = " ++ boolText b)]
  | v => .leaf (comparison c "=" v)

/-- A column among values; the first of them decides the type of all. -/
def membership (c : Column) (vs : List Value) : Clause :=
  .leaf [.text (columnText c ++ " IN ("),
    .list ⟨c.name, .list vs, .compared c (vs.headD .null)⟩ vs, .text ")"]

/-- The bound of a range that is given. -/
def bound (c : Column) (operator : String) (v : Value) : Except RenderError (List Clause) :=
  match v with
  | .null => .ok []
  | v => (ordered c operator v).map fun clause => [clause]

/-- A column that holds a term somewhere. -/
def likeness (c : Column) (term : String) : Clause :=
  let pattern := String.ofList (Pattern.containing term.toList)
  .leaf (comparison c "ILIKE" (.str pattern) ++ [.text " ESCAPE '\\'"])

/-- The pattern of the listing numbers that can be cast to the widest integer. -/
def numberPattern : String :=
  "^0*[0-9]\x7b1," ++ Text.intText ListingNumber.maxDigits ++ "\x7d$"

/-- A listing number that is all digits and below the watermark.  The cast is guarded: other
numbers may hold letters. -/
def exclusiveness (c : Column) : Clause :=
  .leaf (.text "CASE WHEN (" :: comparison c "~" (.str numberPattern) ++
    [.text (") THEN CAST(" ++ columnText c ++ " AS BIGINT) END < "),
      .bind ⟨"param", .int ListingNumber.watermark, .bigInteger⟩])

/-- A listing with an open house today or later. -/
def openHouseClause : Clause :=
  .leaf [.text ("listings.listing_key IN (SELECT open_houses.listing_key \nFROM open_houses \n" ++
    "WHERE open_houses.open_house_date >= CURRENT_DATE)")]

/-- The value of a placeholder: the last one given for its name, and null if there is none. -/
def placeholderValue (params : List (String × Value)) (name : String) : Value :=
  (params.reverse.lookup name).getD .null

/-- Text of the caller with the values of its placeholders. -/
def fragment (sql : String) (params : List (String × Value)) : Except RenderError Clause :=
  let names := Template.names sql
  match params.find? fun (name, _) => !names.contains name with
  | some (name, _) => .error (.unknownPlaceholder name)
  | none => .ok (.leaf ((Template.scan sql).map fun
      | .text cs => .text (String.ofList cs)
      | .slot name => .named (String.ofList name) (placeholderValue params (String.ofList name))))

/-! ## 4. Predicates -/

mutual

/-- A predicate as a clause: what `render_predicate` makes of it.  The date anchors the spans of
days. -/
def clause (today : Date) : Predicate → Except RenderError Clause
  | .equals c v => do return equality (← columnOf c) v
  | .inList c vs => do return membership (← columnOf c) vs
  | .range c a b => do
    let c ← columnOf c
    let lower ← bound c ">=" a
    let upper ← bound c "<=" b
    return .all (lower ++ upper)
  | .greaterThan c v => do ordered (← columnOf c) ">" v
  | .columnGreaterThan l r => do
    let l ← columnOf l
    let r ← columnOf r
    return .leaf [.text (columnText l ++ " > " ++ columnText r)]
  | .like c term => do return likeness (← columnOf c) term
  | .notNull c => do return .leaf [.text (columnText (← columnOf c) ++ " IS NOT NULL")]
  | .listedWithin c days => do
    let d ← cutoff today days
    return .leaf (comparison (← columnOf c) ">=" (.date d))
  | .upcomingOpenHouse => .ok openHouseClause
  | .exclusiveListing c => do return exclusiveness (← columnOf c)
  | .raw sql params => fragment sql params
  | .allOf ps => (clauses today ps).map .all
  | .anyOf ps => (clauses today ps).map .any
  | .other v => .error (.notPredicate v)

/-- Each predicate of a list as a clause. -/
def clauses (today : Date) : List Predicate → Except RenderError (List Clause)
  | [] => .ok []
  | p :: ps => do
    let c ← clause today p
    let cs ← clauses today ps
    return c :: cs

end

end Realty.Sql
