/-
# Checking data from outside

A row or mapping is read field by field, and everything that is wrong with it is reported, not
only the first fault.

* `Checked` is what was read or the list of problems; `Checked.and` reads one thing more and keeps
  the problems of both in order.
* `readText`, `readFlag`, `readWhole`, `readDecimal` and `readDate` read one value.  They accept
  what says the same thing in another form: a whole number may come as text or as a number with
  a zero fraction, a date as text or as a moment at the start of a day.
-/
import Realty.Value.Basic
import Realty.Text.Case

namespace Realty

/-! ## 1. Problems -/

/-- What is wrong with a value. -/
inductive ProblemKind where
  | missing
  | notText
  | notFlag
  | unknownFlag
  | notWhole
  | unreadableWhole
  | tooManyDigits
  | hasFraction
  | notFinite
  | notDecimal
  | unreadableDecimal
  | notDate
  | unreadableDate
  | hasTime
  | notList
  | notRecord
  | tooSmall
deriving DecidableEq, Repr

/-- The name of a kind of problem. -/
def ProblemKind.name : ProblemKind → String
  | .missing => "missing"
  | .notText => "string_type"
  | .notFlag => "bool_type"
  | .unknownFlag => "bool_parsing"
  | .notWhole => "int_type"
  | .unreadableWhole => "int_parsing"
  | .tooManyDigits => "int_parsing_size"
  | .hasFraction => "int_from_float"
  | .notFinite => "finite_number"
  | .notDecimal => "decimal_type"
  | .unreadableDecimal => "decimal_parsing"
  | .notDate => "date_type"
  | .unreadableDate => "date_from_datetime_parsing"
  | .hasTime => "date_from_datetime_inexact"
  | .notList => "list_type"
  | .notRecord => "model_attributes_type"
  | .tooSmall => "greater_than_equal"

/-- A problem and where it is. -/
structure Problem where
  path : List String
  kind : ProblemKind
deriving DecidableEq, Repr

/-- The text of a problem. -/
def Problem.message (p : Problem) : String := Text.joined "." p.path ++ ": " ++ p.kind.name

/-- The text of several problems. -/
def problemsMessage (ps : List Problem) : String :=
  Text.joined "; " (ps.map Problem.message)

/-- What was read, or all that is wrong with it. -/
inductive Checked (α : Type) where
  | ok (a : α)
  | failed (problems : List Problem)

namespace Checked

/-- What is done to a thing that was read. -/
def map {α β : Type} (f : α → β) : Checked α → Checked β
  | .ok a => .ok (f a)
  | .failed ps => .failed ps

/-- Reads one thing more. -/
def and {α β : Type} (f : Checked (α → β)) (x : Checked α) : Checked β :=
  match f, x with
  | .ok f, .ok a => .ok (f a)
  | .ok _, .failed ps => .failed ps
  | .failed ps, .ok _ => .failed ps
  | .failed ps, .failed qs => .failed (ps ++ qs)

/-- Reads each item of a list. -/
def each {α β : Type} (f : α → Checked β) : List α → Checked (List β)
  | [] => .ok []
  | x :: xs => ((f x).map List.cons).and (each f xs)

/-- Problems inside something, with its name in front of their places. -/
def within {α : Type} (name : String) : Checked α → Checked α
  | .ok a => .ok a
  | .failed ps => .failed (ps.map fun p => { p with path := name :: p.path })

/-- One value at a place. -/
def field {α : Type} (name : String) : Except ProblemKind α → Checked α
  | .ok a => .ok a
  | .error k => .failed [⟨[name], k⟩]

end Checked

/-! ## 2. Text and flags -/

/-- A text. -/
def readText : Value → Except ProblemKind String
  | .str s => .ok s
  | _ => .error .notText

/-- The words that set a flag. -/
def trueWords : List String := ["1", "on", "t", "true", "y", "yes"]

/-- The words that clear a flag. -/
def falseWords : List String := ["0", "off", "f", "false", "n", "no"]

/-- A flag from the value of a whole number. -/
def flagOfWhole (n : Int) : Except ProblemKind Bool :=
  if n = 0 then .ok false else if n = 1 then .ok true else .error .unknownFlag

/-- The magnitude of a machine integer is below this. -/
def machineMagnitude : Nat := 0x8000000000000000

/-- The whole number that a double is; its magnitude has to be that of a machine integer. -/
def wholeOfDouble (x : Float) : Except ProblemKind Int :=
  match Double.toRat? x with
  | none => .error .notFinite
  | some q =>
    if q.den ≠ 1 then .error .hasFraction
    else if q.num.natAbs < machineMagnitude then .ok q.num
    else .error .tooManyDigits

/-- The double nearest to a decimal number. -/
def doubleOf : Decimal → Float
  | .finite negative c e => Double.ofNumeral (.decimal negative c e)
  | .infinity negative => Double.infinity negative
  | .nan => Double.nan

/-- A flag from a double. -/
def flagOfDouble (x : Float) : Except ProblemKind Bool :=
  match wholeOfDouble x with
  | .ok n => flagOfWhole n
  | .error _ => .error .notFlag

/-- A flag. -/
def readFlag : Value → Except ProblemKind Bool
  | .bool b => .ok b
  | .str s =>
    let word := String.ofList (Text.asciiLower s.toList)
    if trueWords.contains word then .ok true
    else if falseWords.contains word then .ok false
    else .error .unknownFlag
  | .int n => if n.natAbs < machineMagnitude then flagOfWhole n else .error .notFlag
  | .float x => flagOfDouble x
  | .decimal d => flagOfDouble (doubleOf d)
  | _ => .error .notFlag

/-! ## 3. Numbers -/

/-- The most digits of a whole number that is given as text. -/
def maxWholeDigits : Nat := 4300

/-- ASCII digits without the single underscores between them. -/
def plainDigits? (s : List Char) : Option (List Char) :=
  let groups := Text.splitOn '_' s
  if groups.all fun g => !g.isEmpty && g.all fun c => '0' ≤ c && c ≤ '9' then some groups.flatten
  else none

/-- A whole number given as text: a sign, digits with single underscores between them, and a
fraction of zeros. -/
def wholeOfText (s : String) : Except ProblemKind Int :=
  let (negative, r) := Text.readSign (Text.trimWhere Text.isWhiteSpace s.toList)
  let digits := match Text.partition '.' r with
    | some (whole, fraction) => if fraction.all (· = '0') then whole else r
    | none => r
  match plainDigits? digits with
  | none => .error .unreadableWhole
  | some ds =>
    if ds.length > maxWholeDigits then .error .tooManyDigits
    else .ok (Text.signed negative (Text.ofDigits (ds.map fun c => c.toNat - 48)))

/-- The whole number that a decimal number is. -/
def wholeOfDecimal (d : Decimal) : Except ProblemKind Int :=
  match d.toRat? with
  | none => .error .notFinite
  | some q => if q.den = 1 then .ok q.num else .error .hasFraction

/-- A whole number. -/
def readWhole : Value → Except ProblemKind Int
  | .bool b => .ok (if b then 1 else 0)
  | .int n => .ok n
  | .str s => wholeOfText s
  | .float x => wholeOfDouble x
  | .decimal d => wholeOfDecimal d
  | _ => .error .notWhole

/-- A decimal number that is finite. -/
def finiteDecimal (d : Decimal) : Except ProblemKind Decimal :=
  if d.isFinite then .ok d else .error .notFinite

/-- A decimal number from text. -/
def decimalOfText (s : String) : Except ProblemKind Decimal :=
  match Decimal.read? s.toList with
  | some d => finiteDecimal d
  | none => .error .unreadableDecimal

/-- A decimal number; a double is read from its shortest text. -/
def readDecimal : Value → Except ProblemKind Decimal
  | .decimal d => finiteDecimal d
  | .int n => .ok (.finite (n < 0) n.natAbs 0)
  | .str s => decimalOfText s
  | .float x => decimalOfText (Double.text x)
  | _ => .error .notDecimal

/-! ## 4. Dates -/

/-- Seconds of a day. -/
def daySeconds : Nat := 86400

/-- A count since 1970 above this is one of milliseconds. -/
def millisecondThreshold : Nat := 20000000000

/-- The number of the first day of 1970. -/
def epochOrdinal : Int := 719163

/-- The seconds since 1970 that the calendar of counts reaches, from 1600 to 9999. -/
def secondRange : Int × Int := (-11676096000, 253402300799)

/-- A date from a count of seconds or milliseconds since 1970. -/
def dateOfCount (n : Int) : Except ProblemKind Date :=
  let milli := n.natAbs > millisecondThreshold
  let seconds := if milli then n.fdiv 1000 else n
  if seconds < secondRange.1 || secondRange.2 < seconds then .error .unreadableDate
  else if (milli && n.fmod 1000 ≠ 0) || seconds.fmod daySeconds ≠ 0 then .error .hasTime
  else match Date.ofOrdinal? (epochOrdinal + seconds.fdiv daySeconds) with
    | some d => .ok d
    | none => .error .unreadableDate

/-- A date from a double's count since 1970. -/
def dateOfDouble (x : Float) : Except ProblemKind Date :=
  match Double.toRat? x with
  | none => .error .unreadableDate
  | some q =>
    match dateOfCount q.floor with
    | .ok d => if q.den = 1 then .ok d else .error .hasTime
    | .error e => .error e

/-- Whether a text is all ASCII digits, and not empty. -/
def isDigits (s : List Char) : Bool := !s.isEmpty && s.all fun c => '0' ≤ c && c ≤ '9'

/-- Whether a text is the difference to universal time: a letter, or a sign with hours and
minutes. -/
def isOffset : List Char → Bool
  | [] | ['Z'] | ['z'] => true
  | c :: r =>
    let digits := r.filter (· ≠ ':')
    (c = '+' || c = '-') && digits.length = 4 && isDigits digits &&
      (r.length = 4 || r[2]? = some ':')

/-- Two digits at the start of a text, when their value is below a limit. -/
def twoDigits? (limit : Nat) (s : List Char) : Option (Nat × List Char) :=
  match Date.readDigits? 2 (s.take 2) with
  | some n => if n < limit then some (n, s.drop 2) else none
  | none => none

/-- Whether the rest of a time, after its minutes, leaves it at the full minute; none when it is
no rest of a time. -/
def restIsZero? (s : List Char) : Option Bool :=
  match s with
  | ':' :: r => do
    let (second, r) ← twoDigits? 60 r
    match r with
    | '.' :: t =>
      let (fraction, t) := t.span fun c => '0' ≤ c && c ≤ '9'
      if fraction.isEmpty || !isOffset t then none
      else some (second == 0 && (fraction.take 6).all (· = '0'))
    | t => if isOffset t then some (second == 0) else none
  | t => if isOffset t then some true else none

/-- Whether the time of a moment's text is the start of a day; none when it is no time. -/
def timeIsZero? (s : List Char) : Option Bool := do
  let (hour, r) ← twoDigits? 24 s
  match r with
  | ':' :: r =>
    let (minute, r) ← twoDigits? 60 r
    let rest ← restIsZero? r
    return hour == 0 && minute == 0 && rest
  | _ => none

/-- The separators of date and time. -/
def isTimeSeparator (c : Char) : Bool := c = 'T' || c = 't' || c = ' ' || c = '_'

/-- A date from text: year, month and day, perhaps with a time, or a count since 1970. -/
def dateOfText (s : List Char) : Except ProblemKind Date :=
  match Date.readIso? (s.take 10), s.drop 10 with
  | some d, [] => .ok d
  | some d, c :: r =>
    match isTimeSeparator c, timeIsZero? r with
    | true, some true => .ok d
    | true, some false => .error .hasTime
    | _, _ => .error .unreadableDate
  | none, _ =>
    let (negative, r) := Text.readSign s
    let (whole, t) := r.span fun c => '0' ≤ c && c ≤ '9'
    let n := Text.ofDigits (whole.map fun c => c.toNat - 48)
    match t with
    | [] => if whole.isEmpty then .error .unreadableDate else dateOfCount (Text.signed negative n)
    | '.' :: fraction =>
      if whole.isEmpty || !isDigits fraction then .error .unreadableDate
      else dateOfDouble (Double.ofNumeral (.decimal negative
        (Text.ofDigits ((whole ++ fraction).map fun c => c.toNat - 48)) (-fraction.length)))
    | _ => .error .unreadableDate

/-- A date. -/
def readDate : Value → Except ProblemKind Date
  | .date d => .ok d
  | .datetime t => if t.isMidnight then .ok t.date else .error .hasTime
  | .str s => dateOfText s.toList
  | .int n => dateOfCount n
  | .float x => dateOfDouble x
  | .decimal d => dateOfDouble (doubleOf d)
  | _ => .error .notDate

/-- A value that may be null. -/
def readOptional {α : Type} (read : Value → Except ProblemKind α) :
    Value → Except ProblemKind (Option α)
  | .null => .ok none
  | v => (read v).map some

end Realty
