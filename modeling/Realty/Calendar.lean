/-
# Dates of the civil calendar

* `Date.toOrdinal` numbers the days, the first of January of the year 1 being day 1, and
  `Date.ofOrdinal?` is the day of a number from there to the end of the year 9999.
* `Date.addDays?` steps a date forward or back and fails outside that range.
* `Date.iso` and `DateTime.iso` are the usual texts with hyphens and colons; `Date.readIso?`
  reads a date back.
-/
import Realty.Text.Digit

namespace Realty

/-- A day of the civil calendar. -/
structure Date where
  year : Nat
  month : Nat
  day : Nat
deriving DecidableEq, Repr

/-- A day and a time of that day, to the microsecond. -/
structure DateTime where
  date : Date
  hour : Nat
  minute : Nat
  second : Nat
  microsecond : Nat
deriving DecidableEq, Repr

namespace Date

/-! ## 1. Counting days -/

/-- Every fourth year is long, full centuries only when divisible by four hundred. -/
def isLeap (year : Nat) : Bool := year % 4 == 0 && (year % 100 != 0 || year % 400 == 0)

/-- The number of days of a month. -/
def monthLength (year : Nat) : Nat → Nat
  | 2 => if isLeap year then 29 else 28
  | 4 | 6 | 9 | 11 => 30
  | _ => 31

/-- Whether a year, month and day make a date. -/
def isValid (d : Date) : Bool :=
  1 ≤ d.year && d.year ≤ 9999 && 1 ≤ d.month && d.month ≤ 12 && 1 ≤ d.day &&
    d.day ≤ monthLength d.year d.month

/-- The number of days before a year. -/
def daysBeforeYear (year : Nat) : Nat :=
  let y := year - 1
  365 * y + y / 4 - y / 100 + y / 400

/-- The number of days of a year before a month. -/
def daysBeforeMonth (year month : Nat) : Nat :=
  (List.range (month - 1)).foldl (fun days i => days + monthLength year (i + 1)) 0

/-- The number of a day. -/
def toOrdinal (d : Date) : Nat := daysBeforeYear d.year + daysBeforeMonth d.year d.month + d.day

/-- The greatest day number. -/
def maxOrdinal : Nat := 3652059

/-- The day of a day number.  Years are counted from the first of March, so that the long day
comes last; 146097 days make four hundred years, and five months have 153 days. -/
def ofOrdinal (n : Nat) : Date :=
  let z := n + 305
  let era := z / 146097
  let dayOfEra := z % 146097
  let yearOfEra := (dayOfEra - dayOfEra / 1460 + dayOfEra / 36524 - dayOfEra / 146096) / 365
  let dayOfYear := dayOfEra - (365 * yearOfEra + yearOfEra / 4 - yearOfEra / 100)
  let month := (5 * dayOfYear + 2) / 153
  let day := dayOfYear - (153 * month + 2) / 5 + 1
  if month < 10 then ⟨yearOfEra + era * 400, month + 3, day⟩
  else ⟨yearOfEra + era * 400 + 1, month - 9, day⟩

/-- The day of a day number, when it is a date. -/
def ofOrdinal? (n : Int) : Option Date :=
  if 1 ≤ n && n ≤ maxOrdinal then some (ofOrdinal n.toNat) else none

/-- The date so many days later. -/
def addDays? (d : Date) (n : Int) : Option Date := ofOrdinal? (d.toOrdinal + n)

/-! ## 2. Text -/

/-- A number with two digits at least. -/
def two (n : Nat) : List Char := Text.padZeros 2 (Text.natDigits n)

/-- Year, month and day, joined by hyphens. -/
def isoChars (d : Date) : List Char :=
  Text.padZeros 4 (Text.natDigits d.year) ++ '-' :: two d.month ++ '-' :: two d.day

/-- Year, month and day, joined by hyphens, as a string. -/
def iso (d : Date) : String := String.ofList d.isoChars

/-- A number of exactly as many ASCII digits as given. -/
def readDigits? (width : Nat) (s : List Char) : Option Nat :=
  if s.length = width && s.all (fun c => '0' ≤ c && c ≤ '9') then
    some (Text.ofDigits (s.map fun c => c.toNat - 48))
  else none

/-- A date from year, month and day, joined by hyphens. -/
def readIso? (s : List Char) : Option Date := do
  if s.length ≠ 10 || s[4]? ≠ some '-' || s[7]? ≠ some '-' then none
  let d : Date := ⟨← readDigits? 4 (s.take 4), ← readDigits? 2 ((s.drop 5).take 2),
    ← readDigits? 2 (s.drop 8)⟩
  if d.isValid then some d else none

end Date

namespace DateTime

/-- The fraction of the second, when there is one. -/
def fractionChars (t : DateTime) : List Char :=
  if t.microsecond = 0 then [] else '.' :: Text.padZeros 6 (Text.natDigits t.microsecond)

/-- Date and time with a separator between them. -/
def isoWith (sep : Char) (t : DateTime) : String :=
  String.ofList (t.date.isoChars ++ sep :: Date.two t.hour ++ ':' :: Date.two t.minute ++
    ':' :: Date.two t.second ++ t.fractionChars)

/-- Whether the time is the start of the day. -/
def isMidnight (t : DateTime) : Bool :=
  t.hour == 0 && t.minute == 0 && t.second == 0 && t.microsecond == 0

/-- Date and time from their text, with any one character between them. -/
def readIso? (s : List Char) : Option DateTime := do
  let date ← Date.readIso? (s.take 10)
  let t := s.drop 11
  if t.length < 8 || t[2]? ≠ some ':' || t[5]? ≠ some ':' then none
  let hour ← Date.readDigits? 2 (t.take 2)
  let minute ← Date.readDigits? 2 ((t.drop 3).take 2)
  let second ← Date.readDigits? 2 ((t.drop 6).take 2)
  let microsecond ← match t.drop 8 with
    | [] => some 0
    | '.' :: r => Date.readDigits? 6 r
    | _ => none
  some ⟨date, hour, minute, second, microsecond⟩

end DateTime

end Realty
