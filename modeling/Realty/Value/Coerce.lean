/-
# What a filter value says

A request may send any value for a filter.  Each kind of filter reads it in one of four ways, and
none of them fails: a value that cannot be read counts as not given.

* `number?` reads a finite number, also from text with thousands separators and dollar signs.
* `flag` reads a check box.
* `label?` reads one trimmed text that is not empty.
* `choices` reads a list of them, from a list or from text with commas; no choice comes twice
  (`nodup_choices`) and none is empty (`ne_empty_of_mem_choices`).
-/
import Realty.Value.Basic
import Realty.Text.Case
import Realty.Distinct

namespace Realty

namespace Value

/-! ## 1. Numbers -/

/-- A double, when it is finite. -/
def finite? (x : Float) : Option Float := if Double.isFinite x then some x else none

/-- The text of a number without what a user may write around it: blanks at the ends, thousands
separators, and dollar signs in front. -/
def cleanNumber (s : String) : List Char :=
  ((Text.trim s.toList).filter (· ≠ ',')).dropWhile (· = '$')

/-- The finite number that a filter value says: what `parse_number` reads. -/
def number? : Value → Option Float
  | .int n => Double.ofInt? n
  | .float x => finite? x
  | .str s => (Text.Numeral.read? (cleanNumber s)).bind fun n => finite? (Double.ofNumeral n)
  | _ => none

/-! ## 2. Flags -/

/-- The words that clear a check box. -/
def offWords : List String := ["", "0", "false", "no", "off", "n"]

/-- Whether a filter value sets a check box: what `parse_flag` reads. -/
def flag : Value → Bool
  | .str s => !offWords.contains (String.ofList (Text.lower (Text.trim s.toList)))
  | v => v.isTruthy

/-! ## 3. Text -/

/-- The trimmed text of a filter value, when there is any: what `parse_text` reads. -/
def label? : Value → Option String
  | .int n => some (Text.intText n)
  | .float x => some (Double.text x)
  | .str s =>
    let t := Text.trimmed s
    if t.isEmpty then none else some t
  | _ => none

/-- The items of a list or tuple that are not null. -/
def givenItems (v : Value) : List Value := (v.items?.getD []).filter fun x => !x.isNull

/-- The parts of a filter value: what stands between commas, or the text of each item. -/
def rawChoices : Value → List String
  | .str s => Text.parts ',' s
  | .list xs => (xs.filter fun x => !x.isNull).map text
  | .tuple xs => (xs.filter fun x => !x.isNull).map text
  | .int n => [Text.intText n]
  | .float x => [Double.text x]
  | _ => []

/-- The choices that a filter value lists, trimmed, in order, each once: what `split_values` reads.
-/
def choices (v : Value) : List String :=
  distinct ((v.rawChoices.map Text.trimmed).filter fun s => !s.isEmpty)

/-! ## 4. Laws -/

/-- No choice is listed twice. -/
theorem nodup_choices (v : Value) : v.choices.Nodup := nodup_distinct _

/-- No choice is empty. -/
theorem ne_empty_of_mem_choices {v : Value} {s : String} (h : s ∈ v.choices) : s ≠ "" := by
  have := mem_distinct.1 h
  intro e
  subst e
  simp at this

end Value

end Realty
