/-
# In-house listing numbers in the query language

The condition on in-house listing numbers, as the query language reads it, and the check of a
listing's number agree on every text.

* `Operand` and `Condition` are the expressions of the condition, with their text and their value
  on a row.  A CASE without a match is null, and its value is computed in no other case.
* `isFound_numberParts` says which numbers the pattern lets through to the cast: digits, of which
  at most eighteen are significant.  `digitsValue_lt_bigintLimit`: the cast has room for those.
* `exclusive_truth_iff`: the condition is true on the numbers of in-house listings and on no
  others, and the cast never fails.
-/
import Realty.Listing.Row
import Realty.Proofs.Sql.Comparison
import Realty.Proofs.Sql.Regex

namespace Realty.Sql

open Text (AreDigits digitsValue)

/-! ## 1. Expressions -/

mutual

/-- An expression with a value. -/
inductive Operand where
  /-- A column of the listings. -/
  | column (c : Column)
  /-- A bound value. -/
  | bound (b : Bind)
  /-- A value as a wide integer. -/
  | bigint (a : Operand)
  /-- A value under a condition, and null otherwise. -/
  | caseWhen (guard : Condition) (a : Operand)

/-- An expression with a truth. -/
inductive Condition where
  /-- A text that a pattern is found in. -/
  | regex (a pattern : Operand)
  /-- A value below another. -/
  | less (a b : Operand)

end

mutual

/-- The text of an expression. -/
def Operand.symbols : Operand → List Symbol
  | .column c => chars (columnText c)
  | .bound b => [.slot (.bind b)]
  | .bigint a => chars "CAST(" ++ a.symbols ++ chars " AS BIGINT)"
  | .caseWhen guard a =>
    chars "CASE WHEN (" ++ guard.symbols ++ chars ") THEN " ++ a.symbols ++ chars " END"

/-- The text of a condition. -/
def Condition.symbols : Condition → List Symbol
  | .regex a pattern => a.symbols ++ chars " ~ " ++ pattern.symbols
  | .less a b => a.symbols ++ chars " < " ++ b.symbols

end

/-- Why an expression has no value. -/
inductive Failure where
  /-- The text is no number. -/
  | invalidText (s : List Char)
  /-- The number does not fit. -/
  | outOfRange (s : List Char)
  /-- The pattern is none of those that are read. -/
  | unreadPattern (s : List Char)
  /-- An operator is given values of other types. -/
  | illTyped
deriving DecidableEq, Repr

/-- Wide integers are below this. -/
def bigintLimit : Nat := 2 ^ 63

section Value

variable (cast : List Char → Except Failure Int) (row : Row)

/-- A text as a wide integer. -/
def castValue : Value → Except Failure Value
  | .null => .ok .null
  | .str s => (cast s.toList).map .int
  | _ => .error .illTyped

/-- Whether a pattern is found in a text. -/
def regexTruth : Value → Value → Except Failure Truth
  | .str s, .str pattern =>
    match Regex.read pattern.toList with
    | some ps => .ok (.ofBool (Regex.isFound ps s.toList))
    | none => .error (.unreadPattern pattern.toList)
  | .null, _ | _, .null => .ok .null
  | _, _ => .error .illTyped

/-- Whether an integer is below another. -/
def lessTruth : Value → Value → Except Failure Truth
  | .int m, .int n => .ok (.ofBool (m < n))
  | .null, _ | _, .null => .ok .null
  | _, _ => .error .illTyped

mutual

/-- The value of an expression on a row; `cast` reads texts as wide integers. -/
def Operand.value : Operand → Except Failure Value
  | .column c => .ok (row.get c.name)
  | .bound b => .ok b.value
  | .bigint a => do castValue cast (← a.value)
  | .caseWhen guard a => do
    match ← guard.truth with
    | .yes => a.value
    | _ => return .null

/-- The truth of a condition on a row. -/
def Condition.truth : Condition → Except Failure Truth
  | .regex a pattern => do regexTruth (← a.value) (← pattern.value)
  | .less a b => do lessTruth (← a.value) (← b.value)

end

end Value

/-- **What a cast does with digits**: it reads the number that they write, if that fits. -/
structure ReadsDigits (cast : List Char → Except Failure Int) : Prop where
  fits : ∀ ds, ds ≠ [] → AreDigits ds → digitsValue ds < bigintLimit →
    cast ds = .ok (digitsValue ds)
  overflows : ∀ ds, ds ≠ [] → AreDigits ds → bigintLimit ≤ digitsValue ds →
    cast ds = .error (.outOfRange ds)

/-! ## 2. The condition -/

/-- Whether the number in a column can be cast. -/
def numberGuard (c : Column) : Condition :=
  .regex (.column c)
    (.bound ⟨c.name, .str numberPattern, .compared c (.str numberPattern)⟩)

/-- The condition on in-house listing numbers. -/
def exclusiveCondition (c : Column) : Condition :=
  .less (.caseWhen (numberGuard c) (.bigint (.column c)))
    (.bound ⟨"param", .int ListingNumber.watermark, .bigInteger⟩)

/-- A condition on in-house listing numbers is written as the clause of a column. -/
theorem exclusiveness_symbols {c : Column} (hc : c.type.family = .text) :
    ∃ ps, exclusiveness c = .leaf ps ∧ symbols ps = (exclusiveCondition c).symbols := by
  have hplace : c.type ≠ .point := by
    intro h
    rw [h] at hc
    cases hc
  refine ⟨_, rfl, ?_⟩
  simp [exclusiveCondition, numberGuard, Condition.symbols, Operand.symbols, Piece.symbols,
    comparison, comparedValue, hplace]
  rfl

/-! ## 3. Numbers that are cast -/

/-- The parts of the pattern of the numbers that are cast. -/
def numberParts : List Regex.Part :=
  [.start, .row (.char '0') .many, .row (.range '0' '9') (.between 1 ListingNumber.maxDigits),
    .stop]

theorem read_numberPattern : Regex.read numberPattern.toList = some numberParts := by
  decide +kernel

theorem range_accepts_iff {c : Char} :
    (Regex.Atom.range '0' '9').accepts c = true ↔ c.isDigit = true := by
  simp [Regex.Atom.accepts, Char.isDigit, Char.le_def]

theorem zero_accepts_iff {c : Char} : (Regex.Atom.char '0').accepts c = true ↔ c = '0' := by
  simp [Regex.Atom.accepts, eq_comm]

/-- The digits of a number without its leading zeros. -/
def significant (s : List Char) : List Char := s.dropWhile (· = '0')

/-- A text is its leading zeros and what is significant. -/
theorem zeros_append_significant (s : List Char) :
    ∃ k, s = List.replicate k '0' ++ significant s := by
  refine ⟨(s.takeWhile (· = '0')).length, ?_⟩
  have hzeros : s.takeWhile (· = '0') = List.replicate (s.takeWhile (· = '0')).length '0' := by
    refine List.eq_replicate_iff.2 ⟨rfl, fun c hc => ?_⟩
    simpa using List.all_eq_true.1 List.all_takeWhile c hc
  rw [← hzeros, significant, List.takeWhile_append_dropWhile]

theorem significant_zeros_append (k : Nat) (s : List Char) :
    significant (List.replicate k '0' ++ s) = significant s :=
  List.dropWhile_append_of_pos fun c hc => by simpa using List.eq_of_mem_replicate hc

theorem significant_length_le (s : List Char) : (significant s).length ≤ s.length :=
  (List.dropWhile_sublist _).length_le

/-- **The numbers that are cast are all digits, at most eighteen of them significant.**  The
leading zeros may be part of either row, as long as the second has a digit of its own. -/
theorem isFound_numberParts {s : List Char} :
    Regex.isFound numberParts s = true ↔
      s ≠ [] ∧ AreDigits s ∧ (significant s).length ≤ ListingNumber.maxDigits := by
  rw [numberParts, Regex.isFound_start]
  simp only [Regex.matchesFrom_row, Regex.matchesFrom_stop, range_accepts_iff, zero_accepts_iff,
    Regex.Repetition.allows, Bool.and_eq_true, decide_eq_true_eq]
  constructor
  · rintro ⟨zeros, r, rfl, hzeros, -, digits, r', rfl, hdigits, ⟨hleast, hmost⟩, rfl⟩
    obtain ⟨k, rfl⟩ : ∃ k, zeros = List.replicate k '0' :=
      ⟨zeros.length, List.eq_replicate_iff.2 ⟨rfl, hzeros⟩⟩
    rw [List.append_nil]
    refine ⟨?_, (Text.areDigits_zeros k).append hdigits, ?_⟩
    · intro hnil
      rw [(List.append_eq_nil_iff.1 hnil).2] at hleast
      cases hleast
    · rw [significant_zeros_append]
      exact Nat.le_trans (significant_length_le digits) hmost
  · rintro ⟨hne, hdigits, hlength⟩
    obtain ⟨k, hs⟩ := zeros_append_significant s
    have hrest : AreDigits (significant s) := fun c hc =>
      hdigits c ((List.dropWhile_sublist _).mem hc)
    cases hsignificant : significant s with
    | nil =>
      -- a number of zeros alone: the last of them is the digit of the second row
      rw [hsignificant, List.append_nil] at hs
      cases k with
      | zero => exact absurd hs hne
      | succ k =>
        refine ⟨List.replicate k '0', ['0'], ?_, fun c hc => List.eq_of_mem_replicate hc, trivial,
          ['0'], [], rfl, by simp, ⟨by decide, by decide⟩, rfl⟩
        rw [hs, List.replicate_succ']
    | cons d ds =>
      have hleast : 1 ≤ (significant s).length := by
        rw [hsignificant]
        exact Nat.succ_le_succ (Nat.zero_le _)
      exact ⟨List.replicate k '0', significant s, hs, fun c hc => List.eq_of_mem_replicate hc,
        trivial, significant s, [], (List.append_nil _).symm, hrest, ⟨hleast, hlength⟩, rfl⟩

/-! ## 4. Their values -/

/-- Leading zeros do not count. -/
theorem digitsValue_significant (s : List Char) : digitsValue (significant s) = digitsValue s := by
  obtain ⟨k, hs⟩ := zeros_append_significant s
  calc digitsValue (significant s) = digitsValue (List.replicate k '0' ++ significant s) :=
        (Text.digitsValue_zeros_append k _).symm
    _ = digitsValue s := by rw [← hs]

/-- **The cast has room for the numbers that it is given.** -/
theorem digitsValue_lt_bigintLimit {s : List Char} (hdigits : AreDigits s)
    (hlength : (significant s).length ≤ ListingNumber.maxDigits) :
    digitsValue s < bigintLimit := by
  have hrest : AreDigits (significant s) := fun c hc =>
    hdigits c ((List.dropWhile_sublist _).mem hc)
  calc digitsValue s = digitsValue (significant s) := (digitsValue_significant s).symm
    _ < 10 ^ (significant s).length := Text.digitsValue_lt hrest
    _ ≤ 10 ^ ListingNumber.maxDigits := Nat.pow_le_pow_right (by decide) hlength
    _ < bigintLimit := by decide

/-- **What the check of a number says**, in the terms of the condition. -/
theorem isExclusive_iff {s : String} :
    ListingNumber.isExclusive (.str s) = true ↔
      Regex.isFound numberParts s.toList = true ∧
        digitsValue s.toList < ListingNumber.watermark := by
  have hdigit (c : Char) : (decide ('0' ≤ c) && decide (c ≤ '9')) = c.isDigit := by
    simp [Char.isDigit, Char.le_def]
  have hvalue : Text.ofDigits ((significant s.toList).map fun c => c.toNat - 48) =
      digitsValue s.toList := by rw [Text.ofDigits_map, digitsValue_significant]
  have hcheck : ListingNumber.isExclusive (.str s) =
      (!s.toList.isEmpty && s.toList.all Char.isDigit &&
        decide ((significant s.toList).length ≤ ListingNumber.maxDigits) &&
        decide (digitsValue s.toList < ListingNumber.watermark)) := by
    rw [← hvalue, ← funext hdigit]
    rfl
  rw [hcheck, isFound_numberParts]
  simp only [Bool.and_eq_true, Bool.not_eq_true', List.isEmpty_eq_false_iff, List.all_eq_true,
    decide_eq_true_eq, AreDigits, and_assoc]

/-! ## 5. The condition on a row -/

variable {cast : List Char → Except Failure Int} {row : Row} {c : Column} {s : String}

theorem name_of_columnOf {name : String} (h : columnOf name = .ok c) : c.name = name := by
  unfold columnOf at h
  split at h
  · next hfind =>
    cases h
    simpa using List.find?_some hfind
  · cases h

/-- A number is cast when the pattern is found in it. -/
theorem numberGuard_truth (hrow : row.get c.name = .str s) :
    (numberGuard c).truth cast row =
      .ok (.ofBool (Regex.isFound numberParts s.toList)) := by
  simp only [numberGuard, Condition.truth, Operand.value, hrow]
  show regexTruth (.str s) (.str numberPattern) = _
  rw [regexTruth, read_numberPattern]

/-- What is cast has a value. -/
theorem cast_of_isFound (hcast : ReadsDigits cast)
    (h : Regex.isFound numberParts s.toList = true) :
    cast s.toList = .ok (digitsValue s.toList) := by
  obtain ⟨hne, hdigits, hlength⟩ := isFound_numberParts.1 h
  exact hcast.fits _ hne hdigits (digitsValue_lt_bigintLimit hdigits hlength)

/-- The condition is null on a number that is not cast, and otherwise compares its value. -/
theorem exclusiveCondition_truth (hcast : ReadsDigits cast) (hrow : row.get c.name = .str s) :
    (exclusiveCondition c).truth cast row = .ok
      (if Regex.isFound numberParts s.toList then
        .ofBool (digitsValue s.toList < ListingNumber.watermark) else .null) := by
  simp only [exclusiveCondition, Condition.truth, Operand.value]
  rw [numberGuard_truth hrow]
  cases hfound : Regex.isFound numberParts s.toList with
  | false => rfl
  | true =>
    have hvalue : castValue cast (row.get c.name) = .ok (.int (digitsValue s.toList)) := by
      rw [hrow, castValue, cast_of_isFound hcast hfound]
      rfl
    show (do
      let a ← castValue cast (row.get c.name)
      lessTruth a (.int ListingNumber.watermark)) = _
    rw [hvalue]
    show Except.ok (Truth.ofBool (decide ((digitsValue s.toList : Int) < _))) = _
    rw [if_pos rfl]
    norm_cast

/-- **The check of a number and the condition on it agree.**  On a text column the condition is true
exactly where the check holds, and false or null elsewhere.  What reaches the cast is digits whose
number fits, so the condition never fails. -/
theorem exclusive_truth_iff (hcast : ReadsDigits cast) (today : Date) {name : String}
    (hname : columnOf name = .ok c) (htype : c.type.family = .text)
    (hrow : row.get name = .str s) :
    (∃ ps, clause today (.exclusiveListing name) = .ok (.leaf ps) ∧
      symbols ps = (exclusiveCondition c).symbols) ∧
    (∃ t, (exclusiveCondition c).truth cast row = .ok t ∧
      (ListingNumber.isExclusive (.str s) = true ↔ t = .yes)) ∧
    ((numberGuard c).truth cast row = .ok .yes →
      s.toList ≠ [] ∧ AreDigits s.toList ∧ digitsValue s.toList < bigintLimit) := by
  obtain rfl := name_of_columnOf hname
  refine ⟨?_, ⟨_, exclusiveCondition_truth hcast hrow, ?_⟩, fun hguard => ?_⟩
  · obtain ⟨ps, hclause, hsymbols⟩ := exclusiveness_symbols htype
    exact ⟨ps, by rw [clause, hname, ← hclause]; rfl, hsymbols⟩
  · rw [isExclusive_iff]
    cases Regex.isFound numberParts s.toList with
    | false => simp
    | true =>
      by_cases hvalue : digitsValue s.toList < ListingNumber.watermark
      · simp [hvalue, Truth.ofBool]
      · simp [hvalue, Truth.ofBool]
  · rw [numberGuard_truth hrow] at hguard
    have hfound : Regex.isFound numberParts s.toList = true := by
      cases h : Regex.isFound numberParts s.toList with
      | true => rfl
      | false =>
        rw [h] at hguard
        cases hguard
    obtain ⟨hne, hdigits, hlength⟩ := isFound_numberParts.1 hfound
    exact ⟨hne, hdigits, digitsValue_lt_bigintLimit hdigits hlength⟩

/-- A cast that reads digits and nothing else. -/
def castDigits (cs : List Char) : Except Failure Int :=
  if cs.isEmpty || !cs.all Char.isDigit then .error (.invalidText cs)
  else if digitsValue cs < bigintLimit then .ok (digitsValue cs)
  else .error (.outOfRange cs)

theorem castDigits_readsDigits : ReadsDigits castDigits := by
  have hdigits {ds : List Char} (hne : ds ≠ []) (h : AreDigits ds) :
      (ds.isEmpty || !ds.all Char.isDigit) = false := by
    simp only [Bool.or_eq_false_iff, List.isEmpty_eq_false_iff, Bool.not_eq_false',
      List.all_eq_true]
    exact ⟨hne, h⟩
  constructor
  · intro ds hne h hfits
    rw [castDigits, hdigits hne h, if_neg Bool.false_ne_true, if_pos hfits]
  · intro ds hne h hlimit
    rw [castDigits, hdigits hne h, if_neg Bool.false_ne_true, if_neg (Nat.not_lt.2 hlimit)]

/-- The column of the listing numbers. -/
def numberColumn : Column where
  name := "listing_id"
  type := .varchar 50
  isRequired := true

/-- A row with an in-house number behind more zeros than an integer has digits. -/
def paddedRow : Row where
  fields := [("listing_id", .str "000000000000000000042")]

theorem exclusive_truth_iff_paddedRow :
    (exclusiveCondition numberColumn).truth castDigits paddedRow = .ok .yes := by
  have hname : columnOf "listing_id" = .ok numberColumn := rfl
  have hrow : paddedRow.get "listing_id" = .str "000000000000000000042" := rfl
  obtain ⟨-, ⟨t, htruth, hcheck⟩, -⟩ :=
    exclusive_truth_iff castDigits_readsDigits ⟨2026, 3, 10⟩ hname rfl hrow
  have hexclusive : ListingNumber.isExclusive (.str "000000000000000000042") = true := by
    decide +kernel
  rw [htruth, hcheck.1 hexclusive]

end Realty.Sql
