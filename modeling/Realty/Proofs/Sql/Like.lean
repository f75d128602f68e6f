/-
# LIKE finds terms

The pattern of a term, as the query language reads it, fits the texts that hold the term.

* `read` reads a pattern: a percent sign stands for any run of characters, an underscore for any one
  character, and the escape character makes the next one stand for itself.  A pattern that ends in
  the escape character is not read.  `fits` tries every run.
* `escape_singleton`: escaping goes character by character, so no replacement escapes what an
  earlier one wrote.  `read_escape_append`: read again, the term stands for itself.
* `fits_containing_iff`: what the pattern of a term fits.
* `like_containing`: a LIKE condition holds where the term occurs.
-/
import Mathlib.Data.List.Infix
import Realty.Listing.Row
import Realty.Proofs.Sql.Reading
import Realty.Proofs.Sql.Truth
import Realty.Sql.Condition

namespace Realty.Sql

namespace Pattern

/-! ## 1. Patterns -/

/-- A part of a pattern. -/
inductive Part where
  /-- Any run of characters. -/
  | run
  /-- Any one character. -/
  | one
  | literal (c : Char)
deriving DecidableEq, Repr

/-- What a character stands for that is not escaped. -/
def Part.ofChar (c : Char) : Part :=
  if c = '%' then .run else if c = '_' then .one else .literal c

/-- The parts of a pattern. -/
def read (e : Char) : List Char → Option (List Part)
  | [] => some []
  | [c] => if c = e then none else some [.ofChar c]
  | c :: d :: r =>
    if c = e then (read e r).map (.literal d :: ·) else (read e (d :: r)).map (.ofChar c :: ·)

/-- Whether a text is what some parts stand for, characters being compared after folding. -/
def fits (fold : Char → Char) : List Part → List Char → Bool
  | [], s => s.isEmpty
  | .run :: ps, s => s.tails.any fun r => fits fold ps r
  | .one :: ps, s => match s with
    | [] => false
    | _ :: r => fits fold ps r
  | .literal c :: ps, s => match s with
    | [] => false
    | d :: r => fold c == fold d && fits fold ps r

/-- Whether a text is like a pattern, if that can be read. -/
def isLike (fold : Char → Char) (e : Char) (pattern s : List Char) : Option Bool :=
  (read e pattern).map fun ps => fits fold ps s

/-- Whether a character is special in patterns. -/
def isMark (e c : Char) : Bool := c == '%' || c == '_' || c == e

/-- **Foldings of characters** leave the special ones alone, and make no other character one. -/
structure IsFolding (e : Char) (fold : Char → Char) : Prop where
  fold_mark : ∀ c, isMark e c = true → fold c = c
  isMark_fold : ∀ c, isMark e (fold c) = true → isMark e c = true

/-! ## 2. Escaping -/

variable {e : Char}

/-- **Escaping goes character by character.** -/
theorem escape_singleton (hpercent : e ≠ '%') (hunderscore : e ≠ '_') (term : List Char) :
    escape [e] term = term.flatMap fun c => if isMark e c then [e, c] else [c] := by
  simp only [escape, List.singleton_append, Text.replaceAll_singleton, List.flatMap_assoc]
  refine congrArg (fun f => term.flatMap f) (funext fun c => ?_)
  by_cases he : c = e
  · subst he
    simp [isMark, hpercent, hunderscore]
  · by_cases hc : c = '%'
    · subst hc
      simp [isMark, he, hunderscore]
    · by_cases hc' : c = '_'
      · subst hc'
        simp [isMark, he]
      · simp [isMark, he, hc, hc']

theorem read_escaped (d : Char) (r : List Char) :
    read e (e :: d :: r) = (read e r).map (.literal d :: ·) := by
  rw [read, if_pos rfl]

theorem read_cons {c : Char} (h : c ≠ e) (r : List Char) :
    read e (c :: r) = (read e r).map (.ofChar c :: ·) := by
  cases r with
  | nil => simp [read, h]
  | cons d r => rw [read, if_neg h]

/-- **What is escaped stands for itself.** -/
theorem read_escape_append (hpercent : e ≠ '%') (hunderscore : e ≠ '_') (term r : List Char) :
    read e (escape [e] term ++ r) = (read e r).map (term.map .literal ++ ·) := by
  rw [escape_singleton hpercent hunderscore]
  induction term with
  | nil => simp
  | cons c term ih =>
    rw [List.flatMap_cons, List.append_assoc, List.map_cons]
    cases hmark : isMark e c with
    | true =>
      rw [if_pos rfl, List.cons_append, List.singleton_append, read_escaped, ih, Option.map_map]
      rfl
    | false =>
      simp only [isMark, Bool.or_eq_false_iff, beq_eq_false_iff_ne] at hmark
      obtain ⟨⟨hc, hc'⟩, he⟩ := hmark
      rw [if_neg Bool.false_ne_true, List.singleton_append, read_cons he, ih, Option.map_map,
        Part.ofChar, if_neg hc, if_neg hc']
      rfl

/-- The pattern of the texts that hold a term, with an escape character. -/
def containingWith (e : Char) (term : List Char) : List Char := '%' :: escape [e] term ++ ['%']

theorem read_containingWith (hpercent : e ≠ '%') (hunderscore : e ≠ '_') (term : List Char) :
    read e (containingWith e term) = some (.run :: (term.map .literal ++ [.run])) := by
  rw [containingWith, List.cons_append, read_cons hpercent.symm,
    read_escape_append hpercent hunderscore, read_cons hpercent.symm]
  rfl

/-! ## 3. Fitting -/

variable {fold : Char → Char}

/-- Literal characters fit a text that starts with them. -/
theorem fits_literals_iff (term s : List Char) :
    fits fold (term.map .literal ++ [.run]) s = true ↔ term.map fold <+: s.map fold := by
  induction term generalizing s with
  | nil =>
    have hnil : [] ∈ s.tails := (List.mem_tails _ _).2 (List.nil_suffix)
    simp only [List.map_nil, List.nil_append, List.nil_prefix, iff_true, fits, List.any_eq_true]
    exact ⟨[], hnil, rfl⟩
  | cons c term ih =>
    cases s with
    | nil => simp [fits]
    | cons d s => simp [fits, ih, List.cons_prefix_cons]

/-- **The pattern of a term fits the texts that hold it.** -/
theorem fits_containing_iff (term s : List Char) :
    fits fold (.run :: (term.map .literal ++ [.run])) s = true ↔
      term.map fold <:+: s.map fold := by
  simp only [fits, List.any_eq_true, List.mem_tails, fits_literals_iff,
    List.infix_iff_prefix_suffix]
  constructor
  · rintro ⟨r, hr, hterm⟩
    exact ⟨r.map fold, hterm, hr.map fold⟩
  · rintro ⟨t, hterm, ht⟩
    obtain ⟨r, hr, rfl⟩ := List.suffix_map_iff.1 ht
    exact ⟨r, hr, hterm⟩

theorem isLike_containingWith (hpercent : e ≠ '%') (hunderscore : e ≠ '_')
    (term s : List Char) :
    isLike fold e (containingWith e term) s = some (decide (term.map fold <:+: s.map fold)) := by
  rw [isLike, read_containingWith hpercent hunderscore, Option.map_some, Option.some_inj,
    Bool.eq_iff_iff, fits_containing_iff, decide_eq_true_iff]

/-- **Folding a pattern folds its term.** -/
theorem map_containingWith (hpercent : e ≠ '%') (hunderscore : e ≠ '_')
    (hfold : IsFolding e fold) (term : List Char) :
    (containingWith e term).map fold = containingWith e (term.map fold) := by
  have hmark (c : Char) : isMark e (fold c) = isMark e c := by
    rw [Bool.eq_iff_iff]
    exact ⟨hfold.isMark_fold c, fun h => by rwa [hfold.fold_mark c h]⟩
  have hpercent' : fold '%' = '%' := hfold.fold_mark '%' (by simp [isMark])
  have he : fold e = e := hfold.fold_mark e (by simp [isMark])
  have hpart (c : Char) : (if isMark e c then [e, c] else [c]).map fold =
      if isMark e (fold c) then [e, fold c] else [fold c] := by
    rw [hmark]
    split
    · rw [List.map_cons, List.map_singleton, he]
    · rfl
  rw [containingWith, containingWith, escape_singleton hpercent hunderscore,
    escape_singleton hpercent hunderscore, List.flatMap_map, List.map_append, List.map_cons,
    List.map_flatMap, List.map_singleton, hpercent']
  simp only [hpart]

end Pattern

/-! ## 4. Conditions -/

/-- A condition that the text in a column is like a pattern. -/
structure LikeTest where
  column : Column
  pattern : Bind
  escapeChar : Char

/-- The text of the condition. -/
def LikeTest.symbols (t : LikeTest) : List Symbol :=
  chars (columnText t.column) ++ chars " ILIKE " ++ [.slot (.bind t.pattern)] ++
    chars " ESCAPE '" ++ [.char t.escapeChar] ++ chars "'"

/-- Its truth on a row, where characters are compared after folding; none when the pattern cannot
be read, or for other values than texts. -/
def LikeTest.truth (fold : Char → Char) (row : Row) (t : LikeTest) : Option Truth :=
  match row.get t.column.name, t.pattern.value with
  | .str s, .str pattern =>
    (Pattern.isLike fold t.escapeChar pattern.toList s.toList).map Truth.ofBool
  | .null, _ | _, .null => some .null
  | _, _ => none

/-- The condition that a column holds a term. -/
def likeTest (c : Column) (term : String) : LikeTest :=
  let pattern : Value := .str (String.ofList (Pattern.containing term.toList))
  ⟨c, ⟨c.name, pattern, .compared c pattern⟩, Pattern.escapeChar⟩

/-- A term is looked for as the clause of a column. -/
theorem likeness_symbols {c : Column} (hplace : c.type ≠ .point) (term : String) :
    ∃ ps, likeness c term = .leaf ps ∧ symbols ps = (likeTest c term).symbols := by
  refine ⟨_, rfl, ?_⟩
  simp [likeTest, LikeTest.symbols, Piece.symbols, comparison, comparedValue, hplace, chars]
  rfl

/-- **A condition with the pattern of a term holds where the term occurs**: as a run of characters
that are the term's after folding.  The percent signs, underscores, backslashes and escape
characters of the term stand for themselves, whatever the escape character, and so they do when the
pattern and the text are folded before they are compared. -/
theorem like_containing {e : Char} {fold : Char → Char} (hpercent : e ≠ '%')
    (hunderscore : e ≠ '_') (hfold : Pattern.IsFolding e fold) (term text : String) :
    Pattern.isLike fold e ('%' :: Pattern.escape [e] term.toList ++ ['%']) text.toList =
        some (decide (term.toList.map fold <:+: text.toList.map fold)) ∧
      Pattern.isLike id e (('%' :: Pattern.escape [e] term.toList ++ ['%']).map fold)
          (text.toList.map fold) =
        some (decide (term.toList.map fold <:+: text.toList.map fold)) ∧
      ∀ today name c row, columnOf name = .ok c → c.type ≠ .point →
        row.get c.name = .str text →
        ∃ ps, clause today (.like name term) = .ok (.leaf ps) ∧
          symbols ps = (likeTest c term).symbols ∧
          (likeTest c term).truth fold row =
            some (.ofBool (term.toList.map fold <:+: text.toList.map fold)) := by
  refine ⟨Pattern.isLike_containingWith hpercent hunderscore _ _, ?_, ?_⟩
  · have hfolded := Pattern.map_containingWith hpercent hunderscore hfold term.toList
    have hlike := @Pattern.isLike_containingWith e id hpercent hunderscore
      (term.toList.map fold) (text.toList.map fold)
    rw [List.map_id, List.map_id, ← hfolded] at hlike
    exact hlike
  · intro today name c row hname hplace hrow
    obtain ⟨ps, hclause, hsymbols⟩ := likeness_symbols hplace term
    refine ⟨ps, by rw [clause, hname, ← hclause]; rfl, hsymbols, ?_⟩
    have hlike := @Pattern.isLike_containingWith Pattern.escapeChar fold (by decide) (by decide)
      term.toList text.toList
    have htruth : (likeTest c term).truth fold row =
        (Pattern.isLike fold Pattern.escapeChar (Pattern.containing term.toList)
          text.toList).map .ofBool := by
      simp only [likeTest, LikeTest.truth, hrow, String.toList_ofList]
    rw [htruth]
    exact congrArg (Option.map Truth.ofBool) hlike

/-- Lower case leaves the special characters alone, as it does every character but the capitals, and
it makes no capital one. -/
theorem Pattern.isFolding_toLower : Pattern.IsFolding '!' Char.toLower := by
  have hcapitals : ∀ k < 26, Pattern.isMark '!' (Char.ofNat (65 + k)) = false ∧
      Pattern.isMark '!' (Char.ofNat (65 + k)).toLower = false := by decide
  have hcapital {c : Char} (hc : c.isUpper = true) :
      Pattern.isMark '!' c = false ∧ Pattern.isMark '!' c.toLower = false := by
    have hc : 65 ≤ c.val ∧ c.val ≤ 90 := of_decide_eq_true hc
    have hlow : 65 ≤ c.toNat := UInt32.le_iff_toNat_le.1 hc.1
    have hhigh : c.toNat ≤ 90 := UInt32.le_iff_toNat_le.1 hc.2
    have hk := hcapitals (c.toNat - 65) (by omega)
    rwa [Nat.add_sub_cancel' hlow, Char.ofNat_toNat] at hk
  have hother {c : Char} (hc : ¬ c.isUpper = true) : c.toLower = c := by
    exact dif_neg fun hbounds => hc (decide_eq_true hbounds)
  constructor
  · intro c hc
    by_cases hupper : c.isUpper = true
    · rw [(hcapital hupper).1] at hc
      cases hc
    · exact hother hupper
  · intro c hc
    by_cases hupper : c.isUpper = true
    · rw [(hcapital hupper).2] at hc
      cases hc
    · rwa [hother hupper] at hc

/-- The column of street names. -/
def streetColumn : Column where
  name := "street_name"
  type := .varchar 100

/-- A row with special characters in its street name. -/
def lotRow : Row where
  fields := [("street_name", .str "LOT 50%_A\\B! West")]

theorem like_containing_lot :
    Pattern.isLike Char.toLower '!' ('%' :: Pattern.escape ['!'] "50%_a\\b!".toList ++ ['%'])
        "LOT 50%_A\\B! West".toList = some true ∧
      (likeTest streetColumn "50%_a\\b!").truth Char.toLower lotRow = some .yes := by
  have hoccurs : "50%_a\\b!".toList.map Char.toLower <:+:
      "LOT 50%_A\\B! West".toList.map Char.toLower := by decide
  have hname : columnOf "street_name" = .ok streetColumn := rfl
  have hrow : lotRow.get streetColumn.name = .str "LOT 50%_A\\B! West" := rfl
  obtain ⟨hlike, -, hnode⟩ := like_containing (e := '!') (by decide) (by decide)
    Pattern.isFolding_toLower "50%_a\\b!" "LOT 50%_A\\B! West"
  obtain ⟨-, -, -, htruth⟩ :=
    hnode ⟨2026, 3, 10⟩ "street_name" streetColumn lotRow hname (by decide) hrow
  rw [hlike, htruth, decide_eq_true hoccurs]
  exact ⟨rfl, rfl⟩

end Realty.Sql
