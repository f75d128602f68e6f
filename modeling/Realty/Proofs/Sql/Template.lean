/-
# Fragments by their segments

A fragment of query text is written as literal text and placeholders in turn.  `scan_source` says
that scanning it finds these again: a placeholder starts where no name can be meant to go on, and
ends before a character that belongs to no name.
-/
import Realty.Sql.Template

namespace Realty.Sql.Template

/-! ## 1. Segments -/

/-- A segment of a fragment: literal text, the name of a column, or a placeholder. -/
inductive Segment where
  | text (cs : List Char)
  | column (cs : List Char)
  | slot (name : List Char)

/-- Whether a character stands for itself. -/
def isLiteral (c : Char) : Bool := c != ':' && c != '%' && c != '\\'

/-- Whether a character may stand in the name of a column, a table in front of it included. -/
def isColumnChar (c : Char) : Bool := c.isAlphanum || c == '_' || c == '.'

/-- Whether a character can stand beside a placeholder. -/
def isBoundary (c : Char) : Bool := c == ' ' || c == '(' || c == ')' || c == ','

namespace Segment

/-- The text of a segment in a fragment. -/
def source : Segment → List Char
  | .text cs => cs
  | .column cs => cs
  | .slot name => ':' :: name

/-- The parts that a segment is scanned as. -/
def scanned : Segment → List Token
  | .text cs => cs.map fun c => .text [c]
  | .column cs => cs.map fun c => .text [c]
  | .slot name => [.slot name]

/-- Text stands for itself, and a placeholder has a name. -/
def isWellFormed : Segment → Bool
  | .text cs => cs.all isLiteral
  | .column cs => cs.all isColumnChar
  | .slot name => !name.isEmpty && name.all Text.isWordChar

end Segment

/-- The text of a fragment. -/
def source (segments : List Segment) : List Char := segments.flatMap Segment.source

/-- The character before what follows a text. -/
def lastOr (before : Option Char) (cs : List Char) : Option Char :=
  cs.foldl (fun _ c => some c) before

/-- Whether placeholders have boundaries on both sides. -/
def fits (before : Option Char) : List Segment → Bool
  | [] => true
  | .text cs :: r => fits (lastOr before cs) r
  | .column cs :: r => fits (lastOr before cs) r
  | .slot name :: r =>
    before.all isBoundary && (source r).head?.all isBoundary && fits (lastOr (some ':') name) r

/-! ## 2. Scanning -/

theorem boundary_cases {c : Char} (h : isBoundary c = true) :
    c = ' ' ∨ c = '(' ∨ c = ')' ∨ c = ',' := by
  simpa [isBoundary, or_assoc] using h

/-- A boundary is part of no name, and a placeholder may start after it. -/
theorem boundary_effect {c : Char} (h : isBoundary c = true) :
    Text.isWordChar c = false ∧ c ≠ ':' ∧ blocks c = false := by
  rcases boundary_cases h with rfl | rfl | rfl | rfl <;> decide +kernel

theorem scanFrom_literal {c : Char} (before : Option Char) (r : List Char)
    (h : isLiteral c = true) :
    scanFrom before 0 (c :: r) = .text [c] :: scanFrom (some c) 0 r := by
  simp only [isLiteral, Bool.and_eq_true, bne_iff_ne] at h
  obtain ⟨⟨hcolon, hpercent⟩, hbackslash⟩ := h
  simp [scanFrom, plain, hcolon, hpercent, hbackslash]

theorem isLiteral_of_isColumnChar {c : Char} (h : isColumnChar c = true) : isLiteral c = true := by
  have hne (d : Char) (hd : isColumnChar d = false) : c ≠ d := by
    rintro rfl
    rw [h] at hd
    cases hd
  simp only [isLiteral, Bool.and_eq_true, bne_iff_ne]
  exact ⟨⟨hne ':' rfl, hne '%' rfl⟩, hne '\\' rfl⟩

/-- Literal text is scanned character by character. -/
theorem scanFrom_literals (before : Option Char) {cs : List Char} (r : List Char)
    (h : cs.all isLiteral = true) :
    scanFrom before 0 (cs ++ r) =
      (cs.map fun c => .text [c]) ++ scanFrom (lastOr before cs) 0 r := by
  induction cs generalizing before with
  | nil => rfl
  | cons c cs ih =>
    simp only [List.all_cons, Bool.and_eq_true] at h
    rw [List.cons_append, scanFrom_literal before _ h.1, ih (some c) h.2]
    rfl

/-- A name that has been read is skipped. -/
theorem scanFrom_skip (before : Option Char) (cs r : List Char) :
    scanFrom before cs.length (cs ++ r) = scanFrom (lastOr before cs) 0 r := by
  induction cs generalizing before with
  | nil => rfl
  | cons c cs ih =>
    rw [List.cons_append, List.length_cons, scanFrom, ih (some c)]
    rfl

/-- A name ends at a boundary. -/
theorem slotAt?_append {name r : List Char} (hne : name ≠ [])
    (hname : name.all Text.isWordChar = true) (hr : r.head?.all isBoundary = true) :
    slotAt? (name ++ r) = some name := by
  have hrest : r.takeWhile Text.isWordChar = [] ∧ r.head? ≠ some ':' := by
    cases r with
    | nil => simp
    | cons c r =>
      obtain ⟨hword, hcolon, -⟩ := boundary_effect (c := c) (by simpa using hr)
      simp [hword, hcolon]
  have hrun : (name ++ r).takeWhile Text.isWordChar = name := by
    rw [List.takeWhile_append_of_pos (List.all_eq_true.1 hname), hrest.1, List.append_nil]
  simp only [slotAt?, hrun, List.drop_left, if_neg hrest.2]
  simp [hne]

/-- **A placeholder between boundaries is found.** -/
theorem scanFrom_slot {before : Option Char} {name r : List Char} (hne : name ≠ [])
    (hname : name.all Text.isWordChar = true) (hbefore : before.all isBoundary = true)
    (hr : r.head?.all isBoundary = true) :
    scanFrom before 0 (':' :: name ++ r) =
      .slot name :: scanFrom (lastOr (some ':') name) 0 r := by
  have hfree : before.any blocks = false := by
    cases before with
    | none => rfl
    | some c => exact (boundary_effect (c := c) (by simpa using hbefore)).2.2
  have hslot := slotAt?_append hne hname hr
  rw [List.cons_append, scanFrom]
  simp only [hfree, Bool.not_false, Bool.and_true, decide_true, if_true, hslot]
  rw [scanFrom_skip]

/-- **Scanning finds the segments of a fragment.** -/
theorem scanFrom_source {before : Option Char} {segments : List Segment}
    (h : segments.all Segment.isWellFormed = true) (hfits : fits before segments = true) :
    scanFrom before 0 (source segments) = segments.flatMap Segment.scanned := by
  induction segments generalizing before with
  | nil => rfl
  | cons s r ih =>
    simp only [List.all_cons, Bool.and_eq_true] at h
    obtain ⟨hs, hr⟩ := h
    cases s with
    | text cs =>
      have hrest := ih hr hfits
      rw [List.flatMap_cons, ← hrest]
      exact scanFrom_literals before (source r) hs
    | column cs =>
      have hrest := ih hr hfits
      have hliteral : cs.all isLiteral = true :=
        List.all_eq_true.2 fun c hc => isLiteral_of_isColumnChar (List.all_eq_true.1 hs c hc)
      rw [List.flatMap_cons, ← hrest]
      exact scanFrom_literals before (source r) hliteral
    | slot name =>
      simp only [fits, Bool.and_eq_true] at hfits
      obtain ⟨⟨hbefore, hafter⟩, hfits⟩ := hfits
      simp only [Segment.isWellFormed, Bool.and_eq_true, Bool.not_eq_true',
        List.isEmpty_eq_false_iff] at hs
      have hrest := ih hr hfits
      rw [List.flatMap_cons, ← hrest]
      exact scanFrom_slot hs.1 hs.2 hbefore hafter

end Realty.Sql.Template
