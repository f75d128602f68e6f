/-
# Regular expressions

What the operator `~` says of a text and a pattern, for patterns of one alternative.

* `read` reads a pattern: letters and digits stand for themselves and `[a-b]` for a range of them,
  `*` and `{m,n}` say how many stand in a row, and `^` and `$` are the start and the end of the
  text, not of its lines.  Other patterns are not read.
* `isFound` says whether a pattern matches a stretch of a text: every stretch is tried, and every
  number of characters that a part of the pattern may take.
* `mem_remainders_iff` tells what a part may take.  `isFound_start`: a pattern with an anchor in
  front is found at the start or not at all.
-/
import Realty.Proofs.Text.Digits

namespace Realty.Sql.Regex

/-! ## 1. Patterns -/

/-- A set of characters. -/
inductive Atom where
  | char (c : Char)
  | range (first last : Char)
deriving DecidableEq, Repr

/-- How many characters stand in a row. -/
inductive Repetition where
  | once
  | many
  | between (least most : Nat)
deriving DecidableEq, Repr

/-- A part of a pattern. -/
inductive Part where
  | start
  | stop
  | row (a : Atom) (q : Repetition)
deriving DecidableEq, Repr

/-- Whether a character is in a set. -/
def Atom.accepts : Atom → Char → Bool
  | .char c, d => d = c
  | .range first last, d => first ≤ d && d ≤ last

/-- Whether so many characters may stand in a row. -/
def Repetition.allows : Repetition → Nat → Bool
  | .once, k => k = 1
  | .many, _ => true
  | .between least most, k => least ≤ k && k ≤ most

/-! ## 2. Reading a pattern -/

/-- A set of characters at the start of a pattern, and what follows it. -/
def atom? : List Char → Option (Atom × List Char)
  | '[' :: a :: '-' :: b :: ']' :: r =>
    if a.isAlphanum && b.isAlphanum then some (.range a b, r) else none
  | c :: r => if c.isAlphanum then some (.char c, r) else none
  | [] => none

/-- The bounds of a repetition behind their opening brace, and what follows them. -/
def bounds? (r : List Char) : Option (Repetition × List Char) :=
  let least := r.takeWhile Char.isDigit
  match r.drop least.length with
  | ',' :: r =>
    let most := r.takeWhile Char.isDigit
    match r.drop most.length with
    | '}' :: r =>
      if least.isEmpty || most.isEmpty then none
      else some (.between (Text.digitsValue least) (Text.digitsValue most), r)
    | _ => none
  | _ => none

/-- How often a set stands in a row, from what follows it. -/
def repetition? : List Char → Option (Repetition × List Char)
  | '*' :: r => some (.many, r)
  | '{' :: r => bounds? r
  | r => some (.once, r)

/-- The parts of a pattern, the first argument being at least their number. -/
def readParts : Nat → List Char → Option (List Part)
  | _, [] => some []
  | 0, _ => none
  | k + 1, '^' :: r => (readParts k r).map (.start :: ·)
  | k + 1, '$' :: r => (readParts k r).map (.stop :: ·)
  | k + 1, cs => do
    let (a, r) ← atom? cs
    let (q, r) ← repetition? r
    return .row a q :: (← readParts k r)

/-- The parts of a pattern. -/
def read (cs : List Char) : Option (List Part) := readParts cs.length cs

/-! ## 3. Matching -/

/-- What is left of a text after a row, some characters of which have been taken. -/
def remainders (a : Atom) (q : Repetition) (taken : Nat) : List Char → List (List Char)
  | [] => if q.allows taken then [[]] else []
  | c :: cs =>
    (if q.allows taken then [c :: cs] else []) ++
      if a.accepts c then remainders a q (taken + 1) cs else []

/-- Whether a pattern matches the start of what is left of a text; `atStart` says whether all of
the text is left. -/
def matchesFrom (atStart : Bool) : List Part → List Char → Bool
  | [], _ => true
  | .start :: ps, cs => atStart && matchesFrom atStart ps cs
  | .stop :: ps, cs => cs.isEmpty && matchesFrom atStart ps cs
  | .row a q :: ps, cs =>
    (remainders a q 0 cs).any fun r => matchesFrom (atStart && r.length == cs.length) ps r

/-- Whether a pattern matches a stretch of what is left of a text. -/
def isFoundFrom (atStart : Bool) (ps : List Part) : List Char → Bool
  | [] => matchesFrom atStart ps []
  | c :: cs => matchesFrom atStart ps (c :: cs) || isFoundFrom false ps cs

/-- Whether a pattern matches a stretch of a text. -/
def isFound (ps : List Part) (cs : List Char) : Bool := isFoundFrom true ps cs

variable {a : Atom} {q : Repetition} {ps : List Part} {cs r : List Char} {atStart : Bool}

/-- **A row takes accepted characters, as many as may stand in it.** -/
theorem mem_remainders_iff {n : Nat} :
    r ∈ remainders a q n cs ↔
      ∃ taken, cs = taken ++ r ∧ (∀ c ∈ taken, a.accepts c = true) ∧
        q.allows (n + taken.length) = true := by
  -- the row is at its end, or it takes one character and goes on behind it
  have hend {k : Nat} {ds : List Char} :
      r ∈ (if q.allows k then [ds] else []) ↔ r = ds ∧ q.allows k = true := by
    split
    · next h => simp [h]
    · next h => simp [h]
  induction cs generalizing n with
  | nil =>
    rw [remainders, hend]
    constructor
    · rintro ⟨rfl, h⟩
      exact ⟨[], rfl, nofun, h⟩
    · rintro ⟨taken, htaken, -, h⟩
      obtain ⟨rfl, rfl⟩ := List.append_eq_nil_iff.1 htaken.symm
      exact ⟨rfl, h⟩
  | cons c cs ih =>
    rw [remainders, List.mem_append, hend]
    constructor
    · rintro (⟨rfl, h⟩ | h)
      · exact ⟨[], rfl, nofun, h⟩
      · split at h
        · next hc =>
          obtain ⟨taken, rfl, haccepts, hallows⟩ := ih.1 h
          refine ⟨c :: taken, rfl, List.forall_mem_cons.2 ⟨hc, haccepts⟩, ?_⟩
          rwa [List.length_cons, Nat.add_comm taken.length, ← Nat.add_assoc]
        · cases h
    · rintro ⟨taken, htaken, haccepts, hallows⟩
      cases taken with
      | nil => exact Or.inl ⟨htaken.symm, hallows⟩
      | cons d taken =>
        obtain ⟨rfl, rfl⟩ := List.cons.inj htaken
        obtain ⟨hc, haccepts⟩ := List.forall_mem_cons.1 haccepts
        rw [List.length_cons, Nat.add_comm taken.length, ← Nat.add_assoc] at hallows
        exact Or.inr (if_pos hc ▸ ih.2 ⟨taken, rfl, haccepts, hallows⟩)

theorem matchesFrom_row :
    matchesFrom atStart (.row a q :: ps) cs = true ↔
      ∃ taken r, cs = taken ++ r ∧ (∀ c ∈ taken, a.accepts c = true) ∧
        q.allows taken.length = true ∧
        matchesFrom (atStart && r.length == cs.length) ps r = true := by
  simp only [matchesFrom, List.any_eq_true, mem_remainders_iff, Nat.zero_add]
  constructor
  · rintro ⟨r, ⟨taken, hcs, haccepts, hallows⟩, hrest⟩
    exact ⟨taken, r, hcs, haccepts, hallows, hrest⟩
  · rintro ⟨taken, r, hcs, haccepts, hallows, hrest⟩
    exact ⟨r, ⟨taken, hcs, haccepts, hallows⟩, hrest⟩

theorem matchesFrom_stop : matchesFrom atStart [.stop] cs = true ↔ cs = [] := by
  simp [matchesFrom]

/-- A pattern with an anchor in front is found nowhere after the start. -/
theorem isFoundFrom_start_of_not_atStart : isFoundFrom false (.start :: ps) cs = false := by
  induction cs with
  | nil => rfl
  | cons c cs ih =>
    rw [isFoundFrom, ih]
    rfl

/-- **A pattern with an anchor in front is found at the start or not at all.** -/
theorem isFound_start : isFound (.start :: ps) cs = matchesFrom true ps cs := by
  cases cs with
  | nil => rfl
  | cons c cs =>
    rw [isFound, isFoundFrom, isFoundFrom_start_of_not_atStart, Bool.or_false]
    rfl

end Realty.Sql.Regex
