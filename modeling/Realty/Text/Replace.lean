/-
# Replacing parts of a text

`replaceAll old new s` replaces every occurrence of `old`, from the left, without overlaps; an
empty `old` occurs nowhere.
-/

namespace Realty.Text

/-- A text with every occurrence of one part replaced by another; the first characters, already
consumed, are skipped. -/
def replaceFrom (old new : List Char) : Nat → List Char → List Char
  | _, [] => []
  | skip + 1, _ :: r => replaceFrom old new skip r
  | 0, c :: r =>
    if !old.isEmpty && old.isPrefixOf (c :: r) then new ++ replaceFrom old new (old.length - 1) r
    else c :: replaceFrom old new 0 r

/-- A text with every occurrence of one part replaced by another. -/
def replaceAll (old new s : List Char) : List Char := replaceFrom old new 0 s

/-- Replacing a single character goes character by character. -/
theorem replaceAll_singleton (x : Char) (new s : List Char) :
    replaceAll [x] new s = s.flatMap fun c => if c = x then new else [c] := by
  unfold replaceAll
  induction s with
  | nil => rfl
  | cons c r ih =>
    by_cases h : c = x
    · simp [replaceFrom, h, ih]
    · simp [replaceFrom, Ne.symm h, h, ih]

end Realty.Text
