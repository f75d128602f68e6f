/-
# What trimming leaves

* `Bare` texts have no character of a class at either end; `Padded` ones are another text with some
  put around it.
* `trimWhere_eq_iff`: trimming gives the one bare text that a text is padded from.
* `trimWhere_of_padded`: so padding a text further changes nothing.
-/
import Mathlib.Data.List.DropRight
import Mathlib.Data.List.TakeWhile
import Realty.Text.Blank

namespace Realty.Text

variable {p : Char → Bool} {s t u : List Char}

/-- No character of a class stands at either end of a text. -/
structure Bare (p : Char → Bool) (s : List Char) : Prop where
  first : ∀ c ∈ s.head?, p c = false
  last : ∀ c ∈ s.getLast?, p c = false

/-- A text is another one with characters of a class put before and after it. -/
def Padded (p : Char → Bool) (t s : List Char) : Prop :=
  ∃ left right, s = left ++ (t ++ right) ∧ (∀ c ∈ left, p c = true) ∧ ∀ c ∈ right, p c = true

/-- What is put around a padded text is put around the text in it. -/
theorem Padded.trans (hts : Padded p t s) (hsu : Padded p s u) : Padded p t u := by
  obtain ⟨left, right, rfl, hleft, hright⟩ := hts
  obtain ⟨left', right', rfl, hleft', hright'⟩ := hsu
  refine ⟨left' ++ left, right ++ right', by simp, ?_, ?_⟩
  · exact fun c hc => (List.mem_append.1 hc).elim (hleft' c) (hleft c)
  · exact fun c hc => (List.mem_append.1 hc).elim (hright c) (hright' c)

theorem bare_of_forall (h : ∀ c ∈ s, p c = false) : Bare p s where
  first c hc := h c (List.mem_of_mem_head? hc)
  last c hc := h c (List.mem_of_mem_getLast? hc)

/-! ## 1. What is left -/

/-- What is left is bare. -/
theorem bare_trimWhere (p : Char → Bool) (s : List Char) : Bare p (trimWhere p s) where
  first c hc := by
    have hprefix : trimWhere p s <+: s.dropWhile p := List.rdropWhile_prefix p _
    obtain ⟨right, hright⟩ := hprefix
    have hhead : (s.dropWhile p).head? = some c := by
      rw [← hright, List.head?_append, hc]
      rfl
    rw [← List.find?_not_eq_head?_dropWhile] at hhead
    simpa using List.find?_some hhead
  last c hc := by
    obtain ⟨hne, rfl⟩ := List.mem_getLast?_eq_getLast hc
    exact Bool.eq_false_iff.2 (List.rdropWhile_last_not p (s.dropWhile p) hne)

/-- A text is padded from what is left of it. -/
theorem padded_trimWhere (p : Char → Bool) (s : List Char) : Padded p (trimWhere p s) s := by
  refine ⟨s.takeWhile p, (s.dropWhile p).rtakeWhile p, ?_, fun c hc => ?_, fun c hc => ?_⟩
  · have hend : trimWhere p s ++ (s.dropWhile p).rtakeWhile p = s.dropWhile p :=
      List.rdropWhile_append_rtakeWhile
    rw [hend, List.takeWhile_append_dropWhile]
  · exact List.mem_takeWhile_imp hc
  · exact List.mem_rtakeWhile_imp hc

/-! ## 2. What is taken away -/

/-- Characters of the class are dropped up to the first one that is not in it. -/
theorem dropWhile_padded {left : List Char} (hleft : ∀ c ∈ left, p c = true)
    (hs : ∀ c ∈ s.head?, p c = false) : (left ++ s).dropWhile p = s := by
  rw [List.dropWhile_append_of_pos hleft]
  cases s with
  | nil => rfl
  | cons c r => rw [List.dropWhile_cons_of_neg (by simp [hs c rfl])]

/-- **Trimming takes away what is put around a bare text.** -/
theorem Bare.trimWhere_eq (ht : Bare p t) (h : Padded p t s) : trimWhere p s = t := by
  obtain ⟨left, right, rfl, hleft, hright⟩ := h
  rcases eq_or_ne t [] with rfl | hne
  · have hall : ∀ c ∈ left ++ right, p c = true := fun c hc =>
      (List.mem_append.1 hc).elim (hleft c) (hright c)
    rw [trimWhere, List.nil_append, List.dropWhile_eq_nil_iff.2 hall]
    rfl
  · have hfirst : ∀ c ∈ (t ++ right).head?, p c = false := by
      rw [List.head?_append_of_ne_nil t hne]
      exact ht.first
    have hlast : ∀ c ∈ t.reverse.head?, p c = false := by
      rw [List.head?_reverse]
      exact ht.last
    rw [trimWhere, dropWhile_padded hleft hfirst, List.reverse_append,
      dropWhile_padded (fun c hc => hright c (List.mem_reverse.1 hc)) hlast, List.reverse_reverse]

/-- **Trimming gives the one bare text that a text is padded from.** -/
theorem trimWhere_eq_iff : trimWhere p s = t ↔ Bare p t ∧ Padded p t s := by
  constructor
  · rintro rfl
    exact ⟨bare_trimWhere p s, padded_trimWhere p s⟩
  · rintro ⟨hbare, hpadded⟩
    exact hbare.trimWhere_eq hpadded

/-- **Padding a text changes nothing** of what is left of it. -/
theorem trimWhere_of_padded (h : Padded p s t) : trimWhere p t = trimWhere p s :=
  (bare_trimWhere p s).trimWhere_eq ((padded_trimWhere p s).trans h)

/-- Nothing is taken away from a bare text. -/
theorem Bare.trimWhere_self (h : Bare p s) : trimWhere p s = s :=
  h.trimWhere_eq ⟨[], [], (List.append_nil s).symm, nofun, nofun⟩

end Realty.Text
