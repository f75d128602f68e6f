/-
# The texts that name a category

A category is asked for by its label, which a user may write in any case and with blanks around it.

* `Names`: a text names a category.  `ofLabel?_normalize_iff`: these are the texts that are
  recognised.
* `Respelled`: one text is another way to write the same.  `Respelled.names_iff`: both name the same
  category, if any.
-/
import Realty.Proofs.Fields
import Realty.Proofs.Text.Case
import Realty.Status

namespace Realty.Status

/-! ## 1. Recognised texts -/

variable {s t : String} {c : Category}

/-- A text names a category: it is a label of it, in any case and with blanks around it. -/
def Names (s : String) (c : Category) : Prop :=
  ∃ label, (label, c) ∈ labels ∧
    ∃ word, Text.Padded Text.isBlank word s.toList ∧ Text.asciiLower word = label.toList

/-- Labels have neither a k nor blanks at their ends. -/
theorem label_isPlain : ∀ l ∈ labels, (∀ c ∈ l.1.toList, c.toNat < 128 ∧ c ≠ 'k') ∧
    Text.Bare Text.isBlank l.1.toList := by
  have hchars : labels.all (fun l => l.1.toList.all fun c => c.toNat < 128 ∧ c ≠ 'k') = true := by
    decide +kernel
  have hends : ∀ l ∈ labels, Text.trim l.1.toList = l.1.toList := by decide +kernel
  simp only [List.all_eq_true, decide_eq_true_iff] at hchars
  exact fun l hl => ⟨hchars l hl, (Text.trimWhere_eq_iff.1 (hends l hl)).1⟩

/-- A text names a category when a label of it is what is left of the text, but for the case. -/
theorem names_iff : Names s c ↔
    ∃ label, (label, c) ∈ labels ∧ Text.trim (Text.asciiLower s.toList) = label.toList := by
  simp only [← Text.asciiLower_trim]
  constructor
  · rintro ⟨label, hlabel, word, hpadded, hword⟩
    have hbare : Text.Bare Text.isBlank word := by
      refine Text.Bare.of_asciiLower ?_
      rw [hword]
      exact (label_isPlain _ hlabel).2
    have htrim : Text.trim s.toList = word := hbare.trimWhere_eq hpadded
    exact ⟨label, hlabel, by rw [htrim, hword]⟩
  · rintro ⟨label, hlabel, hword⟩
    exact ⟨label, hlabel, _, Text.padded_trimWhere _ _, hword⟩

theorem normalize_eq_iff {label : String} (h : (label, c) ∈ labels) :
    normalize s = label ↔ Text.trim (Text.asciiLower s.toList) = label.toList := by
  rw [normalize, ← Text.asciiLower_trim, ← Text.lower_eq_iff (label_isPlain _ h).1,
    ← String.toList_inj, String.toList_ofList]

/-- **The texts that are recognised are those that name a category.** -/
theorem ofLabel?_normalize_iff : ofLabel? (normalize s) = some c ↔ Names s c := by
  have hdistinct : (labels.map Prod.fst).Nodup := by decide
  rw [ofLabel?, lookup_eq_some_iff_mem hdistinct, Status.names_iff]
  constructor
  · exact fun h => ⟨_, h, (normalize_eq_iff h).1 rfl⟩
  · rintro ⟨label, hlabel, hword⟩
    rwa [(normalize_eq_iff hlabel).2 hword]

/-! ## 2. Other spellings -/

/-- One text is another way to write the same label. -/
inductive Respelled : String → String → Prop
  | letters {s t : String} (h : Text.asciiLower s.toList = Text.asciiLower t.toList) :
      Respelled s t
  | blanks {s t : String} (h : Text.Padded Text.isBlank s.toList t.toList) : Respelled s t
  | synonym : Respelled "pending" "under agreement"

/-- **Both name the same category**, if any. -/
theorem Respelled.names_iff (h : Respelled s t) : Names s c ↔ Names t c := by
  cases h with
  | letters h => rw [Status.names_iff, Status.names_iff, h]
  | blanks h =>
    simp only [Status.names_iff, ← Text.asciiLower_trim]
    rw [Text.trim, Text.trim, Text.trimWhere_of_padded h]
  | synonym =>
    have hlabels : ofLabel? (normalize "pending") = ofLabel? (normalize "under agreement") := by
      decide +kernel
    rw [← ofLabel?_normalize_iff, ← ofLabel?_normalize_iff, hlabels]

end Realty.Status
