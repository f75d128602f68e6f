/-
# The choices of a value are canonical

* `Canonical` is what choices are in terms of the texts that a value gives: all of these, trimmed
  and not empty, each once, in the order in which they first occur.
* `choices_of_canonical`: what is canonical is listed as it is.
* `choices_canonical`: the choices in a text with commas, a list or a tuple are canonical, and so
  choosing among them again changes nothing.
-/
import Realty.Proofs.Text.Trim
import Realty.Value.Coerce

namespace Realty.Value

/-- The texts of the items that are not null. -/
def itemTexts (xs : List Value) : List String := (xs.filter fun x => !x.isNull).map text

/-- The items of a list of strings are the strings. -/
theorem itemTexts_strings (ss : List String) : itemTexts (ss.map .str) = ss := by
  have hkept : ((ss.map Value.str).filter fun x => !x.isNull) = ss.map .str := by
    refine List.filter_eq_self.2 fun x hx => ?_
    obtain ⟨s, -, rfl⟩ := List.mem_map.1 hx
    rfl
  rw [itemTexts, hkept, List.map_map]
  exact List.map_id'' (fun s => by rw [Function.comp_apply, text]) ss

/-! ## 1. Canonical choices -/

/-- What choices are, in terms of the texts that they are taken from. -/
structure Canonical (texts choices : List String) : Prop where
  nodup : choices.Nodup
  bare : ∀ s ∈ choices, s ≠ "" ∧ Text.Bare Text.isBlank s.toList
  mem_iff : ∀ s, s ∈ choices ↔ s ≠ "" ∧ ∃ t ∈ texts, Text.trimmed t = s
  ordered : ∀ s ∈ choices, ∀ t ∈ choices, choices.idxOf s < choices.idxOf t ↔
    (texts.map Text.trimmed).idxOf s < (texts.map Text.trimmed).idxOf t

theorem bare_trimmed (s : String) : Text.Bare Text.isBlank (Text.trimmed s).toList := by
  rw [Text.trimmed, String.toList_ofList]
  exact Text.bare_trimWhere _ _

theorem trimmed_of_bare {s : String} (h : Text.Bare Text.isBlank s.toList) :
    Text.trimmed s = s := by
  rw [Text.trimmed, Text.trim, h.trimWhere_self, String.ofList_toList]

theorem mem_choices_iff {v : Value} {s : String} :
    s ∈ v.choices ↔ s ≠ "" ∧ ∃ t ∈ v.rawChoices, Text.trimmed t = s := by
  rw [choices, mem_distinct, List.mem_filter, List.mem_map, and_comm]
  simp

/-- **The choices of every value are canonical.** -/
theorem canonical_choices (v : Value) : Canonical v.rawChoices v.choices where
  nodup := nodup_choices v
  bare s hs := by
    obtain ⟨hne, t, -, rfl⟩ := mem_choices_iff.1 hs
    exact ⟨hne, bare_trimmed t⟩
  mem_iff _ := mem_choices_iff
  ordered s hs t ht := by
    have hkept {u : String} (hu : u ∈ v.choices) : (!u.isEmpty) = true := by
      simpa using ne_empty_of_mem_choices hu
    rw [choices, idxOf_distinct_lt_iff]
    exact idxOf_filter_lt_iff (fun r : String => !r.isEmpty) (hkept hs) (hkept ht) _

/-- **What is canonical is listed as it is.** -/
theorem choices_of_canonical {texts cs : List String} (h : Canonical texts cs) :
    (tuple (cs.map .str)).choices = cs := by
  have hraw : (tuple (cs.map .str)).rawChoices = cs := itemTexts_strings cs
  have htrimmed : cs.map Text.trimmed = cs :=
    (List.map_congr_left fun s hs => trimmed_of_bare (h.bare s hs).2).trans (List.map_id cs)
  have hkept : (cs.filter fun s => !s.isEmpty) = cs :=
    List.filter_eq_self.2 fun s hs => by simpa using (h.bare s hs).1
  rw [choices, hraw, htrimmed, hkept, distinct_of_nodup h.nodup]

/-! ## 2. Texts and items -/

/-- **The choices in a text with commas, a list or a tuple are canonical**, and choosing among them
again changes nothing. -/
theorem choices_canonical :
    (∀ s, Canonical (Text.parts ',' s) (str s).choices) ∧
    (∀ xs, Canonical (itemTexts xs) (list xs).choices ∧
      Canonical (itemTexts xs) (tuple xs).choices) ∧
    ∀ v : Value, (tuple (v.choices.map .str)).choices = v.choices :=
  ⟨fun s => canonical_choices (.str s),
    fun xs => ⟨canonical_choices (.list xs), canonical_choices (.tuple xs)⟩,
    fun v => choices_of_canonical (canonical_choices v)⟩

end Realty.Value
