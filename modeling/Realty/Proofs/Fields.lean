/-
# Fields by key

A list of fields in which no key is given twice is a mapping: what a key maps to is what it stands
with, in whatever order the fields are.

* `lookup_eq_some_iff_mem`: a key maps to a value exactly when the field is there.
* `lookup_of_perm`: so the order of the fields does not matter.
* `lookup_mapped`: a change of all values changes what each key maps to.
* `lookup_filter`: fields of other keys do not matter.
* `lookup_tabulated`: a table of a function maps its keys to their values.
-/
import Mathlib.Data.List.Nodup

namespace Realty

variable {α β : Type} {fs gs : List (String × α)}

/-- **A key maps to a value exactly when the field is there.** -/
theorem lookup_eq_some_iff_mem (h : (fs.map Prod.fst).Nodup) {key : String} {x : α} :
    fs.lookup key = some x ↔ (key, x) ∈ fs := by
  induction fs with
  | nil => simp
  | cons f fs ih =>
    obtain ⟨k, y⟩ := f
    obtain ⟨hfresh, hrest⟩ := List.nodup_cons.1 h
    rw [List.lookup_cons, List.mem_cons, Prod.mk.injEq]
    by_cases hkey : key = k
    · subst hkey
      have habsent : (key, x) ∉ fs := fun hmem => hfresh (List.mem_map.2 ⟨_, hmem, rfl⟩)
      simp [habsent, eq_comm]
    · rw [beq_false_of_ne hkey]
      simp [hkey, ih hrest]

/-- The order of the fields does not matter. -/
theorem lookup_of_perm (h : (fs.map Prod.fst).Nodup) (hperm : fs.Perm gs) (key : String) :
    fs.lookup key = gs.lookup key := by
  have hgs : (gs.map Prod.fst).Nodup := (hperm.map Prod.fst).nodup_iff.1 h
  refine Option.ext fun x => ?_
  rw [lookup_eq_some_iff_mem h, lookup_eq_some_iff_mem hgs, hperm.mem_iff]

/-- A change of all values changes what each key maps to. -/
theorem lookup_mapped (change : α → β) (fs : List (String × α)) (key : String) :
    (fs.map fun f => (f.1, change f.2)).lookup key = (fs.lookup key).map change := by
  induction fs with
  | nil => rfl
  | cons f fs ih =>
    rw [List.map_cons, List.lookup_cons, List.lookup_cons, ih]
    cases key == f.1 <;> rfl

/-- Fields of other keys do not matter. -/
theorem lookup_filter {keep : String → Bool} {key : String} (h : keep key = true)
    (fs : List (String × α)) : (fs.filter fun f => keep f.1).lookup key = fs.lookup key := by
  induction fs with
  | nil => rfl
  | cons f fs ih =>
    rw [List.filter_cons, List.lookup_cons]
    cases hf : key == f.1 with
    | true => rw [← eq_of_beq hf, if_pos h, List.lookup_cons, hf]
    | false =>
      split
      · rw [List.lookup_cons, hf, ih]
      · exact ih

/-- A table of a function maps its keys to their values. -/
theorem lookup_tabulated (value : String → α) (keys : List String) (key : String) :
    (keys.map fun k => (k, value k)).lookup key =
      if key ∈ keys then some (value key) else none := by
  induction keys with
  | nil => rfl
  | cons k keys ih =>
    rw [List.map_cons, List.lookup_cons, ih]
    by_cases hkey : key = k
    · subst hkey
      simp
    · rw [beq_false_of_ne hkey]
      simp [hkey]

end Realty
