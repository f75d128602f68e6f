/-
# Filters are read as a mapping

* `IsMapping`: no key is given twice.
* `get_perm`: a filter does not depend on the order in which the filters are given.
* `compile_perm`: nor does the plan of a search, its school criteria up to their order.
-/
import Realty.Proofs.Fields
import Realty.Proofs.Filter.Readings

namespace Realty.Filter

/-! ## 1. Looking up -/

/-- Whether no key is given twice. -/
def IsMapping (raw : Filters) : Prop := (raw.map Prod.fst).Nodup

instance (raw : Filters) : Decidable (IsMapping raw) :=
  inferInstanceAs (Decidable (raw.map Prod.fst).Nodup)

theorem IsMapping.perm {raw raw' : Filters} (h : IsMapping raw) (hperm : raw.Perm raw') :
    IsMapping raw' :=
  (hperm.map Prod.fst).nodup_iff.1 h

/-- What a key maps to does not depend on the order of the fields. -/
theorem lookup_perm {raw raw' : Filters} (h : IsMapping raw) (hperm : raw.Perm raw')
    (key : String) : raw.lookup key = raw'.lookup key :=
  lookup_of_perm h hperm key

theorem get_perm {raw raw' : Filters} (h : IsMapping raw) (hperm : raw.Perm raw') :
    get raw = get raw' := by
  funext key
  rw [get, get, lookup_perm h hperm]

/-- A filter does not depend on those of other keys. -/
theorem get_filter {key : String} (keep : String → Bool) (h : keep key = true) (raw : Filters) :
    get (raw.filter fun f => keep f.1) key = get raw key := by
  rw [get, get, lookup_filter h]

/-! ## 2. Plans -/

/-- Plans of the same conditions and order, and of the same school criteria as a mapping. -/
structure Plan.Agrees (p q : Plan) : Prop where
  terms : p.terms = q.terms
  order : p.order = q.order
  isLookup : p.isLookup = q.isLookup
  schools : p.schools.Perm q.schools
  hasSchools : p.hasSchools = q.hasSchools
  overfetch : p.overfetch = q.overfetch
  mapping : IsMapping p.schools

theorem mem_schoolCriteria_iff {raw : Filters} {f : String × Value} :
    f ∈ schoolCriteria raw ↔ f ∈ raw ∧ namesSchool f.1 = true ∧ f.2.isBlank = false := by
  rw [schoolCriteria, List.mem_filter, Bool.and_eq_true, Bool.not_eq_true']

theorem schoolCriteria_perm {raw raw' : Filters} (hperm : raw.Perm raw') :
    (schoolCriteria raw).Perm (schoolCriteria raw') :=
  hperm.filter _

/-- Filters that are no school criteria do not matter to them. -/
theorem schoolCriteria_filter {keep : String → Bool}
    (h : ∀ key, namesSchool key = true → keep key = true) (raw : Filters) :
    schoolCriteria (raw.filter fun f => keep f.1) = schoolCriteria raw := by
  rw [schoolCriteria, schoolCriteria, List.filter_filter]
  refine List.filter_congr fun (key, v) _ => ?_
  cases hschool : namesSchool key with
  | false => simp only [hschool, Bool.false_and]
  | true => simp only [hschool, h key hschool, Bool.and_true]

theorem schoolCriteria_isMapping {raw : Filters} (h : IsMapping raw) :
    IsMapping (schoolCriteria raw) :=
  List.Nodup.sublist (List.filter_sublist.map Prod.fst) h

/-- Outcomes of compiling that are the same error, or plans that agree. -/
inductive SamePlan : Except Error Plan → Except Error Plan → Prop
  | error (e : Error) : SamePlan (.error e) (.error e)
  | plan {p q : Plan} (h : p.Agrees q) : SamePlan (.ok p) (.ok q)

/-- **The plan of a search does not depend on the order of the filters.** -/
theorem compile_perm (room : Room) {raw raw' : Filters} (h : IsMapping raw)
    (hperm : raw.Perm raw') : SamePlan (compile room raw) (compile room raw') := by
  have hreads : ReadsAlike room raw raw' :=
    readsAlike_of_get fun key _ => by rw [get_perm h hperm]
  rcases hreads.outcomes with ⟨e, he, he'⟩ | ⟨p, q, hp, hq, hsame, hschools, hschools'⟩
  · rw [he, he']
    exact .error e
  · obtain ⟨hterms, horder, hlookup⟩ := Plan.bare_eq_iff.1 hsame
    have hcriteria : p.schools.Perm q.schools := by
      rw [hschools, hschools']
      split
      · exact .refl []
      · exact schoolCriteria_perm hperm
    have hhas : p.hasSchools = q.hasSchools := by
      rw [hasSchools_of_compile hp, hasSchools_of_compile hq, hcriteria.isEmpty_eq]
    have hoverfetch : p.overfetch = q.overfetch := by
      rw [overfetch_of_compile hp, overfetch_of_compile hq, hhas]
    rw [hp, hq]
    refine .plan ⟨hterms, horder, hlookup, hcriteria, hhas, hoverfetch, ?_⟩
    rw [hschools]
    split
    · exact List.nodup_nil
    · exact schoolCriteria_isMapping h

end Realty.Filter
