/-
# What a plan is read from

A plan is made of one reading of each filter, and of the school criteria, which are not read.

* `ReadsAlike`: mappings whose filters are read alike, school criteria apart.
* `compile_bare`: they compile to plans that differ in their school criteria only, or fail alike.
* `compile_eq_of_readsAlike`: so mappings that are read alike and have the same criteria have one
  plan.
-/
import Mathlib.Data.List.Basic
import Realty.Filter.Compile

namespace Realty.Filter

variable {room : Room} {raw raw' : Filters}

/-! ## 1. Readings -/

/-- Filters that are read alike, school criteria apart. -/
structure ReadsAlike (room : Room) (raw raw' : Filters) : Prop where
  facets : ∀ f ∈ lookupFacets ++ facets,
    f.rule.condition (get raw f.key) = f.rule.condition (get raw' f.key)
  /-- There is room for the texts of a facet in both, or in neither. -/
  facetTexts : ∀ f ∈ Filter.facets, f.fits room raw = f.fits room raw'
  status : Status.condition (get raw "status") = Status.condition (get raw' "status")
  statusTexts : statusFits room raw = statusFits room raw'
  sort : ResultOrder.ofFilter (get raw "sort") = .ofFilter (get raw' "sort")
  bounds : Area.boundsCondition (get raw "bounds") = Area.boundsCondition (get raw' "bounds")
  polygon : Area.polygonCondition room (get raw "polygon") =
    Area.polygonCondition room (get raw' "polygon")

/-- The keys that are read, school criteria apart. -/
def readKeys : List String :=
  "status" :: "sort" :: "bounds" :: "polygon" :: (lookupFacets ++ facets).map Facet.key

/-- Filters that agree on the keys that are read are read alike. -/
theorem readsAlike_of_get (h : ∀ key ∈ readKeys, get raw key = get raw' key) :
    ReadsAlike room raw raw' where
  facets f hf := by
    have hkey : f.key ∈ readKeys :=
      List.mem_append_right ["status", "sort", "bounds", "polygon"] (List.mem_map_of_mem hf)
    rw [h f.key hkey]
  facetTexts f hf := by
    have hkey : f.key ∈ readKeys :=
      List.mem_append_right ["status", "sort", "bounds", "polygon"]
        (List.mem_map_of_mem (List.mem_append_right lookupFacets hf))
    rw [Facet.fits, h f.key hkey, Facet.fits]
  status := by rw [h "status" (by decide)]
  statusTexts := by rw [statusFits, h "status" (by decide), statusFits]
  sort := by rw [h "sort" (by decide)]
  bounds := by rw [h "bounds" (by decide)]
  polygon := by rw [h "polygon" (by decide)]

/-! ## 2. Plans -/

/-- A plan without its school criteria. -/
def Plan.bare (p : Plan) : Plan := { p with schools := [], hasSchools := false, overfetch := 1 }

theorem Plan.bare_eq_iff {p q : Plan} :
    p.bare = q.bare ↔ p.terms = q.terms ∧ p.order = q.order ∧ p.isLookup = q.isLookup := by
  simp [bare]

/-- A search is rejected with its school criteria exactly when it is without them. -/
theorem map_bare_eq_error_iff {e : Error} :
    (compile room raw).map Plan.bare = .error e ↔ compile room raw = .error e := by
  cases compile room raw <;> simp [Except.map]

namespace ReadsAlike

variable (h : ReadsAlike room raw raw')
include h

theorem conditions_eq {fs : List Facet} (hfs : fs ⊆ lookupFacets ++ Filter.facets) :
    conditions raw fs = conditions raw' fs :=
  List.filterMap_congr fun f hf => h.facets f (hfs hf)

theorem lookupConditions_eq : lookupConditions raw = lookupConditions raw' :=
  h.conditions_eq (List.subset_append_left _ _)

theorem facetConditions_eq : facetConditions raw = facetConditions raw' := by
  rw [facetConditions, h.status, h.conditions_eq (List.subset_append_right _ _), facetConditions]

theorem areaConditions_eq : areaConditions room raw = areaConditions room raw' := by
  rw [areaConditions, h.bounds, h.polygon, areaConditions]

theorem textsFit_eq : textsFit room raw = textsFit room raw' := by
  have hfacets : Filter.facets.all (Facet.fits room raw) =
      Filter.facets.all (Facet.fits room raw') := by
    rw [Bool.eq_iff_iff, List.all_eq_true, List.all_eq_true]
    exact forall₂_congr fun f hf => by rw [h.facetTexts f hf]
  rw [textsFit, textsFit, h.statusTexts, hfacets]

/-- **Filters that are read alike compile to one plan, school criteria apart**, or fail alike. -/
theorem compile_bare : (compile room raw).map Plan.bare = (compile room raw').map Plan.bare := by
  have hlookup := h.lookupConditions_eq
  by_cases hnil : lookupConditions raw' = []
  · rw [compile_of_facets (hlookup.trans hnil), compile_of_facets hnil, compileFacets,
      compileFacets, h.textsFit_eq, h.areaConditions_eq]
    cases textsFit room raw' with
    | false => rfl
    | true =>
      cases areaConditions room raw' with
      | error e => rfl
      | ok areas =>
        refine congrArg Except.ok ?_
        simp only [facetPlan, Plan.bare, h.facetConditions_eq, h.sort]
  · rw [compile_of_lookup (hlookup ▸ hnil), compile_of_lookup hnil]
    refine congrArg Except.ok ?_
    simp only [identifyingPlan, Plan.bare, hlookup, h.sort]

end ReadsAlike

/-- **Filters that are read alike fail alike, or have plans** that differ in their school criteria
only, which a lookup leaves aside. -/
theorem ReadsAlike.outcomes (h : ReadsAlike room raw raw') :
    (∃ e, compile room raw = .error e ∧ compile room raw' = .error e) ∨
      ∃ p q, compile room raw = .ok p ∧ compile room raw' = .ok q ∧ p.bare = q.bare ∧
        p.schools = (if q.isLookup then [] else schoolCriteria raw) ∧
        q.schools = if q.isLookup then [] else schoolCriteria raw' := by
  have hbare := h.compile_bare
  cases hp : compile room raw with
  | error e =>
    rw [hp] at hbare
    exact .inl ⟨e, rfl, map_bare_eq_error_iff.1 hbare.symm⟩
  | ok p =>
    cases hq : compile room raw' with
    | error e =>
      rw [hp, hq] at hbare
      cases hbare
    | ok q =>
      rw [hp, hq] at hbare
      have hsame : p.bare = q.bare := Except.ok.inj hbare
      have hlookup : p.isLookup = q.isLookup := (Plan.bare_eq_iff.1 hsame).2.2
      exact .inr ⟨p, q, rfl, rfl, hsame, hlookup ▸ schools_of_compile hp, schools_of_compile hq⟩

/-- A plan with these school criteria, which a lookup leaves aside. -/
def Plan.withSchools (p : Plan) (schools : Filters) : Plan :=
  let schools := if p.isLookup then [] else schools
  let hasSchools := !schools.isEmpty
  { p with schools, hasSchools, overfetch := if hasSchools then schoolOverfetch else 1 }

/-- A plan is what it is without school criteria, and those that are given. -/
theorem compile_eq_withSchools (room : Room) (raw : Filters) :
    compile room raw =
      ((compile room raw).map Plan.bare).map (·.withSchools (schoolCriteria raw)) := by
  cases h : compile room raw with
  | error e => rfl
  | ok p =>
    have hplan : p.bare.withSchools (schoolCriteria raw) = p := by
      have hschools := schools_of_compile h
      have hoverfetch := overfetch_of_compile h
      rw [hasSchools_of_compile h] at hoverfetch
      rw [Plan.withSchools, show p.bare.isLookup = p.isLookup from rfl, ← hschools,
        ← hoverfetch, ← hasSchools_of_compile h]
      rfl
    rw [Except.map, Except.map, hplan]

/-- **Filters that are read alike and have the same school criteria compile alike.** -/
theorem compile_eq_of_readsAlike (h : ReadsAlike room raw raw')
    (hschools : schoolCriteria raw = schoolCriteria raw') :
    compile room raw = compile room raw' := by
  rw [compile_eq_withSchools room raw, h.compile_bare, hschools, ← compile_eq_withSchools]

end Realty.Filter
