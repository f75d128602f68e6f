/-
# The leaves of a plan

* `isSolid_of_compile`: the condition of a plan is solid, so that no constant takes the place of a
  part of it.
* `raws_sublist`: at most one rectangle and at most one polygon bring text of their own.
* `givenNames_nodup`: so no placeholder of theirs is named twice.
-/
import Realty.Proofs.Filter.Terms
import Realty.Proofs.Sql.Leaves
import Mathlib.Data.List.Flatten
import Mathlib.Data.List.Nodup

namespace Realty.Filter

open Sql (givenNames isSolid leaves raws rawsOfAll)

/-! ## 1. Plans are solid -/

/-- Whether the condition of a rule is solid, whatever value it was given. -/
def Rule.isSolid : Rule → Bool
  | .equalsAny cs => !cs.isEmpty
  | .whenSet p => Sql.isSolid p
  | _ => true

theorem facets_isSolid : ∀ f ∈ lookupFacets ++ facets, f.rule.isSolid = true := by decide

theorem Rule.isSolid_condition {r : Rule} {v : Value} {t : Predicate} (hr : r.isSolid = true)
    (ht : r.condition v = some t) : Sql.isSolid t = true := by
  cases r with
  | oneOf c =>
    rw [oneOfCondition_eq_some ht]
    rfl
  | oneOfOrEqual c =>
    rw [Rule.condition] at ht
    split at ht
    · cases ht
      rfl
    · rw [oneOfCondition_eq_some ht]
      rfl
  | equals c =>
    obtain ⟨s, -, rfl⟩ := Option.map_eq_some_iff.1 ht
    rfl
  | equalsAny cs =>
    obtain ⟨s, -, rfl⟩ := Option.map_eq_some_iff.1 ht
    rw [Sql.isSolid, List.isEmpty_map, Bool.and_eq_true]
    refine ⟨hr, Sql.areSolid_iff.2 fun p hp => ?_⟩
    obtain ⟨c, -, rfl⟩ := List.mem_map.1 hp
    rfl
  | contains c =>
    obtain ⟨s, -, rfl⟩ := Option.map_eq_some_iff.1 ht
    rfl
  | atLeast c =>
    obtain ⟨amount, hamount, rfl⟩ := Option.map_eq_some_iff.1 ht
    obtain ⟨n, rfl⟩ := whole?_eq_some hamount
    rfl
  | atMost c =>
    obtain ⟨amount, hamount, rfl⟩ := Option.map_eq_some_iff.1 ht
    obtain ⟨n, rfl⟩ := whole?_eq_some hamount
    rfl
  | lotAtLeast c =>
    obtain ⟨x, -, rfl⟩ := Option.map_eq_some_iff.1 ht
    rfl
  | lotAtMost c =>
    obtain ⟨x, -, rfl⟩ := Option.map_eq_some_iff.1 ht
    rfl
  | listedWithin c =>
    obtain ⟨days, -, rfl⟩ := Option.map_eq_some_iff.1 ht
    rfl
  | whenSet p =>
    rw [Rule.condition] at ht
    split at ht
    · cases ht
      exact hr
    · cases ht

/-- Some category is always asked for. -/
theorem categories_ne_nil (v : Value) : Status.categories v ≠ [] := by
  unfold Status.categories
  split
  · exact List.cons_ne_nil _ _
  · next hne => exact hne

theorem isSolid_status (v : Value) : isSolid (Status.condition v) = true := by
  have hsolid : ∀ p ∈ (Status.categories v).map Status.Category.condition, isSolid p = true := by
    intro p hp
    obtain ⟨c, -, rfl⟩ := List.mem_map.1 hp
    cases c <;> rfl
  have hne : (Status.categories v).map Status.Category.condition ≠ [] := by
    simpa using categories_ne_nil v
  unfold Status.condition
  split
  · next p hone =>
    rw [hone] at hsolid
    exact hsolid p (List.mem_singleton_self p)
  · rw [isSolid, Sql.areSolid_iff.2 hsolid, Bool.and_true, Bool.not_eq_true',
      List.isEmpty_eq_false_iff]
    exact hne

theorem IsArea.isSolid {t : Predicate} (h : IsArea t) : Sql.isSolid t = true := by
  cases h <;> rfl

variable {room : Room} {raw : Filters} {p : Plan}

theorem isSolid_conditions {fs : List Facet} (hfs : fs ⊆ lookupFacets ++ facets) :
    ∀ t ∈ conditions raw fs, isSolid t = true := by
  intro t ht
  obtain ⟨f, hf, hcondition⟩ := mem_conditions.1 ht
  exact Rule.isSolid_condition (facets_isSolid f (hfs hf)) hcondition

/-- **The condition of a plan is solid**: whatever is asked for, no constant takes its place. -/
theorem isSolid_of_compile (hp : compile room raw = .ok p) : isSolid p.condition = true := by
  suffices hterms : p.terms ≠ [] ∧ ∀ t ∈ p.terms, isSolid t = true by
    rw [Plan.condition, isSolid, Sql.areSolid_iff.2 hterms.2, Bool.and_true, Bool.not_eq_true',
      List.isEmpty_eq_false_iff]
    exact hterms.1
  rcases compile_terms hp with ⟨hterms, hne⟩ | ⟨-, areas, hareas, hterms⟩
  · rw [hterms]
    exact ⟨hne, isSolid_conditions (List.subset_append_left _ _)⟩
  · rw [hterms]
    refine ⟨List.cons_ne_nil _ _, List.forall_mem_append.2 ⟨?_, fun t ht => (hareas t ht).isSolid⟩⟩
    exact List.forall_mem_cons.2
      ⟨isSolid_status _, isSolid_conditions (List.subset_append_right _ _)⟩

/-! ## 2. The areas of a plan -/

theorem rawsOfAll_eq_flatMap (ts : List Predicate) : rawsOfAll ts = ts.flatMap raws := by
  induction ts with
  | nil => rfl
  | cons t ts ih => rw [rawsOfAll, ih, List.flatMap_cons]

theorem rawsOfAll_areas {ts : List Predicate} (h : ∀ t ∈ ts, IsArea t) : rawsOfAll ts = ts := by
  induction ts with
  | nil => rfl
  | cons t ts ih =>
    obtain ⟨ht, hts⟩ := List.forall_mem_cons.1 h
    rw [rawsOfAll, ht.raws, ih hts, List.singleton_append]

theorem raws_of_mem_conditions {fs : List Facet} (hfs : fs ⊆ lookupFacets ++ facets) :
    ∀ t ∈ conditions raw fs, raws t = [] := by
  intro t ht
  obtain ⟨f, hf, hcondition⟩ := mem_conditions.1 ht
  rcases condition_cases (facets_isSound f (hfs hf)) hcondition with
    hplain | ⟨c, days, -, -, rfl, -⟩
  · exact hplain.raws
  · rfl

theorem bounds_sublist {v : Value} {ts : List Predicate} (h : Area.boundsCondition v = .ok ts) :
    ∃ b, ts.Sublist [Geo.inEnvelope Geo.placeColumn b] := by
  unfold Area.boundsCondition at h
  split at h
  · cases h
    exact ⟨⟨0, 0, 0, 0⟩, List.nil_sublist _⟩
  · split at h
    · cases h
      exact ⟨_, List.Sublist.refl _⟩
    · cases h

theorem polygon_sublist {v : Value} {ts : List Predicate}
    (h : Area.polygonCondition room v = .ok ts) :
    ∃ ring, ts.Sublist [Geo.inPolygon Geo.placeColumn ring] := by
  unfold Area.polygonCondition at h
  split at h
  · cases h
    exact ⟨[], List.nil_sublist _⟩
  · obtain ⟨ring, -, rfl⟩ := map_eq_ok_iff.1 h
    exact ⟨ring, List.Sublist.refl _⟩

/-- **At most one rectangle and one polygon bring text of their own.** -/
theorem raws_sublist (hp : compile room raw = .ok p) : ∃ b ring, (raws p.condition).Sublist
    [Geo.inEnvelope Geo.placeColumn b, Geo.inPolygon Geo.placeColumn ring] := by
  by_cases hlookup : lookupConditions raw = []
  · obtain ⟨-, bounds, polygon, hbounds, hpolygon, rfl⟩ := (compile_eq_ok_iff hlookup).1 hp
    have hfacets : rawsOfAll (facetConditions raw) = [] := by
      rw [rawsOfAll_eq_flatMap, List.flatMap_eq_nil_iff]
      exact List.forall_mem_cons.2
        ⟨(isPlain_status _).raws, raws_of_mem_conditions (List.subset_append_right _ _)⟩
    have hareas : rawsOfAll (bounds ++ polygon) = bounds ++ polygon :=
      rawsOfAll_areas (List.forall_mem_append.2
        ⟨isArea_of_bounds hbounds, isArea_of_polygon hpolygon⟩)
    obtain ⟨b, hb⟩ := bounds_sublist hbounds
    obtain ⟨ring, hring⟩ := polygon_sublist hpolygon
    refine ⟨b, ring, ?_⟩
    rw [Plan.condition, raws, facetPlan, rawsOfAll_eq_flatMap, List.flatMap_append,
      ← rawsOfAll_eq_flatMap, ← rawsOfAll_eq_flatMap, hfacets, hareas, List.nil_append]
    exact hb.append hring
  · rw [compile_of_lookup hlookup] at hp
    cases hp
    have hnone : rawsOfAll (lookupConditions raw) = [] := by
      rw [rawsOfAll_eq_flatMap, List.flatMap_eq_nil_iff]
      exact raws_of_mem_conditions (List.subset_append_left _ _)
    refine ⟨⟨0, 0, 0, 0⟩, [], ?_⟩
    rw [Plan.condition, identifyingPlan, raws, hnone]
    exact List.nil_sublist _

/-! ## 3. Names -/

theorem givenNames_envelope (b : Geo.Bounds Float) :
    givenNames (Geo.inEnvelope Geo.placeColumn b) =
      ["bounds_min_lng", "bounds_min_lat", "bounds_max_lng", "bounds_max_lat"] := by
  show Sql.Template.names _ = _
  decide +kernel

theorem givenNames_polygon (ring : List (Geo.Point Float)) :
    givenNames (Geo.inPolygon Geo.placeColumn ring) = ["polygon_wkt"] := by
  show Sql.Template.names _ = _
  decide +kernel

/-- Only the caller's texts give names. -/
theorem flatMap_givenNames (ts : List Predicate) :
    (ts.filter Sql.isRaw).flatMap givenNames = ts.flatMap givenNames := by
  induction ts with
  | nil => rfl
  | cons t ts ih =>
    cases t with
    | raw sql params =>
      rw [List.filter_cons_of_pos rfl, List.flatMap_cons, List.flatMap_cons, ih]
    | _ => exact ih

/-- **The names that a plan gives are distinct.** -/
theorem givenNames_nodup (hp : compile room raw = .ok p) :
    ((leaves p.condition).flatMap givenNames).Nodup := by
  obtain ⟨b, ring, hraws⟩ := raws_sublist hp
  rw [← flatMap_givenNames, ← Sql.raws_eq_filter]
  refine (hraws.flatMap givenNames).nodup ?_
  rw [List.flatMap_cons, List.flatMap_cons, givenNames_envelope, givenNames_polygon]
  decide

/-- The texts of a plan bind their placeholders in order. -/
theorem isBoundInOrder_of_compile (hp : compile room raw = .ok p) {sql : String}
    {params : List (String × Value)} (h : .raw sql params ∈ leaves p.condition) :
    Sql.IsBoundInOrder sql params := by
  have hmem : .raw sql params ∈ raws p.condition := by
    rw [Sql.raws_eq_filter]
    exact List.mem_filter.2 ⟨h, rfl⟩
  obtain ⟨sql', params', heq, hbinds⟩ := (compile_raws hp _ hmem).eq_raw
  cases heq
  have hnodup : (Sql.Template.names sql).Nodup := (List.nodup_flatMap.1 (givenNames_nodup hp)).1 _ h
  exact ⟨hbinds.names, hbinds.names ▸ hnodup⟩

end Realty.Filter
