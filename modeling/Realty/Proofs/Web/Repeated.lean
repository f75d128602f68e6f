/-
# Repeated parameters

A query may give a parameter several times.  Nothing that it gives is lost, and where a filter lists
choices it does not matter whether they are given one by one or with commas between them.

* `keepsParameters_filters`: the filters of a query have the values of each name, in order.
* `listsAlike_gather`: values that are given one by one list the same as one text that joins them.
* `compile_repeated`: so both ways of giving them compile alike, wherever they stand in the query.
-/
import Realty.Proofs.Filter.Written
import Realty.Proofs.Text.Parts
import Realty.Proofs.Value.Choices
import Realty.Web.Query

namespace Realty.Web.Query

open Realty.Filter (IsMapping ReadsAlike Rule schoolCriteria)

variable {room : Room} {params params' : List (String × String)} {name key : String}

/-! ## 1. The filters of a query -/

/-- The names that filters have, in the order in which they first occur. -/
def names (params : List (String × String)) : List String :=
  (distinct (params.map Prod.fst)).filter fun name => !pagingNames.contains name

theorem filters_eq (params : List (String × String)) :
    filters params = (names params).map fun name => (name, gather (values params name)) := (rfl)

theorem mem_names_iff : name ∈ names params ↔ values params name ≠ [] ∧ name ∉ pagingNames := by
  have hgiven : name ∈ params.map Prod.fst ↔ values params name ≠ [] := by
    simp [values]
  rw [names, List.mem_filter, mem_distinct, hgiven, Bool.not_eq_true', ← Bool.not_eq_true,
    List.contains_iff_mem]

/-- Filters that have what a query gives. -/
structure KeepsParameters (params : List (String × String)) (raw : Filters) : Prop where
  mapping : IsMapping raw
  paging : ∀ name ∈ pagingNames, raw.lookup name = none
  /-- The values of every other name are there, each once, in the order of the query. -/
  kept : ∀ name ∉ pagingNames, raw.lookup name =
    match values params name with
    | [] => none
    | [s] => some (.str s)
    | ss => some (.list (ss.map .str))

/-- **The filters of a query have all that it gives**, the parameters of paging apart. -/
theorem keepsParameters_filters (params : List (String × String)) :
    KeepsParameters params (filters params) where
  mapping := by
    have hkeys : (filters params).map Prod.fst = names params := by
      rw [filters_eq, List.map_map]
      exact List.map_id'' (fun _ => rfl) _
    rw [IsMapping, hkeys]
    exact (nodup_distinct _).filter _
  paging name hname := by
    rw [filters_eq, lookup_tabulated, if_neg]
    exact fun hmem => (mem_names_iff.1 hmem).2 hname
  kept name hname := by
    rw [filters_eq, lookup_tabulated]
    cases hvalues : values params name with
    | nil => rw [if_neg fun hmem => (mem_names_iff.1 hmem).1 hvalues]
    | cons s ss =>
      have hmem : name ∈ names params :=
        mem_names_iff.2 ⟨hvalues ▸ List.cons_ne_nil s ss, hname⟩
      rw [if_pos hmem]
      cases ss <;> rfl

/-- A filter is what is gathered from the values of its name. -/
theorem get_filters (hname : name ∉ pagingNames) (hvalues : values params name ≠ []) :
    Filter.get (filters params) name = gather (values params name) := by
  rw [Filter.get, filters_eq, lookup_tabulated, if_pos (mem_names_iff.2 ⟨hvalues, hname⟩)]
  rfl

theorem values_filter {keep : String → Bool} (h : keep name = true)
    (params : List (String × String)) :
    values (params.filter fun q => keep q.1) name = values params name := by
  rw [values, values, List.filter_filter]
  refine congrArg _ (List.filter_congr fun q _ => ?_)
  cases hq : q.1 == name with
  | false => rfl
  | true => rw [eq_of_beq hq, h, Bool.and_self]

theorem names_filter (keep : String → Bool) (params : List (String × String)) :
    (names params).filter keep = names (params.filter fun q => keep q.1) := by
  have hgiven : (params.filter fun q => keep q.1).map Prod.fst =
      (params.map Prod.fst).filter keep := List.filter_map.symm
  rw [names, names, hgiven, ← filter_distinct, List.filter_comm]

/-- **The filters of some names are those of the parameters of these names.** -/
theorem filters_filter (keep : String → Bool) (params : List (String × String)) :
    ((filters params).filter fun f => keep f.1) = filters (params.filter fun q => keep q.1) := by
  rw [filters_eq, filters_eq, List.filter_map, ← names_filter]
  refine List.map_congr_left fun name hname => ?_
  have hkeep : keep name = true := (List.mem_filter.1 hname).2
  rw [values_filter hkeep]

/-! ## 2. Choices one by one, or in one text -/

/-- Two values that list the same, whatever they are read as. -/
structure ListsAlike (v w : Value) : Prop where
  choices : v.choices = w.choices
  status : Status.condition v = Status.condition w
  bounds : Filter.Area.boundsCondition v = Filter.Area.boundsCondition w
  /-- There is room for the texts of both, or for those of neither. -/
  choiceTexts : ∀ (room : Room) (key : String),
    room.holds key v.givenItems = room.holds key w.givenItems
  statusTexts : ∀ (room : Room) (key : String),
    room.holds key (Status.listed v) = room.holds key (Status.listed w)

theorem ListsAlike.refl (v : Value) : ListsAlike v v :=
  ⟨rfl, rfl, rfl, fun _ _ => rfl, fun _ _ => rfl⟩

theorem ListsAlike.condition_eq {v w : Value} (h : ListsAlike v w) {r : Rule}
    (hr : r.readsChoices = true) : r.condition v = r.condition w := by
  cases r with
  | oneOf c => rw [Rule.condition, Rule.condition, h.choices]
  | oneOfOrEqual c => rw [Rule.condition, Rule.condition, h.choices]
  | _ => cases hr

/-- The strings of a list hold no other values. -/
theorem flat_givenItems (ss : List String) :
    ∀ v ∈ (Value.list (ss.map .str)).givenItems, v.depth = 0 := by
  intro v hv
  obtain ⟨s, -, rfl⟩ := List.mem_map.1 (List.mem_filter.1 hv).1
  rfl

/-- A list of strings lists the same as a text with these parts, which is not empty. -/
theorem listsAlike_parts {ss : List String} {joined : String} (hparts : Text.parts ',' joined = ss)
    (hlength : 2 ≤ ss.length) : ListsAlike (.list (ss.map .str)) (.str joined) where
  choices := by
    have hitems : (Value.list (ss.map .str)).rawChoices = ss := Value.itemTexts_strings ss
    rw [Value.choices, Value.choices, hitems, Value.rawChoices, hparts]
  status := by
    have hlabels : Status.askedLabels (.list (ss.map .str)) =
        Status.askedLabels (.str joined) := by
      have htexts := congrArg (List.map Status.normalize) (Value.itemTexts_strings ss)
      rw [Value.itemTexts, List.map_map] at htexts
      have hlabel : Status.askedLabels (.str joined) =
          (Text.parts ',' joined).map Status.normalize := rfl
      rw [hlabel, hparts, Status.askedLabels]
      exact htexts
    rw [Status.condition, Status.condition, Status.categories, Status.categories, hlabels]
  bounds := by
    have hlist : (Value.list (ss.map .str)).isBlank = false := by
      cases ss with
      | nil => cases hlength
      | cons s ss => rfl
    have htext : (Value.str joined).isBlank = false := by
      rw [Value.isBlank, Bool.eq_false_iff, ne_eq, String.isEmpty_iff]
      rintro rfl
      rw [← hparts] at hlength
      cases hlength with
      | step h => cases h
    have hbounds : Filter.Area.bounds (.list (ss.map .str)) = Filter.Area.bounds (.str joined) := by
      rw [Filter.Area.bounds, Filter.Area.boundsParts, Filter.Area.bounds,
        Filter.Area.boundsParts, hparts]
    rw [Filter.Area.boundsCondition, Filter.Area.boundsCondition, hlist, htext, hbounds]
  choiceTexts room key := Room.holds_flat (flat_givenItems ss)
  statusTexts room key := by
    have htext : ∀ v ∈ Status.listed (.str joined), v.depth = 0 :=
      fun v hv => by rw [List.mem_singleton.1 hv]; rfl
    exact (Room.holds_flat (flat_givenItems ss)).trans (Room.holds_flat htext).symm

/-- **Values that are given one by one list the same as one text that joins them.** -/
theorem listsAlike_gather {given : List String} (hne : given ≠ [])
    (hcomma : ∀ s ∈ given, ',' ∉ s.toList) :
    ListsAlike (gather given) (.str (Text.joined "," given)) := by
  have hparts : Text.parts ',' (Text.joined "," given) = given :=
    Text.parts_joined rfl hne hcomma
  match given, hne with
  | [s], _ =>
    rw [Text.joined, String.intercalate_singleton]
    exact .refl _
  | s :: t :: rest, _ => exact listsAlike_parts hparts (Nat.le_add_left 2 rest.length)

/-! ## 3. Repeated parameters -/

/-- The parameters that list choices. -/
def listNames : List String := ["city", "zip", "property_sub_type", "status", "bounds"]

/-- **Filters compile alike that list the same under one of these names**, and have the same fields
under all others. -/
theorem compile_of_listsAlike {raw raw' : Filters} (hkey : key ∈ listNames)
    (halike : ListsAlike (Filter.get raw key) (Filter.get raw' key))
    (hothers : (raw.filter fun f => f.1 != key) = raw'.filter fun f => f.1 != key) :
    Filter.compile room raw = Filter.compile room raw' := by
  have hget : ∀ name, name ≠ key → Filter.get raw name = Filter.get raw' name := by
    intro name hname
    have hkeep : (name != key) = true := bne_iff_ne.2 hname
    rw [← Filter.get_filter (· != key) hkeep raw, hothers,
      Filter.get_filter (· != key) hkeep raw']
  have hall : ∀ name, ListsAlike (Filter.get raw name) (Filter.get raw' name) := by
    intro name
    by_cases hname : name = key
    · exact hname ▸ halike
    · exact hget name hname ▸ .refl _
  -- the facets under these names read choices, and nothing else
  have hchoices : ∀ f ∈ Filter.lookupFacets ++ Filter.facets, f.key ∈ listNames →
      f.rule.readsChoices = true := by decide
  have hreads : ReadsAlike room raw raw' := {
    facets := fun f hf => by
      by_cases hname : f.key = key
      · exact (hall f.key).condition_eq (hchoices f hf (hname ▸ hkey))
      · rw [hget f.key hname]
    facetTexts := fun f hf => by
      rw [Filter.Facet.fits, Filter.Facet.fits]
      by_cases hname : f.key = key
      · have hreads := hchoices f (List.mem_append_right _ hf) (hname ▸ hkey)
        rw [Rule.listed_of_readsChoices hreads, Rule.listed_of_readsChoices hreads]
        exact (hall f.key).choiceTexts room f.key
      · rw [hget f.key hname]
    status := (hall "status").status
    statusTexts := (hall "status").statusTexts room "status"
    sort := by rw [hget "sort" (ne_of_mem_of_not_mem hkey (by decide)).symm]
    bounds := (hall "bounds").bounds
    polygon := by rw [hget "polygon" (ne_of_mem_of_not_mem hkey (by decide)).symm] }
  have hschool : ∀ name ∈ listNames, Filter.namesSchool name = false := by decide
  have hkeep : ∀ name, Filter.namesSchool name = true → (name != key) = true := by
    intro name hname
    rw [bne_iff_ne]
    rintro rfl
    rw [hschool name hkey] at hname
    cases hname
  have hschools : schoolCriteria raw = schoolCriteria raw' := by
    rw [← Filter.schoolCriteria_filter hkeep raw, hothers, Filter.schoolCriteria_filter hkeep raw']
  exact Filter.compile_eq_of_readsAlike hreads hschools

/-- **It does not matter whether choices are repeated parameters or one with commas.**  Two queries
that give them so, and the same parameters of other names in the same order, have one outcome: equal
plans, or the same error.  The filters of every query have all that it gives, paging apart. -/
theorem compile_repeated (hkey : key ∈ listNames) {given : List String} (hne : given ≠ [])
    (hcomma : ∀ s ∈ given, ',' ∉ s.toList) (hrepeated : values params key = given)
    (hjoined : values params' key = [Text.joined "," given])
    (hothers : (params.filter fun q => q.1 != key) = params'.filter fun q => q.1 != key) :
    Filter.compile room (filters params) = Filter.compile room (filters params') ∧
      ∀ query, KeepsParameters query (filters query) := by
  refine ⟨compile_of_listsAlike hkey ?_ ?_, keepsParameters_filters⟩
  · have hpaging : key ∉ pagingNames := by
      have hnone : ∀ name ∈ listNames, name ∉ pagingNames := by decide
      exact hnone key hkey
    rw [get_filters hpaging (hrepeated ▸ hne), hrepeated,
      get_filters hpaging (hjoined ▸ List.cons_ne_nil _ _), hjoined]
    exact listsAlike_gather hne hcomma
  · rw [filters_filter (· != key), hothers, filters_filter (· != key)]

/-- The sides of a rectangle one by one, among other parameters. -/
def sidesApart : List (String × String) :=
  [("bounds", "42"), ("school_grade", "8"), ("bounds", " -72"), ("page", "2"), ("bounds", "43"),
    ("beds", "3"), ("bounds", "-71")]

/-- The same sides in one text. -/
def sidesTogether : List (String × String) :=
  [("school_grade", "8"), ("page", "2"), ("beds", "3"), ("bounds", "42, -72,43,-71")]

theorem compile_repeated_sides :
    "bounds" ∈ listNames ∧ values sidesApart "bounds" = ["42", " -72", "43", "-71"] ∧
      values sidesTogether "bounds" = [Text.joined "," ["42", " -72", "43", "-71"]] ∧
      Filter.compile .standard (filters sidesApart) =
        Filter.compile .standard (filters sidesTogether) ∧
      ((Filter.compile .standard (filters sidesApart)).toOption.map fun p =>
        (p.terms.length, p.schools)) = some (3, [("school_grade", .str "8")]) ∧
      KeepsParameters sidesApart (filters sidesApart) := by
  have hcomma : ∀ s ∈ ["42", " -72", "43", "-71"], ',' ∉ s.toList := by decide
  obtain ⟨hcompile, hkeeps⟩ := @compile_repeated .standard sidesApart sidesTogether "bounds"
    (by decide) ["42", " -72", "43", "-71"] (by decide) hcomma (by decide) (by decide +kernel)
    (by decide)
  exact ⟨by decide, by decide, by decide +kernel, hcompile, rfl, hkeeps sidesApart⟩

end Realty.Web.Query
