/-
# Direct lookups

A listing that is named by its number or its address is looked up, and no other filter is read.

* `Identity` is what the filters name a listing by, and `lookupConditions_eq` the conditions that
  it gives, one on each column.
* `compile_of_isGiven`: filters that name a listing always compile.
* `lookup_suppresses`: so filters that name one alike compile to one plan, whatever else they hold,
  and the plan has no condition but those.
-/
import Realty.Filter.Compile

namespace Realty.Filter

variable {room : Room} {raw raw' : Filters}

/-! ## 1. What names a listing -/

/-- What filters name a listing by. -/
structure Identity where
  number : Option String
  address : Option String
deriving DecidableEq

/-- Whether there is a number or an address. -/
def Identity.IsGiven (i : Identity) : Prop := i.number.isSome ∨ i.address.isSome

instance (i : Identity) : Decidable i.IsGiven :=
  inferInstanceAs (Decidable (i.number.isSome ∨ i.address.isSome))

/-- The conditions on the number and the address of a listing. -/
def Identity.conditions (i : Identity) : List Predicate :=
  (i.number.map fun s => Predicate.equals "listing_id" (.str s)).toList ++
    (i.address.map fun s => Predicate.like "unparsed_address" s).toList

theorem Identity.conditions_ne_nil_iff (i : Identity) : i.conditions ≠ [] ↔ i.IsGiven := by
  obtain ⟨number, address⟩ := i
  cases number <;> cases address <;> simp [conditions, IsGiven]

/-- What the filters name a listing by. -/
def identity (raw : Filters) : Identity :=
  ⟨(get raw "mls_number").label?, (get raw "address").label?⟩

/-- **The number and the address are read, and nothing else.** -/
theorem lookupConditions_eq (raw : Filters) : lookupConditions raw = (identity raw).conditions := by
  simp only [lookupConditions, conditions, lookupFacets, List.filterMap_cons, List.filterMap_nil,
    Rule.condition, identity, Identity.conditions]
  cases (get raw "mls_number").label? <;> cases (get raw "address").label? <;> rfl

/-! ## 2. Plans -/

/-- The plan of a lookup. -/
def lookupPlan (i : Identity) (order : ResultOrder) : Plan where
  terms := i.conditions
  order := order
  isLookup := true

/-- **Filters that name a listing always compile**, to a plan that looks it up. -/
theorem compile_of_isGiven (h : (identity raw).IsGiven) :
    compile room raw = .ok (lookupPlan (identity raw) (.ofFilter (get raw "sort"))) := by
  have hne := (identity raw).conditions_ne_nil_iff.2 h
  rw [← lookupConditions_eq] at hne
  rw [compile_of_lookup hne, identifyingPlan, lookupConditions_eq, lookupPlan]

theorem notes_of_isGiven (h : (identity raw).IsGiven) : notes room raw = [.directLookup] := by
  rw [notes, compile_of_isGiven h]
  rfl

/-- **A lookup leaves all other filters aside.**  Filters that agree on what names a listing and on
the order compile, both of them, to one plan.  It looks up a listing by its number and its address
alone: no status narrows it, no school criteria sift it, and nothing is noted about other
filters. -/
theorem lookup_suppresses (hnumber : get raw "mls_number" = get raw' "mls_number")
    (haddress : get raw "address" = get raw' "address") (hsort : get raw "sort" = get raw' "sort")
    (hgiven : (get raw "mls_number").label?.isSome ∨ (get raw "address").label?.isSome) :
    ∃ plan, compile room raw = .ok plan ∧ compile room raw' = .ok plan ∧ plan.isLookup = true ∧
      plan.terms =
        ((get raw "mls_number").label?.map fun s =>
            Predicate.equals "listing_id" (.str s)).toList ++
          ((get raw "address").label?.map fun s =>
            Predicate.like "unparsed_address" s).toList ∧
      plan.terms ≠ [] ∧ plan.order = .ofFilter (get raw "sort") ∧ plan.schools = [] ∧
      plan.hasSchools = false ∧ plan.overfetch = 1 ∧ notes room raw = [.directLookup] ∧
      notes room raw' = [.directLookup] := by
  have hidentity : identity raw' = identity raw := by
    rw [identity, identity, hnumber, haddress]
  have hgiven' : (identity raw').IsGiven := hidentity ▸ hgiven
  have hraw' : compile room raw' = _ := compile_of_isGiven hgiven'
  rw [hidentity, ← hsort] at hraw'
  exact ⟨lookupPlan (identity raw) (.ofFilter (get raw "sort")), compile_of_isGiven hgiven, hraw',
    rfl, rfl, (identity raw).conditions_ne_nil_iff.2 hgiven, rfl, rfl, rfl, rfl,
    notes_of_isGiven hgiven, notes_of_isGiven hgiven'⟩

/-- A listing number among filters that are rejected, or unreadable, without it. -/
def malformedLookup : Filters :=
  [("status", .str "sold"), ("mls_number", .int 73000001), ("bounds", .str "north"),
    ("polygon", .str "[[1,2],"), ("beds", .str "many"), ("sort", .str "price_asc"),
    ("school_district", .str "Newton")]

/-- The same number on its own. -/
def bareLookup : Filters :=
  [("address", .null), ("sort", .str "price_asc"), ("mls_number", .int 73000001)]

theorem lookup_suppresses_malformedLookup :
    (get malformedLookup "mls_number").label?.isSome ∧
      ∃ plan, compile .standard malformedLookup = .ok plan ∧
        compile .standard bareLookup = .ok plan ∧
        plan.isLookup = true ∧ plan.terms = [.equals "listing_id" (.str "73000001")] ∧
        plan.order = ⟨"list_price", .ascending⟩ ∧ plan.overfetch = 1 := by
  have hgiven : (get malformedLookup "mls_number").label?.isSome := rfl
  obtain ⟨plan, hplan, hbare, hlookup, hterms, -, horder, -, -, hoverfetch, -⟩ :=
    @lookup_suppresses .standard malformedLookup bareLookup rfl rfl rfl (Or.inl hgiven)
  have hnumber : Text.intText 73000001 = "73000001" := by decide +kernel
  have hprice : ResultOrder.ofFilter (get malformedLookup "sort") = ⟨"list_price", .ascending⟩ := by
    decide +kernel
  refine ⟨hgiven, plan, hplan, hbare, hlookup, hterms.trans ?_, horder.trans hprice, hoverfetch⟩
  rw [← hnumber]
  rfl

end Realty.Filter
