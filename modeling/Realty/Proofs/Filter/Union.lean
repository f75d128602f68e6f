/-
# Filters compose independently

Filters that are given together compile to what they compile to apart.

* `IsMerge` is a list made of two others, each in its own order.
* `get_union`: of two mappings without a common key, one gives a key of their union and the other
  does not; a key that is not given gives no condition (`Rule.condition_null`).
* `compile_union`: so the union compiles when both parts do, and its plan is composed of theirs.
  `compile_onlyFilters`: keys that are no filter change no plan.
-/
import Realty.Proofs.Filter.Mapping

namespace Realty.Filter

/-! ## 1. Merging -/

/-- A list made of the items of two lists, those of each in their order. -/
inductive IsMerge {α : Type} : List α → List α → List α → Prop
  | nil : IsMerge [] [] []
  | left (x : α) {xs ys zs : List α} : IsMerge xs ys zs → IsMerge (x :: xs) ys (x :: zs)
  | right (y : α) {xs ys zs : List α} : IsMerge xs ys zs → IsMerge xs (y :: ys) (y :: zs)

namespace IsMerge

variable {α β : Type} {xs ys zs xs' ys' zs' : List α}

theorem of_left (xs : List α) : IsMerge xs [] xs := by
  induction xs with
  | nil => exact .nil
  | cons x xs ih => exact .left x ih

theorem of_right (ys : List α) : IsMerge [] ys ys := by
  induction ys with
  | nil => exact .nil
  | cons y ys ih => exact .right y ih

theorem append (h : IsMerge xs ys zs) (h' : IsMerge xs' ys' zs') :
    IsMerge (xs ++ xs') (ys ++ ys') (zs ++ zs') := by
  induction h with
  | nil => exact h'
  | left x _ ih => exact .left x ih
  | right y _ ih => exact .right y ih

theorem eq_nil (h : IsMerge [] [] zs) : zs = [] := by
  cases h
  rfl

theorem perm (h : IsMerge xs ys zs) : zs.Perm (xs ++ ys) := by
  induction h with
  | nil => exact .nil
  | left x _ ih => exact ih.cons x
  | right y _ ih => exact (ih.cons y).trans List.perm_middle.symm

/-- **What is picked by one of two choices, the other picking nothing, is a merge.** -/
theorem filterMap {f g h : β → Option α} {bs : List β}
    (hsplit : ∀ b, (f b = g b ∧ h b = none) ∨ (f b = h b ∧ g b = none)) :
    IsMerge (bs.filterMap g) (bs.filterMap h) (bs.filterMap f) := by
  induction bs with
  | nil => exact .nil
  | cons b bs ih =>
    rcases hsplit b with ⟨hfg, hh⟩ | ⟨hfh, hg⟩
    · rw [List.filterMap_cons_none hh, List.filterMap_cons, List.filterMap_cons, hfg]
      cases g b with
      | none => exact ih
      | some x => exact .left x ih
    · rw [List.filterMap_cons_none hg, List.filterMap_cons, List.filterMap_cons, hfh]
      cases h b with
      | none => exact ih
      | some y => exact .right y ih

end IsMerge

/-! ## 2. Looking up in a union -/

/-- Whether a key is among the filters. -/
def Gives (raw : Filters) (key : String) : Prop := key ∈ raw.map Prod.fst

instance (raw : Filters) (key : String) : Decidable (Gives raw key) :=
  inferInstanceAs (Decidable (key ∈ raw.map Prod.fst))

theorem lookup_eq_none_of_not_gives {raw : Filters} {key : String} (h : ¬ Gives raw key) :
    raw.lookup key = none := by
  refine List.lookup_eq_none_iff.2 fun f hf => ?_
  have hne : key ≠ f.1 := by
    rintro rfl
    exact h (List.mem_map_of_mem hf)
  simpa using hne

theorem get_of_not_gives {raw : Filters} {key : String} (h : ¬ Gives raw key) :
    get raw key = .null := by
  rw [get, lookup_eq_none_of_not_gives h]
  rfl

/-- Filters that are the union of two mappings without a common key, in any order. -/
structure IsUnion (raw₁ raw₂ raw : Filters) : Prop where
  perm : raw.Perm (raw₁ ++ raw₂)
  mapping : IsMapping raw

variable {room : Room} {raw₁ raw₂ raw : Filters}

namespace IsUnion

theorem symm (h : IsUnion raw₁ raw₂ raw) : IsUnion raw₂ raw₁ raw :=
  ⟨h.perm.trans List.perm_append_comm, h.mapping⟩

theorem not_gives_right (h : IsUnion raw₁ raw₂ raw) {key : String} (hkey : Gives raw₁ key) :
    ¬ Gives raw₂ key := by
  have hnodup := h.mapping.perm h.perm
  rw [IsMapping, List.map_append, List.nodup_append] at hnodup
  intro hkey'
  exact hnodup.2.2 key hkey key hkey' rfl

/-- A key that the second part does not give is given as in the first part. -/
theorem get_eq_left (h : IsUnion raw₁ raw₂ raw) {key : String} (hkey : ¬ Gives raw₂ key) :
    get raw key = get raw₁ key := by
  rw [get_perm h.mapping h.perm, get, get, List.lookup_append, lookup_eq_none_of_not_gives hkey,
    Option.or_none]

/-- **Each key is given as in one of the parts, and not at all in the other.** -/
theorem get_union (h : IsUnion raw₁ raw₂ raw) (key : String) :
    (get raw key = get raw₁ key ∧ get raw₂ key = .null) ∨
      (get raw key = get raw₂ key ∧ get raw₁ key = .null) := by
  by_cases hkey : Gives raw₁ key
  · have hnot := h.not_gives_right hkey
    exact Or.inl ⟨h.get_eq_left hnot, get_of_not_gives hnot⟩
  · exact Or.inr ⟨h.symm.get_eq_left hkey, get_of_not_gives hkey⟩

/-- A reading of a key is that of the part that gives it, and that of null when none does. -/
theorem reading {α : Type} (h : IsUnion raw₁ raw₂ raw) (key : String) (read : Value → α) :
    read (get raw key) =
      if Gives raw₁ key then read (get raw₁ key)
      else if Gives raw₂ key then read (get raw₂ key)
      else read .null := by
  split
  · next hkey => rw [h.get_eq_left (h.not_gives_right hkey)]
  · next hkey =>
    rw [h.symm.get_eq_left hkey]
    split
    · rfl
    · next hkey' => rw [get_of_not_gives hkey']

end IsUnion

/-! ## 3. Conditions -/

/-- **A filter that is not given gives no condition.** -/
theorem Rule.condition_null (r : Rule) : r.condition .null = none := by
  cases r <;> rfl

theorem conditions_union (h : IsUnion raw₁ raw₂ raw) (fs : List Facet) :
    IsMerge (conditions raw₁ fs) (conditions raw₂ fs) (conditions raw fs) := by
  refine IsMerge.filterMap fun f => ?_
  rcases h.get_union f.key with ⟨hget, hnull⟩ | ⟨hget, hnull⟩
  · exact Or.inl ⟨by rw [hget], by rw [hnull, Rule.condition_null]⟩
  · exact Or.inr ⟨by rw [hget], by rw [hnull, Rule.condition_null]⟩

/-- **Filters that look up no listing compile exactly when there is room for their texts and both
areas can be read.** -/
theorem compile_eq_ok_iff (hlookup : lookupConditions raw = []) {p : Plan} :
    compile room raw = .ok p ↔ textsFit room raw = true ∧
      ∃ bounds polygon, Area.boundsCondition (get raw "bounds") = .ok bounds ∧
        Area.polygonCondition room (get raw "polygon") = .ok polygon ∧
        facetPlan raw (bounds ++ polygon) = p := by
  rw [compile_of_facets hlookup, compileFacets_eq_ok_iff]
  refine and_congr_right fun _ => ?_
  constructor
  · rintro ⟨areas, hareas, rfl⟩
    obtain ⟨bounds, hbounds, hareas⟩ := bind_eq_ok_iff.1 hareas
    obtain ⟨polygon, hpolygon, hareas⟩ := bind_eq_ok_iff.1 hareas
    cases hareas
    exact ⟨bounds, polygon, hbounds, hpolygon, rfl⟩
  · rintro ⟨bounds, polygon, hbounds, hpolygon, rfl⟩
    refine ⟨bounds ++ polygon, ?_, rfl⟩
    rw [areaConditions, hbounds, hpolygon]
    rfl

theorem compile_isOk_iff (hlookup : lookupConditions raw = []) :
    (∃ p, compile room raw = .ok p) ↔ textsFit room raw = true ∧
      (∃ cs, Area.boundsCondition (get raw "bounds") = .ok cs) ∧
        ∃ cs, Area.polygonCondition room (get raw "polygon") = .ok cs := by
  simp only [compile_eq_ok_iff hlookup]
  constructor
  · rintro ⟨p, hfits, bounds, polygon, hbounds, hpolygon, -⟩
    exact ⟨hfits, ⟨bounds, hbounds⟩, polygon, hpolygon⟩
  · rintro ⟨hfits, ⟨bounds, hbounds⟩, polygon, hpolygon⟩
    exact ⟨_, hfits, bounds, polygon, hbounds, hpolygon, rfl⟩

/-! ## 4. Room for texts -/

/-- A filter that is not given takes no text that there is no room for. -/
theorem holds_listed_null (room : Room) (key : String) (r : Rule) :
    room.holds key (r.listed .null) = true := by
  cases r <;> rfl

/-- What holds of null holds of a key of the union when it holds of the key in both parts. -/
theorem IsUnion.check (read : Value → Bool) (hread : read .null = true)
    (h : IsUnion raw₁ raw₂ raw) (key : String) :
    read (get raw key) = (read (get raw₁ key) && read (get raw₂ key)) := by
  rcases h.get_union key with ⟨hget, hnull⟩ | ⟨hget, hnull⟩
  · rw [hget, hnull, hread, Bool.and_true]
  · rw [hget, hnull, hread, Bool.true_and]

theorem fits_union (h : IsUnion raw₁ raw₂ raw) (f : Facet) :
    f.fits room raw = (f.fits room raw₁ && f.fits room raw₂) :=
  h.check (fun v => room.holds f.key (f.rule.listed v))
    (holds_listed_null room f.key f.rule) f.key

theorem statusFits_union (h : IsUnion raw₁ raw₂ raw) :
    statusFits room raw = (statusFits room raw₁ && statusFits room raw₂) :=
  h.check (fun v => room.holds "status" (Status.listed v))
    (Room.holds_flat fun _ hv => by rw [List.mem_singleton.1 hv]; rfl) "status"

/-- **There is room for the texts of a union when there is for those of both parts.** -/
theorem textsFit_union (h : IsUnion raw₁ raw₂ raw) :
    textsFit room raw = true ↔ textsFit room raw₁ = true ∧ textsFit room raw₂ = true := by
  simp only [textsFit, Bool.and_eq_true, List.all_eq_true, statusFits_union h, fits_union h,
    forall_and]
  exact and_and_and_comm

section Areas

variable {read : Value → Except Error (List Predicate)} (hread : read .null = .ok [])
include hread

/-- An area of the union can be read when it can be read in both parts. -/
theorem area_union_isOk (h : IsUnion raw₁ raw₂ raw) (key : String) :
    (∃ cs, read (get raw key) = .ok cs) ↔
      (∃ cs, read (get raw₁ key) = .ok cs) ∧ ∃ cs, read (get raw₂ key) = .ok cs := by
  rcases h.get_union key with ⟨hget, hnull⟩ | ⟨hget, hnull⟩
  · rw [hget, hnull, hread]
    exact ⟨fun hcs => ⟨hcs, [], rfl⟩, fun hcs => hcs.1⟩
  · rw [hget, hnull, hread]
    exact ⟨fun hcs => ⟨⟨[], rfl⟩, hcs⟩, fun hcs => hcs.2⟩

theorem area_union_isMerge (h : IsUnion raw₁ raw₂ raw) {key : String}
    {cs₁ cs₂ cs : List Predicate} (h₁ : read (get raw₁ key) = .ok cs₁)
    (h₂ : read (get raw₂ key) = .ok cs₂) (h₃ : read (get raw key) = .ok cs) :
    IsMerge cs₁ cs₂ cs := by
  rcases h.get_union key with ⟨hget, hnull⟩ | ⟨hget, hnull⟩
  · rw [hnull, hread] at h₂
    rw [hget, h₁] at h₃
    cases h₂
    cases h₃
    exact .of_left _
  · rw [hnull, hread] at h₁
    rw [hget, h₂] at h₃
    cases h₁
    cases h₃
    exact .of_right _

end Areas

/-! ## 5. Compiling a union -/

theorem lookup_union (h : IsUnion raw₁ raw₂ raw) (h₁ : lookupConditions raw₁ = [])
    (h₂ : lookupConditions raw₂ = []) : lookupConditions raw = [] := by
  have hmerge : IsMerge (lookupConditions raw₁) (lookupConditions raw₂) (lookupConditions raw) :=
    conditions_union h lookupFacets
  rw [h₁, h₂] at hmerge
  exact hmerge.eq_nil

/-- A plan is composed of the plans of two parts: the part that gives the status decides the status
term, the part that gives the order decides the order, the other terms are those of both parts, each
in its order, and the school criteria are those of both. -/
structure Plan.Composes (raw₁ raw₂ : Filters) (p₁ p₂ p : Plan) : Prop where
  status : p.terms.head? =
    if Gives raw₁ "status" then p₁.terms.head?
    else if Gives raw₂ "status" then p₂.terms.head?
    else some Status.Category.active.condition
  terms : IsMerge p₁.terms.tail p₂.terms.tail p.terms.tail
  order : p.order =
    if Gives raw₁ "sort" then p₁.order else if Gives raw₂ "sort" then p₂.order else .newest
  schools : p.schools.Perm (p₁.schools ++ p₂.schools)
  hasSchools : p.hasSchools = (p₁.hasSchools || p₂.hasSchools)
  overfetch : p.overfetch = max p₁.overfetch p₂.overfetch
  isLookup : p.isLookup = false

theorem schoolCriteria_union (h : IsUnion raw₁ raw₂ raw) :
    (schoolCriteria raw).Perm (schoolCriteria raw₁ ++ schoolCriteria raw₂) := by
  have happend : schoolCriteria (raw₁ ++ raw₂) = schoolCriteria raw₁ ++ schoolCriteria raw₂ :=
    List.filter_append ..
  exact happend ▸ schoolCriteria_perm h.perm

theorem hasSchools_union (h : IsUnion raw₁ raw₂ raw) :
    (!(schoolCriteria raw).isEmpty) =
      (!(schoolCriteria raw₁).isEmpty || !(schoolCriteria raw₂).isEmpty) := by
  rw [(schoolCriteria_union h).isEmpty_eq]
  cases schoolCriteria raw₁ <;> rfl

theorem facetPlan_composes (h : IsUnion raw₁ raw₂ raw) {as₁ as₂ as : List Predicate}
    (hareas : IsMerge as₁ as₂ as) :
    Plan.Composes raw₁ raw₂ (facetPlan raw₁ as₁) (facetPlan raw₂ as₂) (facetPlan raw as) where
  status := h.reading "status" fun v => some (Status.condition v)
  terms := (conditions_union h facets).append hareas
  order := h.reading "sort" ResultOrder.ofFilter
  schools := schoolCriteria_union h
  hasSchools := hasSchools_union h
  overfetch := by
    simp only [facetPlan, hasSchools_union h]
    cases (schoolCriteria raw₁).isEmpty <;> cases (schoolCriteria raw₂).isEmpty <;> rfl
  isLookup := rfl

/-- The keys that compiling reads, school criteria apart. -/
def filterKeys : List String :=
  "status" :: "bounds" :: "polygon" :: "sort" :: (lookupFacets ++ facets).map Facet.key

/-- Whether a key is a filter. -/
def isFilterKey (key : String) : Bool := filterKeys.contains key || namesSchool key

/-- The filters among some fields. -/
def onlyFilters (raw : Filters) : Filters := raw.filter fun f => isFilterKey f.1

theorem get_onlyFilters (raw : Filters) {key : String} (h : key ∈ filterKeys) :
    get (onlyFilters raw) key = get raw key := by
  have hkey : isFilterKey key = true := by
    rw [isFilterKey, List.contains_iff_mem.2 h, Bool.true_or]
  exact get_filter isFilterKey hkey raw

/-- **Keys that are no filter change no plan.** -/
theorem compile_onlyFilters (room : Room) (raw : Filters) :
    compile room (onlyFilters raw) = compile room raw := by
  have hkeys : ∀ key ∈ readKeys, key ∈ filterKeys := by decide
  have hschools : schoolCriteria (onlyFilters raw) = schoolCriteria raw :=
    schoolCriteria_filter (fun key hkey => by rw [isFilterKey, hkey, Bool.or_true]) raw
  exact compile_eq_of_readsAlike
    (readsAlike_of_get fun key hkey => get_onlyFilters raw (hkeys key hkey)) hschools

/-- **Filters compose independently.**  The union of two mappings without a common key compiles when
both compile, neither of them looking up a listing, and its plan is composed of their plans, in
whatever order the keys are given.  What is no filter adds nothing to it. -/
theorem compile_union (h : IsUnion raw₁ raw₂ raw) (h₁ : lookupConditions raw₁ = [])
    (h₂ : lookupConditions raw₂ = []) :
    ((∃ p, compile room raw = .ok p) ↔
      (∃ p₁, compile room raw₁ = .ok p₁) ∧ ∃ p₂, compile room raw₂ = .ok p₂) ∧
    (∀ p₁ p₂ p, compile room raw₁ = .ok p₁ → compile room raw₂ = .ok p₂ →
      compile room raw = .ok p → Plan.Composes raw₁ raw₂ p₁ p₂ p) ∧
    compile room (onlyFilters raw) = compile room raw := by
  have hraw := lookup_union h h₁ h₂
  refine ⟨?_, fun p₁ p₂ p hp₁ hp₂ hp => ?_, compile_onlyFilters room raw⟩
  · rw [compile_isOk_iff hraw, compile_isOk_iff h₁, compile_isOk_iff h₂, textsFit_union h,
      area_union_isOk rfl h "bounds", area_union_isOk rfl h "polygon"]
    tauto
  · obtain ⟨-, bounds₁, polygon₁, hbounds₁, hpolygon₁, rfl⟩ := (compile_eq_ok_iff h₁).1 hp₁
    obtain ⟨-, bounds₂, polygon₂, hbounds₂, hpolygon₂, rfl⟩ := (compile_eq_ok_iff h₂).1 hp₂
    obtain ⟨-, bounds, polygon, hbounds, hpolygon, rfl⟩ := (compile_eq_ok_iff hraw).1 hp
    exact facetPlan_composes h ((area_union_isMerge rfl h hbounds₁ hbounds₂ hbounds).append
      (area_union_isMerge rfl h hpolygon₁ hpolygon₂ hpolygon))

/-- Sold listings in a city, in a school district, and a key that is no filter. -/
def soldInCity : Filters :=
  [("status", .str "sold"), ("utm_source", .str "mail"), ("city", .list [.str "Boston"]),
    ("school_district", .str "Newton")]

/-- Listings with bedrooms and a garage in a rectangle, the cheapest first. -/
def cheapInBounds : Filters :=
  [("bounds", .str "42, -72, 43, -71"), ("has_garage", .str "on"), ("sort", .str "price_asc"),
    ("beds", .int 3)]

/-- Both, one key after the other. -/
def soldCheapInBounds : Filters :=
  (soldInCity.zip cheapInBounds).flatMap fun (f, g) => [g, f]

theorem compile_union_soldCheapInBounds :
    IsUnion soldInCity cheapInBounds soldCheapInBounds ∧ lookupConditions soldInCity = [] ∧
      lookupConditions cheapInBounds = [] ∧ ∃ p₁ p₂ p, compile .standard soldInCity = .ok p₁ ∧
        compile .standard cheapInBounds = .ok p₂ ∧ compile .standard soldCheapInBounds = .ok p ∧
        Plan.Composes soldInCity cheapInBounds p₁ p₂ p ∧ p.terms.length = 5 ∧
        compile .standard (onlyFilters soldCheapInBounds) =
          compile .standard soldCheapInBounds := by
  have hmerge : IsMerge soldInCity cheapInBounds soldCheapInBounds :=
    .right _ (.left _ (.right _ (.left _ (.right _ (.left _ (.right _ (.left _ .nil)))))))
  have hunion : IsUnion soldInCity cheapInBounds soldCheapInBounds := ⟨hmerge.perm, by decide⟩
  obtain ⟨hiff, hcomposes, honly⟩ := @compile_union .standard _ _ _ hunion rfl rfl
  have hboth : (∃ p, compile .standard soldInCity = .ok p) ∧
      ∃ p, compile .standard cheapInBounds = .ok p :=
    ⟨⟨_, rfl⟩, _, rfl⟩
  obtain ⟨⟨p₁, hp₁⟩, p₂, hp₂⟩ := hboth
  obtain ⟨p, hp⟩ := hiff.2 ⟨⟨p₁, hp₁⟩, p₂, hp₂⟩
  have hlength : (compile .standard soldCheapInBounds).toOption.map (fun p => p.terms.length) =
      some 5 := by
    decide +kernel
  rw [hp] at hlength
  exact ⟨hunion, rfl, rfl, p₁, p₂, p, hp₁, hp₂, hp, hcomposes p₁ p₂ p hp₁ hp₂ hp,
    Option.some.inj hlength, honly⟩

end Realty.Filter
