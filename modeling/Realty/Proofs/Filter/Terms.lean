/-
# The conditions of a plan

Whatever is asked for, a plan consists of conditions of a few forms.

* `Rule.IsSound` says of a rule that its columns are columns of the listings; every rule of the
  tables is sound (`facets_isSound`).
* `condition_cases`: the condition of a sound rule is rendered on every day, whatever value it was
  given, unless it goes back some days.
* `compile_renders_iff`: so the condition of a plan is rendered exactly when the days that it goes
  back stay in the calendar.  `compile_raws`: the caller's texts in it are those of the areas, and
  these bind their own placeholders (`IsArea.eq_raw`).
* `compile_dayless`: unless a search depends on the day it falls on, its condition is written in one
  way on all days.
-/
import Realty.Proofs.Filter.Union
import Realty.Proofs.Sql.Cutoff
import Realty.Proofs.Sql.Renders

namespace Realty.Filter

open Sql (hasColumn renders rendersAll raws rawsOfAll fitsText cutoff)

/-! ## 1. Rules -/

/-- The columns that a rule names, a fixed condition apart. -/
def Rule.columns : Rule → List String
  | .oneOf c | .oneOfOrEqual c | .equals c | .contains c | .atLeast c | .atMost c | .lotAtLeast c
  | .lotAtMost c | .listedWithin c => [c]
  | .equalsAny cs => cs
  | .whenSet _ => []

/-- The fixed condition of a rule. -/
def Rule.fixed : Rule → List Predicate
  | .whenSet p => [p]
  | _ => []

/-- The fixed conditions of the tables. -/
def fixedConditions : List Predicate :=
  [.columnGreaterThan "original_list_price" "list_price", .notNull "virtual_tour_url_unbranded",
    .greaterThan "garage_spaces" (.int 0), .greaterThan "fireplaces_total" (.int 0),
    .upcomingOpenHouse, .exclusiveListing "listing_id"]

theorem mem_fixedConditions {f : Facet} {p : Predicate} (hf : f ∈ lookupFacets ++ facets)
    (hp : p ∈ f.rule.fixed) : p ∈ fixedConditions := by
  have hfixed : (lookupFacets ++ facets).flatMap (fun f => f.rule.fixed) = fixedConditions := rfl
  rw [← hfixed]
  exact List.mem_flatMap.2 ⟨f, hf, hp⟩

/-- A condition that is written in one way on all days. -/
def IsDayless (t : Predicate) : Prop := ∀ today today', Sql.clause today t = Sql.clause today' t

theorem clauses_dayless {ts : List Predicate} (h : ∀ t ∈ ts, IsDayless t) (today today' : Date) :
    Sql.clauses today ts = Sql.clauses today' ts := by
  induction ts with
  | nil => rfl
  | cons t ts ih =>
    obtain ⟨ht, hts⟩ := List.forall_mem_cons.1 h
    rw [Sql.clauses, Sql.clauses, ht today today', ih hts]

/-- A condition that is rendered on every day, in one way, and is none of the caller's texts. -/
structure IsPlain (t : Predicate) : Prop where
  renders : ∀ today, renders today t = true
  dayless : IsDayless t
  raws : raws t = []

/-- A rule whose columns are columns of the listings, and whose fixed condition is plain. -/
structure Rule.IsSound (r : Rule) : Prop where
  columns : ∀ c ∈ r.columns, hasColumn c = true
  fixed : ∀ p ∈ r.fixed, IsPlain p

/-- **Every rule of the tables is sound.** -/
theorem facets_isSound : ∀ f ∈ lookupFacets ++ facets, f.rule.IsSound := by
  have hcolumns : ∀ f ∈ lookupFacets ++ facets, ∀ c ∈ f.rule.columns, hasColumn c = true := by
    decide +kernel
  refine fun f hf => ⟨hcolumns f hf, fun p hp => ?_⟩
  have hmem := mem_fixedConditions hf hp
  simp only [fixedConditions, List.mem_cons, List.not_mem_nil, or_false] at hmem
  rcases hmem with rfl | rfl | rfl | rfl | rfl | rfl <;>
    exact ⟨fun _ => rfl, fun _ _ => rfl, rfl⟩

section Rules

variable {r : Rule} {v : Value} {t : Predicate}

/-- A condition on some choices. -/
theorem oneOfCondition_eq_some {c : String} {ss : List String} (h : oneOfCondition c ss = some t) :
    t = .inList c (ss.map .str) := by
  unfold oneOfCondition at h
  split at h
  · cases h
  · exact (Option.some.inj h).symm

/-- What is read as a whole number is an integer. -/
theorem whole?_eq_some {amount : Value} (h : whole? v = some amount) : ∃ n, amount = .int n := by
  obtain ⟨x, -, hx⟩ := Option.bind_eq_some_iff.1 h
  obtain ⟨n, -, hn⟩ := Option.map_eq_some_iff.1 hx
  exact ⟨n, hn.symm⟩

theorem isPlain_anyOf {ps : List Predicate} (h : ∀ p ∈ ps, IsPlain p) : IsPlain (.anyOf ps) := by
  refine ⟨fun today => Sql.rendersAll_iff.2 fun p hp => (h p hp).renders today,
    fun today today' => ?_, ?_⟩
  · rw [Sql.clause, Sql.clause, clauses_dayless fun p hp => (h p hp).dayless]
  show rawsOfAll ps = []
  induction ps with
  | nil => rfl
  | cons p ps ih =>
    obtain ⟨hp, hps⟩ := List.forall_mem_cons.1 h
    rw [rawsOfAll, hp.raws, ih hps]
    rfl

theorem isPlain_atLeast {c : String} {v : Value} (hc : hasColumn c = true)
    (hv : Sql.isOrdered v = true) : IsPlain (.atLeast c v) :=
  ⟨fun _ => by simp [Predicate.atLeast, Sql.renders, hc, hv, Value.isNull], fun _ _ => rfl, rfl⟩

theorem isPlain_atMost {c : String} {v : Value} (hc : hasColumn c = true)
    (hv : Sql.isOrdered v = true) : IsPlain (.atMost c v) :=
  ⟨fun _ => by simp [Predicate.atMost, Sql.renders, hc, hv, Value.isNull], fun _ _ => rfl, rfl⟩

/-- **The condition of a sound rule is plain**, whatever value it was given, unless it goes back
some days. -/
theorem condition_cases (hr : r.IsSound) (ht : r.condition v = some t) :
    IsPlain t ∨ ∃ c days, r = .listedWithin c ∧ whole? v = some days ∧ t = .listedWithin c days ∧
      hasColumn c = true := by
  have hone {c : String} (hc : r.columns = [c]) : hasColumn c = true :=
    hr.columns c (hc ▸ List.mem_singleton_self c)
  cases r with
  | oneOf c =>
    rw [oneOfCondition_eq_some ht]
    exact Or.inl ⟨fun _ => hone rfl, fun _ _ => rfl, rfl⟩
  | oneOfOrEqual c =>
    rw [Rule.condition] at ht
    split at ht
    · rw [← Option.some.inj ht]
      exact Or.inl ⟨fun _ => hone rfl, fun _ _ => rfl, rfl⟩
    · rw [oneOfCondition_eq_some ht]
      exact Or.inl ⟨fun _ => hone rfl, fun _ _ => rfl, rfl⟩
  | equals c =>
    obtain ⟨s, -, rfl⟩ := Option.map_eq_some_iff.1 ht
    exact Or.inl ⟨fun _ => hone rfl, fun _ _ => rfl, rfl⟩
  | equalsAny cs =>
    obtain ⟨s, -, rfl⟩ := Option.map_eq_some_iff.1 ht
    refine Or.inl (isPlain_anyOf fun p hp => ?_)
    obtain ⟨c, hc, rfl⟩ := List.mem_map.1 hp
    exact ⟨fun _ => hr.columns c hc, fun _ _ => rfl, rfl⟩
  | contains c =>
    obtain ⟨s, -, rfl⟩ := Option.map_eq_some_iff.1 ht
    exact Or.inl ⟨fun _ => hone rfl, fun _ _ => rfl, rfl⟩
  | atLeast c =>
    obtain ⟨amount, hamount, rfl⟩ := Option.map_eq_some_iff.1 ht
    obtain ⟨n, rfl⟩ := whole?_eq_some hamount
    exact Or.inl (isPlain_atLeast (hone rfl) rfl)
  | atMost c =>
    obtain ⟨amount, hamount, rfl⟩ := Option.map_eq_some_iff.1 ht
    obtain ⟨n, rfl⟩ := whole?_eq_some hamount
    exact Or.inl (isPlain_atMost (hone rfl) rfl)
  | lotAtLeast c =>
    obtain ⟨x, -, rfl⟩ := Option.map_eq_some_iff.1 ht
    exact Or.inl (isPlain_atLeast (hone rfl) rfl)
  | lotAtMost c =>
    obtain ⟨x, -, rfl⟩ := Option.map_eq_some_iff.1 ht
    exact Or.inl (isPlain_atMost (hone rfl) rfl)
  | listedWithin c =>
    obtain ⟨days, hdays, rfl⟩ := Option.map_eq_some_iff.1 ht
    exact Or.inr ⟨c, days, rfl, hdays, rfl, hone rfl⟩
  | whenSet p =>
    rw [Rule.condition] at ht
    split at ht
    · exact Or.inl (hr.fixed t (Option.some.inj ht ▸ List.mem_singleton_self p))
    · cases ht

end Rules

/-! ## 2. Facets -/

variable {raw : Filters} {p : Plan} {t : Predicate}

/-- The days that the filters go back for new listings. -/
def daysBack (raw : Filters) : Option Value := whole? (get raw "new_listing_days")

/-- The condition on listings that are new since some days. -/
def newSince (days : Value) : Predicate := .listedWithin "listing_contract_date" days

/-- The column of a rule that goes back some days. -/
def Rule.daysColumn? : Rule → Option String
  | .listedWithin c => some c
  | _ => none

/-- One facet goes back some days. -/
theorem daysColumn_facets :
    (lookupFacets ++ facets).filterMap (fun f => f.rule.daysColumn?.map fun c => (f.key, c)) =
      [("new_listing_days", "listing_contract_date")] := rfl

theorem mem_conditions {fs : List Facet} :
    t ∈ conditions raw fs ↔ ∃ f ∈ fs, f.rule.condition (get raw f.key) = some t :=
  List.mem_filterMap

theorem isPlain_of_mem_lookupConditions (h : t ∈ lookupConditions raw) : IsPlain t := by
  obtain ⟨f, hf, ht⟩ := mem_conditions.1 h
  rcases condition_cases (facets_isSound f (List.mem_append_left _ hf)) ht with hplain | hdays
  · exact hplain
  · obtain ⟨c, days, hrule, -⟩ := hdays
    simp only [lookupFacets, List.mem_cons, List.not_mem_nil, or_false] at hf
    rcases hf with rfl | rfl
    · cases hrule
    · cases hrule

/-- **The conditions of the facets are plain**, that on new listings apart. -/
theorem conditions_facets_cases (h : t ∈ conditions raw facets) :
    IsPlain t ∨ ∃ days, daysBack raw = some days ∧ t = newSince days := by
  obtain ⟨f, hf, ht⟩ := mem_conditions.1 h
  have hmem := List.mem_append_right lookupFacets hf
  rcases condition_cases (facets_isSound f hmem) ht with hplain | ⟨c, days, hrule, hdays, rfl, -⟩
  · exact Or.inl hplain
  · have hkey : (f.key, c) ∈ (lookupFacets ++ facets).filterMap
        fun f => f.rule.daysColumn?.map fun c => (f.key, c) :=
      List.mem_filterMap.2 ⟨f, hmem, by rw [hrule]; rfl⟩
    rw [daysColumn_facets] at hkey
    obtain ⟨hname, rfl⟩ := Prod.mk.inj (List.mem_singleton.1 hkey)
    rw [hname] at hdays
    exact Or.inr ⟨days, hdays, rfl⟩

/-- The days that are asked for are a condition. -/
theorem newSince_mem_conditions {days : Value} (h : daysBack raw = some days) :
    newSince days ∈ conditions raw facets := by
  have hfacet : (⟨"new_listing_days", .listedWithin "listing_contract_date"⟩ : Facet) ∈ facets := by
    simp [facets]
  refine mem_conditions.2 ⟨_, hfacet, ?_⟩
  show (daysBack raw).map (Predicate.listedWithin "listing_contract_date") = _
  rw [h]
  rfl

/-! ## 3. Status and areas -/

theorem isPlain_category (c : Status.Category) : IsPlain c.condition := by
  cases c <;> exact ⟨fun _ => rfl, fun _ _ => rfl, rfl⟩

theorem isPlain_status (v : Value) : IsPlain (Status.condition v) := by
  have hplain : ∀ p ∈ (Status.categories v).map Status.Category.condition, IsPlain p := by
    intro p hp
    obtain ⟨c, -, rfl⟩ := List.mem_map.1 hp
    exact isPlain_category c
  unfold Status.condition
  split
  · next p hone =>
    rw [hone] at hplain
    exact hplain p (List.mem_singleton_self p)
  · exact isPlain_anyOf hplain

/-- A text whose placeholders are the names that are given a value, in their order, and are named
like no numbered parameter. -/
structure BindsItsOwn (sql : String) (params : List (String × Value)) : Prop where
  names : Sql.Template.names sql = params.map Prod.fst
  own : ∀ name ∈ Sql.Template.names sql, Sql.IsOwnName name

/-- The condition of an area. -/
inductive IsArea : Predicate → Prop
  | envelope (b : Geo.Bounds Float) : IsArea (Geo.inEnvelope Geo.placeColumn b)
  | polygon (ring : List (Geo.Point Float)) : IsArea (Geo.inPolygon Geo.placeColumn ring)

/-- Names that end in no digit are named like no numbered parameter. -/
theorem bindsItsOwn_of_names {sql : String} {params : List (String × Value)} {names : List String}
    (hsql : Sql.Template.names sql = names) (hparams : params.map Prod.fst = names)
    (hlast : names.all (fun name => name.toList.getLast?.any fun c => !c.isDigit) = true) :
    BindsItsOwn sql params := by
  refine ⟨hsql.trans hparams.symm, fun name hname => ?_⟩
  rw [hsql] at hname
  have hend := List.all_eq_true.1 hlast name hname
  cases hc : name.toList.getLast? with
  | none =>
    rw [hc] at hend
    cases hend
  | some c =>
    rw [hc] at hend
    exact Sql.isOwnName_of_getLast? hc (Bool.not_eq_true' _ ▸ hend)

/-- **The text of an area binds its own placeholders.** -/
theorem IsArea.eq_raw (h : IsArea t) :
    ∃ sql params, t = .raw sql params ∧ BindsItsOwn sql params := by
  cases h with
  | envelope b =>
    exact ⟨_, _, rfl, bindsItsOwn_of_names
      (show _ = ["bounds_min_lng", "bounds_min_lat", "bounds_max_lng", "bounds_max_lat"] by
        decide +kernel) rfl (by decide +kernel)⟩
  | polygon ring =>
    exact ⟨_, _, rfl, bindsItsOwn_of_names (show _ = ["polygon_wkt"] by decide +kernel) rfl
      (by decide +kernel)⟩

theorem IsArea.renders (h : IsArea t) (today : Date) : renders today t = true := by
  obtain ⟨sql, params, rfl, hbinds⟩ := h.eq_raw
  refine List.all_eq_true.2 fun q hq => ?_
  rw [List.contains_iff_mem, hbinds.names]
  exact List.mem_map_of_mem hq

theorem IsArea.dayless (h : IsArea t) : IsDayless t := by
  obtain ⟨sql, params, rfl, -⟩ := h.eq_raw
  exact fun _ _ => rfl

theorem IsArea.raws (h : IsArea t) : raws t = [t] := by
  obtain ⟨sql, params, rfl, -⟩ := h.eq_raw
  rfl

theorem isArea_of_bounds {v : Value} {cs : List Predicate} (h : Area.boundsCondition v = .ok cs) :
    ∀ t ∈ cs, IsArea t := by
  unfold Area.boundsCondition at h
  split at h
  · cases h
    exact nofun
  · split at h
    · cases h
      exact List.forall_mem_singleton.2 (.envelope _)
    · cases h

theorem isArea_of_polygon {room : Room} {v : Value} {cs : List Predicate}
    (h : Area.polygonCondition room v = .ok cs) : ∀ t ∈ cs, IsArea t := by
  unfold Area.polygonCondition at h
  split at h
  · cases h
    exact nofun
  · obtain ⟨ring, -, rfl⟩ := map_eq_ok_iff.1 h
    exact List.forall_mem_singleton.2 (.polygon ring)

/-! ## 4. Plans -/

variable {room : Room}

/-- **What a plan consists of**: conditions that look a listing up, or the status, the facets and
the areas. -/
theorem compile_terms (hp : compile room raw = .ok p) :
    p.terms = lookupConditions raw ∧ lookupConditions raw ≠ [] ∨
      lookupConditions raw = [] ∧ ∃ areas, (∀ t ∈ areas, IsArea t) ∧
        p.terms = Status.condition (get raw "status") :: conditions raw facets ++ areas := by
  by_cases hlookup : lookupConditions raw = []
  · obtain ⟨-, bounds, polygon, hbounds, hpolygon, rfl⟩ := (compile_eq_ok_iff hlookup).1 hp
    refine Or.inr ⟨hlookup, bounds ++ polygon, fun t ht => ?_, rfl⟩
    rcases List.mem_append.1 ht with ht | ht
    · exact isArea_of_bounds hbounds t ht
    · exact isArea_of_polygon hpolygon t ht
  · rw [compile_of_lookup hlookup] at hp
    cases hp
    exact Or.inl ⟨rfl, hlookup⟩

/-- Every condition of a plan is plain, an area, or goes back the days that were asked for. -/
theorem term_cases (hp : compile room raw = .ok p) (ht : t ∈ p.terms) :
    IsPlain t ∨ IsArea t ∨
      lookupConditions raw = [] ∧ ∃ days, daysBack raw = some days ∧ t = newSince days := by
  rcases compile_terms hp with ⟨hterms, -⟩ | ⟨hlookup, areas, hareas, hterms⟩
  · rw [hterms] at ht
    exact Or.inl (isPlain_of_mem_lookupConditions ht)
  · rw [hterms, List.cons_append, List.mem_cons, List.mem_append] at ht
    rcases ht with rfl | ht | ht
    · exact Or.inl (isPlain_status _)
    · rcases conditions_facets_cases ht with hplain | hdays
      · exact Or.inl hplain
      · exact Or.inr (Or.inr ⟨hlookup, hdays⟩)
    · exact Or.inr (Or.inl (hareas t ht))

/-- **The caller's texts in a plan are those of the areas.** -/
theorem compile_raws (hp : compile room raw = .ok p) : ∀ q ∈ raws p.condition, IsArea q := by
  have hall : ∀ {ts : List Predicate}, (∀ t ∈ ts, ∀ q ∈ raws t, IsArea q) →
      ∀ q ∈ rawsOfAll ts, IsArea q := by
    intro ts h
    induction ts with
    | nil => exact nofun
    | cons t ts ih =>
      obtain ⟨ht, hts⟩ := List.forall_mem_cons.1 h
      intro q hq
      rcases List.mem_append.1 hq with hq | hq
      · exact ht q hq
      · exact ih hts q hq
  refine hall (fun t ht q hq => ?_)
  rcases term_cases hp ht with hplain | harea | ⟨-, days, -, rfl⟩
  · rw [hplain.raws] at hq
    cases hq
  · rw [harea.raws] at hq
    rwa [List.mem_singleton.1 hq]
  · cases hq

/-- Filters of a search that goes back a number of days to no day of the calendar. -/
def LeavesCalendar (raw : Filters) (today : Date) : Prop :=
  lookupConditions raw = [] ∧ ∃ n : Int, daysBack raw = some (.int n) ∧
    ¬ (1 ≤ today.toOrdinal - n ∧ today.toOrdinal - n ≤ Date.maxOrdinal)

/-- **The condition of a plan is rendered exactly when the days that it goes back stay in the
calendar.** -/
theorem compile_renders_iff (hp : compile room raw = .ok p) {today : Date}
    (htoday : today.isValid = true) :
    renders today p.condition = true ↔ ¬ LeavesCalendar raw today := by
  rw [Plan.condition, renders, Sql.rendersAll_iff]
  constructor
  · rintro hall ⟨hlookup, n, hdays, hleaves⟩
    rcases compile_terms hp with ⟨-, hne⟩ | ⟨-, areas, -, hterms⟩
    · exact hne hlookup
    · have hmem : newSince (.int n) ∈ p.terms := by
        rw [hterms]
        exact List.mem_append_left _ (List.mem_cons_of_mem _ (newSince_mem_conditions hdays))
      have hrenders := hall _ hmem
      rw [newSince, renders, Bool.and_eq_true] at hrenders
      exact hleaves ((Sql.cutoff_isOk_iff htoday n).1 hrenders.1)
  · intro hstays t ht
    rcases term_cases hp ht with hplain | harea | ⟨hlookup, days, hdays, rfl⟩
    · exact hplain.renders today
    · exact harea.renders today
    · obtain ⟨n, rfl⟩ := whole?_eq_some hdays
      have hcutoff : 1 ≤ today.toOrdinal - n ∧ today.toOrdinal - n ≤ Date.maxOrdinal :=
        Decidable.byContradiction fun hleaves => hstays ⟨hlookup, n, hdays, hleaves⟩
      rw [newSince, renders, (Sql.cutoff_isOk_iff htoday n).2 hcutoff]
      rfl

/-! ## 5. Days -/

/-- Whether a search depends on the day it falls on: it looks no listing up, and goes back some days
for new listings or asks for open houses to come. -/
def DependsOnDay (raw : Filters) : Prop :=
  lookupConditions raw = [] ∧
    ((daysBack raw).isSome = true ∨ (get raw "open_house_only").flag = true)

/-- **The condition of a search that does not depend on the day is written in one way on all
days.** -/
theorem compile_dayless (hp : compile room raw = .ok p) (h : ¬ DependsOnDay raw) :
    IsDayless p.condition := by
  have hterms : ∀ t ∈ p.terms, IsDayless t := by
    intro t ht
    rcases term_cases hp ht with hplain | harea | ⟨hlookup, days, hdays, -⟩
    · exact hplain.dayless
    · exact harea.dayless
    · exact absurd ⟨hlookup, .inl (Option.isSome_iff_exists.2 ⟨days, hdays⟩)⟩ h
  intro today today'
  rw [Plan.condition, Sql.clause, Sql.clause, clauses_dayless hterms]

/-- Whether a rule asks for open houses to come. -/
def Rule.asksOpenHouse : Rule → Bool
  | .whenSet .upcomingOpenHouse => true
  | _ => false

theorem key_of_asksOpenHouse : ∀ f ∈ lookupFacets ++ facets, f.rule.asksOpenHouse = true →
    f.key = "open_house_only" := by decide

/-- Only one rule asks for open houses to come, and only when its flag is set. -/
theorem asksOpenHouse_of_condition {r : Rule} {v : Value}
    (h : r.condition v = some .upcomingOpenHouse) : r.asksOpenHouse = true ∧ v.flag = true := by
  cases r with
  | oneOf c => cases oneOfCondition_eq_some h
  | oneOfOrEqual c =>
    rw [Rule.condition] at h
    split at h
    · cases h
    · cases oneOfCondition_eq_some h
  | whenSet p =>
    rw [Rule.condition] at h
    split at h
    · next hflag =>
      cases h
      exact ⟨rfl, hflag⟩
    · cases h
  | _ =>
    obtain ⟨_, -, h⟩ := Option.map_eq_some_iff.1 h
    cases h

theorem status_ne_upcomingOpenHouse (v : Value) : Status.condition v ≠ .upcomingOpenHouse := by
  unfold Status.condition
  split
  · next p hone =>
    have hmem : p ∈ (Status.categories v).map Status.Category.condition :=
      hone ▸ List.mem_singleton_self p
    obtain ⟨c, -, rfl⟩ := List.mem_map.1 hmem
    nofun
  · nofun

/-- **A search that asks for open houses to come depends on the day.** -/
theorem dependsOnDay_of_upcomingOpenHouse (hp : compile room raw = .ok p)
    (h : .upcomingOpenHouse ∈ p.terms) : DependsOnDay raw := by
  have hfacet : ∀ fs ⊆ lookupFacets ++ facets, .upcomingOpenHouse ∈ conditions raw fs →
      ∃ f ∈ fs, f.rule.asksOpenHouse = true ∧ (get raw "open_house_only").flag = true := by
    intro fs hfs hmem
    obtain ⟨f, hf, hcondition⟩ := mem_conditions.1 hmem
    obtain ⟨hasks, hflag⟩ := asksOpenHouse_of_condition hcondition
    exact ⟨f, hf, hasks, key_of_asksOpenHouse f (hfs hf) hasks ▸ hflag⟩
  rcases compile_terms hp with ⟨hterms, -⟩ | ⟨hlookup, areas, hareas, hterms⟩
  · rw [hterms] at h
    obtain ⟨f, hf, hasks, -⟩ := hfacet lookupFacets (List.subset_append_left _ _) h
    have hnone : ∀ f ∈ lookupFacets, f.rule.asksOpenHouse = false := by decide
    rw [hnone f hf] at hasks
    cases hasks
  · rw [hterms, List.cons_append, List.mem_cons, List.mem_append] at h
    rcases h with h | h | h
    · exact absurd h.symm (status_ne_upcomingOpenHouse _)
    · obtain ⟨f, -, -, hflag⟩ := hfacet facets (List.subset_append_right _ _) h
      exact ⟨hlookup, .inr hflag⟩
    · obtain ⟨sql, params, heq, -⟩ := (hareas _ h).eq_raw
      cases heq

end Realty.Filter
