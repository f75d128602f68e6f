/-
# Filters are read from what their texts keep

A filter is read by the kind of its value, and the text of the value does not always tell the kind.
This module says where it tells enough.

* `isForeign`: decimals and dates, of which the text is left; `HasPlainItems`: lists whose items
  are such texts or plain values.
* `condition_written`, `status_written`, `boundsCondition_written`, `polygonCondition_written`: how
  a filter of each kind is read from what is left of its value.
* `AreToldFilters`: two mappings that are equal where they are not read so.
* `compile_of_written_eq`: two such mappings of which the same is left have equal plans.
-/
import Realty.Filter.Compile
import Realty.Proofs.Json.Written
import Realty.Proofs.Filter.Mapping

namespace Realty

/-! ## 1. Kinds of values -/

namespace Value

/-- Whether a value is a decimal number or a date: its text is left of it. -/
def isForeign : Value → Bool
  | .decimal _ | .date _ | .datetime _ => true
  | _ => false

/-- Whether every item of a list or tuple is a decimal, a date or a plain value. -/
def HasPlainItems (v : Value) : Prop := ∀ x ∈ v.items?.getD [], x.isForeign = true ∨ IsPlain x

variable {v : Value}

theorem items?_written (v : Value) : v.written.items? = v.items?.map (·.map written) := by
  cases v <;> simp [written, items?, writtenItems_eq_map]

/-- The text of a decimal or a date is left of it. -/
theorem written_of_isForeign (h : v.isForeign = true) : v.written = .str v.text := by
  cases v with
  | decimal _ | date _ | datetime _ => rfl
  | _ => cases h

/-- The text of an item is left of it. -/
theorem text_written (h : v.isForeign = true ∨ IsPlain v) : v.written.text = v.text := by
  rcases h with h | h
  · rw [written_of_isForeign h, text]
  · rw [h.written_eq]

/-- What its text keeps is no decimal and no date. -/
theorem IsKept.isForeign_eq (h : v.IsKept) : v.isForeign = false := by
  cases h <;> rfl

theorem isNull_written (v : Value) : v.written.isNull = v.isNull := by
  cases v <;> rfl

theorem isNull_comp_written : ((fun x : Value => !x.isNull) ∘ written) = fun x => !x.isNull :=
  funext fun x => by rw [Function.comp_apply, isNull_written]

theorem isBlank_written (h : v.isForeign = false) : v.written.isBlank = v.isBlank := by
  cases v with
  | decimal _ | date _ | datetime _ => cases h
  | list xs | tuple xs => simp [written, isBlank, writtenItems_eq_map]
  | _ => rfl

mutual

/-- What is left of a value is nested as deeply as the value. -/
theorem depth_written : (v : Value) → v.written.depth = v.depth
  | .null | .bool _ | .int _ | .float _ | .str _ | .decimal _ | .date _ | .datetime _ => rfl
  | .list xs => by rw [written, depth, depth, depthItems_written xs]
  | .tuple xs => by rw [written, depth, depth, depthItems_written xs]
  | .object fs => by
    rw [written, depth, depth, depthFields_perm (Json.sortFields_perm _), depthFields_written fs]

theorem depthItems_written : (xs : List Value) → depthItems (writtenItems xs) = depthItems xs
  | [] => rfl
  | x :: xs => by
    rw [writtenItems, depthItems, depthItems, depth_written x, depthItems_written xs]

theorem depthFields_written : (fs : List (String × Value)) →
    depthFields (writtenFields fs) = depthFields fs
  | [] => rfl
  | (k, x) :: fs => by
    rw [writtenFields, depthFields, depthFields, depth_written x, depthFields_written fs]

end

/-! ## 2. Readers -/

theorem label?_written (h : v.isForeign = false) : v.written.label? = v.label? := by
  cases v with
  | decimal _ | date _ | datetime _ => cases h
  | _ => rfl

theorem number?_written (h : v.isForeign = false) : v.written.number? = v.number? := by
  cases v with
  | decimal _ | date _ | datetime _ => cases h
  | _ => rfl

theorem flag_written (h : v.isForeign = false) : v.written.flag = v.flag := by
  cases v with
  | decimal _ | date _ | datetime _ => cases h
  | list xs | tuple xs => simp [written, flag, isTruthy, writtenItems_eq_map]
  | object fs =>
    have hflag : ∀ gs, (Value.object gs).flag = !gs.isEmpty := fun _ => rfl
    rw [written, hflag, hflag, (Json.sortFields_perm _).isEmpty_eq, writtenFields_eq_map,
      List.isEmpty_map]
  | _ => rfl

/-- The texts of the items that are not null. -/
theorem itemTexts_written {xs : List Value} (h : ∀ x ∈ xs, x.isForeign = true ∨ IsPlain x) :
    ((xs.map written).filter fun x => !x.isNull).map text =
      (xs.filter fun x => !x.isNull).map text := by
  rw [List.filter_map, List.map_map, isNull_comp_written]
  exact List.map_congr_left fun x hx => text_written (h x (List.mem_filter.1 hx).1)

theorem givenItems_written (v : Value) : v.written.givenItems = v.givenItems.map written := by
  rw [givenItems, givenItems, items?_written]
  cases v.items? with
  | none => rfl
  | some xs =>
    rw [Option.map_some, Option.getD_some, Option.getD_some, List.filter_map, isNull_comp_written]

/-- What is left of some values is nested as deeply as they are. -/
theorem depths_written (vs : List Value) : (vs.map written).map depth = vs.map depth := by
  rw [List.map_map]
  exact List.map_congr_left fun v _ => depth_written v

theorem choices_written (h : v.isForeign = false) (hitems : v.HasPlainItems) :
    v.written.choices = v.choices := by
  have hraw : v.written.rawChoices = v.rawChoices := by
    cases v with
    | decimal _ | date _ | datetime _ => cases h
    | list xs | tuple xs =>
      rw [written, rawChoices, rawChoices, writtenItems_eq_map]
      exact itemTexts_written hitems
    | _ => rfl
  rw [choices, choices, hraw]

end Value

namespace Filter

variable {room : Room} {v : Value}

/-- Whether a rule reads a list of choices. -/
def Rule.readsChoices : Rule → Bool
  | .oneOf _ | .oneOfOrEqual _ => true
  | _ => false

theorem Rule.listed_of_readsChoices {r : Rule} (h : r.readsChoices = true) :
    r.listed v = v.givenItems := by
  cases r <;> first | rfl | cases h

/-- Whether a rule reads a value from what is left of it. -/
def Rule.IsTold (r : Rule) (v : Value) : Prop :=
  v.isForeign = false ∧ (r.readsChoices = true → v.HasPlainItems)

/-- **A facet is read from what is left of its value.** -/
theorem Rule.condition_written {r : Rule} (h : r.IsTold v) :
    r.condition v.written = r.condition v := by
  obtain ⟨hkind, hitems⟩ := h
  cases r with
  | oneOf c => rw [condition, condition, Value.choices_written hkind (hitems rfl)]
  | oneOfOrEqual c => rw [condition, condition, Value.choices_written hkind (hitems rfl)]
  | whenSet p => rw [condition, condition, Value.flag_written hkind]
  | _ =>
    simp only [condition, whole?, nonzero?, Value.label?_written hkind,
      Value.number?_written hkind]

theorem Rule.isIgnored_written {r : Rule} (h : v.isForeign = false) :
    r.isIgnored v.written = r.isIgnored v := by
  simp only [isIgnored, Value.number?_written h]
  cases v with
  | decimal _ | date _ | datetime _ => cases h
  | _ => rfl

/-- A facet takes texts as deeply nested from what is left of its value. -/
theorem Rule.depths_listed_written {r : Rule} (h : r.IsTold v) :
    (r.listed v.written).map Value.depth = (r.listed v).map Value.depth := by
  have hignored : r.isIgnored v.written = r.isIgnored v := isIgnored_written h.1
  cases r with
  | oneOf c | oneOfOrEqual c =>
    rw [listed, listed, Value.givenItems_written, Value.depths_written]
  | _ =>
    simp only [listed, hignored]
    split
    · exact congrArg (fun n => [n]) (Value.depth_written v)
    · rfl

/-! ## 3. Status and areas -/

/-- Whether a status is read from what is left of it: a mapping is read in the order of its
fields. -/
def IsToldStatus (v : Value) : Prop := (∀ fs, v ≠ .object fs) ∧ v.HasPlainItems

theorem askedLabels_written (h : IsToldStatus v) :
    Status.askedLabels v.written = Status.askedLabels v := by
  obtain ⟨hobject, hitems⟩ := h
  cases v with
  | object fs => exact absurd rfl (hobject fs)
  | list xs | tuple xs =>
    have htexts := congrArg (List.map Status.normalize) (Value.itemTexts_written hitems)
    rw [List.map_map, List.map_map] at htexts
    rw [Value.written, Status.askedLabels, Status.askedLabels, Value.writtenItems_eq_map]
    exact htexts
  | _ => rfl

theorem status_written (h : IsToldStatus v) : Status.condition v.written = Status.condition v := by
  rw [Status.condition, Status.categories, askedLabels_written h, Status.condition,
    Status.categories]

/-- The status takes texts as deeply nested from what is left of its value. -/
theorem depths_status_written (v : Value) :
    (Status.listed v.written).map Value.depth = (Status.listed v).map Value.depth := by
  cases v with
  | list xs =>
    exact (congrArg _ (Value.givenItems_written (.list xs))).trans (Value.depths_written _)
  | tuple xs =>
    exact (congrArg _ (Value.givenItems_written (.tuple xs))).trans (Value.depths_written _)
  | object fs => exact congrArg (fun n => [n]) (Value.depth_written (.object fs))
  | _ => rfl

/-- Whether a rectangle is read from what is left of it. -/
def IsToldBounds (v : Value) : Prop :=
  v.isForeign = false ∧ ∀ x ∈ v.items?.getD [], x.isForeign = false

theorem bounds_written (h : IsToldBounds v) : Area.bounds v.written = Area.bounds v := by
  obtain ⟨hkind, hitems⟩ := h
  cases v with
  | decimal _ | date _ | datetime _ => cases hkind
  | list xs | tuple xs =>
    have hnumbers : (xs.map Value.written).map Value.number? = xs.map Value.number? := by
      rw [List.map_map]
      exact List.map_congr_left fun x hx => Value.number?_written (hitems x hx)
    simp only [Value.written, Value.writtenItems_eq_map, Area.bounds, Area.boundsParts, bind,
      Except.bind, List.length_map, hnumbers]
  | _ => rfl

theorem boundsCondition_written (h : IsToldBounds v) :
    Area.boundsCondition v.written = Area.boundsCondition v := by
  rw [Area.boundsCondition, Value.isBlank_written h.1, bounds_written h, Area.boundsCondition]

/-- A vertex is read from what is left of it: what is no list, and what is no number, is none. -/
theorem polygonVertex?_written (v : Value) :
    Geo.polygonVertex? v.written = Geo.polygonVertex? v := by
  have hcoordinate (x : Value) : Geo.polygonCoordinate? x.written = Geo.polygonCoordinate? x := by
    cases x <;> rfl
  rw [Geo.polygonVertex?, Value.items?_written, Geo.polygonVertex?]
  match v.items? with
  | none | some [] | some [_] => rfl
  | some (x :: y :: r) =>
    simp only [Option.map_some, List.map_cons, hcoordinate]

theorem areVertices_written (vs : List Value) :
    Geo.areVertices (vs.map Value.written) = Geo.areVertices vs := by
  induction vs with
  | nil => rfl
  | cons v vs ih => rw [List.map_cons, Geo.areVertices, polygonVertex?_written, ih, Geo.areVertices]

theorem polygonOfValue_written (v : Value) :
    Area.polygonOfValue v.written = Area.polygonOfValue v := by
  have hcheck : Geo.isPolygon v.written = Geo.isPolygon v := by
    rw [Geo.isPolygon, Value.items?_written, Geo.isPolygon]
    cases v.items? with
    | none => rfl
    | some vs => simp only [Option.map_some, List.length_map, areVertices_written]
  have hplaces : ((v.written.items?.getD []).filterMap fun p =>
      (Geo.polygonVertex? p).bind Except.toOption) =
        (v.items?.getD []).filterMap fun p => (Geo.polygonVertex? p).bind Except.toOption := by
    rw [Value.items?_written]
    cases v.items? with
    | none => rfl
    | some vs =>
      simp only [Option.map_some, Option.getD_some, List.filterMap_map, Function.comp_def,
        polygonVertex?_written]
  rw [Area.polygonOfValue, hcheck, hplaces, Area.polygonOfValue]

theorem polygonCondition_written (h : v.isForeign = false) :
    Area.polygonCondition room v.written = Area.polygonCondition room v := by
  have hpolygon : Area.polygon room v.written = Area.polygon room v := by
    cases v with
    | decimal _ | date _ | datetime _ => cases h
    | list xs => exact polygonOfValue_written (.list xs)
    | tuple xs => exact polygonOfValue_written (.tuple xs)
    | _ => rfl
  rw [Area.polygonCondition, Value.isBlank_written h, hpolygon, Area.polygonCondition]

/-! ## 4. Plans -/

/-- Two values that are equal, or that are both read from what is left of them. -/
def AreTold (isTold : Value → Prop) (v w : Value) : Prop := v = w ∨ isTold v ∧ isTold w

/-- They are read alike when the same is left of them. -/
theorem AreTold.read_eq {β : Type} {isTold : Value → Prop} {v w : Value} (h : AreTold isTold v w)
    {read : Value → β} (hread : ∀ {v}, isTold v → read v.written = read v)
    (hwritten : v.written = w.written) : read v = read w := by
  rcases h with rfl | ⟨hv, hw⟩
  · rfl
  · rw [← hread hv, hwritten, hread hw]

theorem AreTold.symm {isTold : Value → Prop} {v w : Value} (h : AreTold isTold v w) :
    AreTold isTold w v :=
  h.imp Eq.symm And.symm

/-- Filters that are equal where they are not read from what is left of them. -/
structure AreToldFilters (raw raw' : Filters) : Prop where
  /-- Decimals and dates are no facets, and choices are no nested tuples or mappings. -/
  facets : ∀ f ∈ lookupFacets ++ facets, AreTold f.rule.IsTold (get raw f.key) (get raw' f.key)
  status : AreTold IsToldStatus (get raw "status") (get raw' "status")
  sort : AreTold (·.isForeign = false) (get raw "sort") (get raw' "sort")
  bounds : AreTold IsToldBounds (get raw "bounds") (get raw' "bounds")
  polygon : AreTold (·.isForeign = false) (get raw "polygon") (get raw' "polygon")
  /-- School criteria are passed on as they are, kinds and all. -/
  schools : ∀ f ∈ raw, ∀ g ∈ raw', f.1 = g.1 → namesSchool f.1 = true →
    AreTold Value.IsKept f.2 g.2 ∧ (f.2 = g.2 → f.2.same f.2 = true)

/-- Plans of the same conditions and order whose school criteria are equal. -/
structure Plan.Equals (p q : Plan) : Prop where
  terms : p.terms = q.terms
  order : p.order = q.order
  isLookup : p.isLookup = q.isLookup
  schools : (Value.object p.schools).same (.object q.schools) = true
  hasSchools : p.hasSchools = q.hasSchools
  overfetch : p.overfetch = q.overfetch

/-- Outcomes of compiling that are one error, or equal plans. -/
inductive EqualOutcomes : Except Error Plan → Except Error Plan → Prop
  | error (e : Error) : EqualOutcomes (.error e) (.error e)
  | plan {p q : Plan} (h : p.Equals q) : EqualOutcomes (.ok p) (.ok q)

section Plans

variable {raw raw' : Filters}

/-- What is left of a filter is told by what is left of all. -/
theorem get_written (h : IsMapping raw)
    (heq : (Value.object raw).written = (Value.object raw').written) (key : String) :
    (get raw key).written = (get raw' key).written := by
  have hkeys : ((Value.writtenFields raw).map Prod.fst).Nodup := by
    rw [Value.keys_writtenFields]
    exact h
  have hlookup := lookup_of_perm hkeys (Value.writtenFields_perm heq) key
  rw [Value.lookup_writtenFields, Value.lookup_writtenFields] at hlookup
  have hget : ∀ found : Option Value,
      (found.getD .null).written = (found.map Value.written).getD .null := by
    rintro (_ | v) <;> rfl
  rw [get, get, hget, hget, hlookup]

/-- Filters of which the same is left are read alike. -/
theorem AreToldFilters.readsAlike (h : AreToldFilters raw raw')
    (hget : ∀ key, (get raw key).written = (get raw' key).written) :
    ReadsAlike room raw raw' where
  facets f hf := @AreTold.read_eq _ _ _ _ (h.facets f hf) (fun v => f.rule.condition v)
    Rule.condition_written (hget f.key)
  facetTexts f hf := Room.holds_congr <|
    @AreTold.read_eq _ _ _ _ (h.facets f (List.mem_append_right lookupFacets hf))
      (fun v => (f.rule.listed v).map Value.depth) Rule.depths_listed_written (hget f.key)
  statusTexts := Room.holds_congr <| by
    rw [← depths_status_written, hget "status", depths_status_written]
  status := h.status.read_eq status_written (hget "status")
  sort := by
    have hlabel : (get raw "sort").label? = (get raw' "sort").label? :=
      h.sort.read_eq Value.label?_written (hget "sort")
    rw [ResultOrder.ofFilter, hlabel, ResultOrder.ofFilter]
  bounds := h.bounds.read_eq boundsCondition_written (hget "bounds")
  polygon := h.polygon.read_eq polygonCondition_written (hget "polygon")

/-- A school criterion has an equal one in filters of which the same is left. -/
theorem school_counterpart (h : AreToldFilters raw raw')
    (heq : (Value.object raw).written = (Value.object raw').written) {f : String × Value}
    (hf : f ∈ schoolCriteria raw) :
    ∃ g ∈ schoolCriteria raw', g.1 = f.1 ∧ f.2.same g.2 = true := by
  obtain ⟨hf, hschool, hblank⟩ := mem_schoolCriteria_iff.1 hf
  obtain ⟨g, hg, hkey, hwritten⟩ := Value.counterpart heq hf
  obtain ⟨htold, hself⟩ := h.schools f hf g hg hkey.symm hschool
  have hisBlank : g.2.isBlank = false := by
    rw [← htold.read_eq (fun hv => Value.isBlank_written hv.isForeign_eq) hwritten.symm, hblank]
  refine ⟨g, mem_schoolCriteria_iff.2 ⟨hg, hkey.symm ▸ hschool, hisBlank⟩, hkey, ?_⟩
  rcases htold with hsame | ⟨hkept, hkept'⟩
  · rw [← hsame, hself hsame]
  · exact Value.same_of_written_eq hkept hkept' hwritten.symm

theorem AreToldFilters.symm (h : AreToldFilters raw raw') : AreToldFilters raw' raw where
  facets f hf := (h.facets f hf).symm
  status := h.status.symm
  sort := h.sort.symm
  bounds := h.bounds.symm
  polygon := h.polygon.symm
  schools g hg f hf hkey hschool := by
    obtain ⟨htold, hself⟩ := h.schools f hf g hg hkey.symm (hkey ▸ hschool)
    exact ⟨htold.symm, fun heq => heq ▸ hself heq.symm⟩

/-- School criteria of which the same is left are equal. -/
theorem schools_of_written_eq (h : AreToldFilters raw raw') (hraw : IsMapping raw)
    (hraw' : IsMapping raw')
    (heq : (Value.object raw).written = (Value.object raw').written) :
    (Value.object (schoolCriteria raw)).same (.object (schoolCriteria raw')) = true := by
  refine Value.same_object (schoolCriteria_isMapping hraw) (schoolCriteria_isMapping hraw')
    (fun f hf => school_counterpart h heq hf) fun g hg => ?_
  obtain ⟨f, hf, hkey, -⟩ := school_counterpart h.symm heq.symm hg
  exact ⟨f, hf, hkey⟩

/-- Equal mappings are both empty or neither. -/
theorem isEmpty_of_same {fs gs : Filters}
    (h : (Value.object fs).same (.object gs) = true) : fs.isEmpty = gs.isEmpty := by
  rw [Value.same, Bool.and_eq_true, beq_iff_eq] at h
  rw [Bool.eq_iff_iff, List.isEmpty_iff_length_eq_zero, h.1, List.isEmpty_iff_length_eq_zero]

/-- **Filters of which the same is left have equal plans**, or fail alike, when they are
equal where they are not read from what is left. -/
theorem compile_of_written_eq (room : Room) (hraw : IsMapping raw) (hraw' : IsMapping raw')
    (h : AreToldFilters raw raw')
    (heq : (Value.object raw).written = (Value.object raw').written) :
    EqualOutcomes (compile room raw) (compile room raw') := by
  have hreads : ReadsAlike room raw raw' := h.readsAlike (get_written hraw heq)
  rcases hreads.outcomes with ⟨e, he, he'⟩ | ⟨p, q, hp, hq, hsame, hschools, hschools'⟩
  · rw [he, he']
    exact .error e
  · obtain ⟨hterms, horder, hlookup⟩ := Plan.bare_eq_iff.1 hsame
    have hcriteria : (Value.object p.schools).same (.object q.schools) = true := by
      rw [hschools, hschools']
      split
      · rfl
      · exact schools_of_written_eq h hraw hraw' heq
    have hhas : p.hasSchools = q.hasSchools := by
      rw [hasSchools_of_compile hp, hasSchools_of_compile hq, isEmpty_of_same hcriteria]
    have hoverfetch : p.overfetch = q.overfetch := by
      rw [overfetch_of_compile hp, overfetch_of_compile hq, hhas]
    rw [hp, hq]
    exact .plan ⟨hterms, horder, hlookup, hcriteria, hhas, hoverfetch⟩

end Plans

end Filter

end Realty
