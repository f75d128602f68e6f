/-
# Two-sided filters

* `bound?` is what a condition bounds a column by, on one side; `Plan.bounds` all that a plan does.
* `bounds_of_compile`: these come from the rules for that side of that column alone, and there is
  one in the tables (`wholeRanges_rules`, `lotRange_rules`).
* `acres_le_iff`: lot sizes are read in a unit of their own, each by its size, and this is when
  their order is kept.
* `ranges_ordered`: so whole-number bounds stay in the order in which they were given, and lot sizes
  do unless only the larger one is read as square feet.  `crossedLot_unordered` is such a pair.
-/
import Realty.Proofs.Double.Order
import Realty.Proofs.Filter.Terms

namespace Realty.Filter

/-! ## 1. Bounds -/

/-- A side of a range. -/
inductive Side where
  | least
  | most
deriving DecidableEq

/-- The bound on a side. -/
def Side.pick : Side → Value → Value → Value
  | .least, minimum, _ => minimum
  | .most, _, maximum => maximum

/-- What a condition bounds a column by. -/
def bound? (side : Side) (column : String) : Predicate → Option Value
  | .range c minimum maximum =>
    if c = column ∧ (side.pick minimum maximum).isNull = false then
      some (side.pick minimum maximum)
    else none
  | _ => none

/-- What a plan bounds a column by. -/
def Plan.bounds (p : Plan) (side : Side) (column : String) : List Value :=
  p.terms.filterMap (bound? side column)

/-- The side and the column that a rule bounds. -/
def Rule.side? : Rule → Option (Side × String)
  | .atLeast c | .lotAtLeast c => some (.least, c)
  | .atMost c | .lotAtMost c => some (.most, c)
  | _ => none

/-- What a rule bounds a column by. -/
def Rule.amount? (v : Value) : Rule → Option Value
  | .atLeast _ | .atMost _ => whole? v
  | .lotAtLeast _ | .lotAtMost _ => (nonzero? v).map fun x => .float (lotAcres x)
  | _ => none

section Bounds

variable {side : Side} {column : String} {r : Rule} {v : Value}

theorem bound?_oneOfCondition (c : String) (ss : List String) :
    (oneOfCondition c ss).bind (bound? side column) = none := by
  cases ss <;> rfl

/-- A lower bound bounds its column from below. -/
theorem bound?_atLeast (c : String) {amount : Value} (h : amount.isNull = false) :
    bound? side column (.atLeast c amount) =
      if some (Side.least, c) = some (side, column) then some amount else none := by
  have hnull : Value.null.isNull = true := rfl
  cases side <;> simp [Predicate.atLeast, bound?, Side.pick, h, hnull]

theorem bound?_atMost (c : String) {amount : Value} (h : amount.isNull = false) :
    bound? side column (.atMost c amount) =
      if some (Side.most, c) = some (side, column) then some amount else none := by
  have hnull : Value.null.isNull = true := rfl
  cases side <;> simp [Predicate.atMost, bound?, Side.pick, h, hnull]

theorem isNull_whole? {amount : Value} (h : whole? v = some amount) : amount.isNull = false := by
  obtain ⟨n, rfl⟩ := whole?_eq_some h
  rfl

/-- **A rule bounds its own side of its own column.** -/
theorem bound?_condition (hfixed : ∀ p ∈ r.fixed, bound? side column p = none) :
    (r.condition v).bind (bound? side column) =
      if r.side? = some (side, column) then r.amount? v else none := by
  cases r with
  | oneOf c => exact bound?_oneOfCondition c _
  | oneOfOrEqual c =>
    rw [Rule.condition]
    split
    · rfl
    · exact bound?_oneOfCondition c _
  | equals c | equalsAny c | contains c =>
    rw [Rule.condition]
    cases v.label? <;> rfl
  | atLeast c =>
    rw [Rule.condition, Rule.side?, Rule.amount?]
    cases hv : whole? v with
    | none => simp
    | some amount => exact bound?_atLeast c (isNull_whole? hv)
  | atMost c =>
    rw [Rule.condition, Rule.side?, Rule.amount?]
    cases hv : whole? v with
    | none => simp
    | some amount => exact bound?_atMost c (isNull_whole? hv)
  | lotAtLeast c =>
    rw [Rule.condition, Rule.side?, Rule.amount?]
    cases nonzero? v with
    | none => simp
    | some x => exact bound?_atLeast c rfl
  | lotAtMost c =>
    rw [Rule.condition, Rule.side?, Rule.amount?]
    cases nonzero? v with
    | none => simp
    | some x => exact bound?_atMost c rfl
  | listedWithin c =>
    rw [Rule.condition]
    cases whole? v <;> rfl
  | whenSet p =>
    rw [Rule.condition]
    split
    · exact hfixed p (List.mem_singleton_self p)
    · rfl

end Bounds

/-! ## 2. Plans -/

variable {room : Room} {raw : Filters} {p : Plan} {side : Side} {column : String}

theorem bound?_fixed {f : Facet} (hf : f ∈ lookupFacets ++ facets) :
    ∀ t ∈ f.rule.fixed, bound? side column t = none := by
  intro t ht
  have hmem := mem_fixedConditions hf ht
  simp only [fixedConditions, List.mem_cons, List.not_mem_nil, or_false] at hmem
  rcases hmem with rfl | rfl | rfl | rfl | rfl | rfl <;> rfl

theorem bound?_status (v : Value) : bound? side column (Status.condition v) = none := by
  have hcategories : ∀ t ∈ (Status.categories v).map Status.Category.condition,
      bound? side column t = none := by
    intro t ht
    obtain ⟨c, -, rfl⟩ := List.mem_map.1 ht
    rfl
  unfold Status.condition
  split
  · next t hone =>
    rw [hone] at hcategories
    exact hcategories t (List.mem_singleton_self t)
  · rfl

/-- A search that looks no listing up has no conditions that do. -/
theorem lookupConditions_eq_nil (hp : compile room raw = .ok p) (hlookup : p.isLookup = false) :
    lookupConditions raw = [] := by
  rcases compile_cases hp with ⟨-, rfl⟩ | ⟨hnil, -⟩
  · cases hlookup
  · exact hnil

/-- The facets that bound a side of a column. -/
def boundingFacets (side : Side) (column : String) : List Facet :=
  facets.filter fun f => f.rule.side? = some (side, column)

/-- **A plan bounds a column by what the facets for it say**, and by nothing else. -/
theorem bounds_of_compile (hp : compile room raw = .ok p) (hlookup : p.isLookup = false) :
    p.bounds side column =
      (boundingFacets side column).filterMap fun f => f.rule.amount? (get raw f.key) := by
  have hnil := lookupConditions_eq_nil hp hlookup
  rcases compile_terms hp with ⟨-, hne⟩ | ⟨-, areas, hareas, hterms⟩
  · exact absurd hnil hne
  · have hareas' : areas.filterMap (bound? side column) = [] := by
      refine List.filterMap_eq_nil_iff.2 fun t ht => ?_
      obtain ⟨sql, params, rfl, -⟩ := (hareas t ht).eq_raw
      rfl
    have hfacets : (conditions raw facets).filterMap (bound? side column) =
        (boundingFacets side column).filterMap fun f => f.rule.amount? (get raw f.key) := by
      rw [conditions, List.filterMap_filterMap, boundingFacets, List.filterMap_filter]
      refine List.filterMap_congr fun f hf => ?_
      rw [bound?_condition (bound?_fixed (List.mem_append_right _ hf))]
      simp
    rw [Plan.bounds, hterms, List.filterMap_append, List.filterMap_cons, bound?_status, hareas',
      List.append_nil, hfacets]

/-! ## 3. Two-sided filters -/

/-- Two keys that bound a column on either side. -/
structure TwoSided where
  minimum : String
  maximum : String
  column : String

/-- The two-sided filters on whole numbers. -/
def wholeRanges : List TwoSided :=
  [⟨"min_price", "max_price", "list_price"⟩, ⟨"sqft_min", "sqft_max", "living_area"⟩,
    ⟨"year_built_min", "year_built_max", "year_built"⟩, ⟨"min_dom", "max_dom", "days_on_market"⟩]

/-- The two-sided filter on lot sizes. -/
def lotRange : TwoSided := ⟨"lot_size_min", "lot_size_max", "lot_size_acres"⟩

theorem wholeRanges_rules : ∀ r ∈ wholeRanges,
    boundingFacets .least r.column = [⟨r.minimum, .atLeast r.column⟩] ∧
      boundingFacets .most r.column = [⟨r.maximum, .atMost r.column⟩] := by
  simp only [wholeRanges, List.forall_mem_cons]
  exact ⟨⟨rfl, rfl⟩, ⟨rfl, rfl⟩, ⟨rfl, rfl⟩, ⟨rfl, rfl⟩, List.forall_mem_nil _⟩

theorem lotRange_rules :
    boundingFacets .least lotRange.column = [⟨lotRange.minimum, .lotAtLeast lotRange.column⟩] ∧
      boundingFacets .most lotRange.column = [⟨lotRange.maximum, .lotAtMost lotRange.column⟩] :=
  ⟨rfl, rfl⟩

/-- Both sides of a filter are given, as numbers that are not zero, the smaller one first. -/
structure GivesRange (raw : Filters) (r : TwoSided) (x y : Float) : Prop where
  minimum : (get raw r.minimum).number? = some x
  maximum : (get raw r.maximum).number? = some y
  minimum_ne_zero : Double.isZero x = false
  maximum_ne_zero : Double.isZero y = false
  ordered : x ≤ y

theorem isFinite_of_finite? {x y : Float} (h : Value.finite? x = some y) :
    Double.isFinite y = true := by
  unfold Value.finite? at h
  split at h
  · next hx => exact Option.some.inj h ▸ hx
  · cases h

/-- A filter says finite numbers only. -/
theorem isFinite_of_number? {v : Value} {x : Float} (h : v.number? = some x) :
    Double.isFinite x = true := by
  cases v with
  | int n => exact isFinite_of_finite? h
  | float y => exact isFinite_of_finite? h
  | str s =>
    obtain ⟨n, -, hn⟩ := Option.bind_eq_some_iff.1 h
    exact isFinite_of_finite? hn
  | _ => cases h

theorem nonzero?_eq {v : Value} {x : Float} (h : v.number? = some x)
    (hzero : Double.isZero x = false) : nonzero? v = some x := by
  rw [nonzero?, h, Option.filter_some, hzero]
  rfl

/-! ## 4. Order -/

/-- A lot size in acres, in exact arithmetic. -/
def exactAcres (size : ℚ) : ℚ := acres (lotSizeThreshold : ℚ) squareFeetPerAcre size

/-- **Lot sizes stay in order** unless the larger one alone is read as square feet, and is less in
acres than the smaller one. -/
theorem exactAcres_le_iff {s t : ℚ} (h : s ≤ t) :
    exactAcres s ≤ exactAcres t ↔ ¬ (s ≤ 100 ∧ 100 < t ∧ t < 43560 * s) := by
  have hthreshold : (lotSizeThreshold : ℚ) = 100 := rfl
  have hperAcre : (squareFeetPerAcre : ℚ) = 43560 := rfl
  rw [exactAcres, exactAcres, acres, acres, hthreshold, hperAcre]
  by_cases hs : 100 < s
  · have ht : 100 < t := hs.trans_le h
    rw [if_pos hs, if_pos ht]
    exact iff_of_true (by linarith) fun hcrossed => hs.not_ge hcrossed.1
  · by_cases ht : 100 < t
    · rw [if_neg hs, if_pos ht, le_div_iff₀ (by norm_num), mul_comm]
      constructor
      · exact fun hle hcrossed => hcrossed.2.2.not_ge hle
      · exact fun hkept => le_of_not_gt fun hlt => hkept ⟨not_lt.1 hs, ht, hlt⟩
    · rw [if_neg hs, if_neg ht]
      exact iff_of_true h fun hcrossed => ht hcrossed.2.1

namespace GivesRange

variable {r : TwoSided} {x y : Float}

/-- The numbers of a range are in the order of their values. -/
theorem exists_values (h : GivesRange raw r x y) :
    ∃ s t, Double.toRat? x = some s ∧ Double.toRat? y = some t ∧ s ≤ t ∧
      Double.truncate? x = some (Double.towardZero s) ∧
      Double.truncate? y = some (Double.towardZero t) := by
  obtain ⟨_, m, e, hx⟩ := Double.decode_of_isFinite (isFinite_of_number? h.minimum)
  obtain ⟨_, n, f, hy⟩ := Double.decode_of_isFinite (isFinite_of_number? h.maximum)
  exact ⟨_, _, Double.toRat?_eq hx, Double.toRat?_eq hy, (Double.le_iff_value hx hy).1 h.ordered,
    Double.truncate?_eq hx, Double.truncate?_eq hy⟩

/-- **Bounds that are cut to whole numbers stay in order.** -/
theorem whole (h : GivesRange raw r x y) (hr : r ∈ wholeRanges) (hp : compile room raw = .ok p)
    (hlookup : p.isLookup = false) :
    ∃ a b : Int, Double.truncate? x = some a ∧ Double.truncate? y = some b ∧
      p.bounds .least r.column = [.int a] ∧ p.bounds .most r.column = [.int b] ∧ a ≤ b := by
  obtain ⟨s, t, -, -, hle, hx, hy⟩ := h.exists_values
  obtain ⟨hleast, hmost⟩ := wholeRanges_rules r hr
  refine ⟨_, _, hx, hy, ?_, ?_, Double.towardZero_mono hle⟩
  · rw [bounds_of_compile hp hlookup, hleast]
    simp [Rule.amount?, whole?, nonzero?_eq h.minimum h.minimum_ne_zero, hx]
  · rw [bounds_of_compile hp hlookup, hmost]
    simp [Rule.amount?, whole?, nonzero?_eq h.maximum h.maximum_ne_zero, hy]

/-- Lot sizes bound their column in acres. -/
theorem lot (h : GivesRange raw lotRange x y) (hp : compile room raw = .ok p)
    (hlookup : p.isLookup = false) :
    p.bounds .least lotRange.column = [.float (lotAcres x)] ∧
      p.bounds .most lotRange.column = [.float (lotAcres y)] := by
  obtain ⟨hleast, hmost⟩ := lotRange_rules
  constructor
  · rw [bounds_of_compile hp hlookup, hleast]
    simp [Rule.amount?, nonzero?_eq h.minimum h.minimum_ne_zero]
  · rw [bounds_of_compile hp hlookup, hmost]
    simp [Rule.amount?, nonzero?_eq h.maximum h.maximum_ne_zero]

end GivesRange

/-- **Two-sided filters keep the order of their bounds, lot sizes in different units apart.**  When
both sides are given as numbers that are not zero, the smaller one first, a plan bounds the column
once on either side.  Bounds on prices, areas, years and days are cut to whole numbers in the same
order.  Bounds on lot sizes are put into acres one by one, and in exact arithmetic they are in the
same order unless the larger one alone is above a hundred, so that it is read as square feet, and
is less than the smaller one in acres. -/
theorem ranges_ordered (hp : compile room raw = .ok p) (hlookup : p.isLookup = false) :
    (∀ r ∈ wholeRanges, ∀ x y, GivesRange raw r x y →
      ∃ a b : Int, Double.truncate? x = some a ∧ Double.truncate? y = some b ∧
        p.bounds .least r.column = [.int a] ∧ p.bounds .most r.column = [.int b] ∧ a ≤ b) ∧
      ∀ x y, GivesRange raw lotRange x y →
        ∃ s t : ℚ, Double.toRat? x = some s ∧ Double.toRat? y = some t ∧ s ≤ t ∧
          p.bounds .least lotRange.column = [.float (lotAcres x)] ∧
          p.bounds .most lotRange.column = [.float (lotAcres y)] ∧
          (exactAcres s ≤ exactAcres t ↔ ¬ (s ≤ 100 ∧ 100 < t ∧ t < 43560 * s)) := by
  refine ⟨fun r hr x y h => h.whole hr hp hlookup, fun x y h => ?_⟩
  obtain ⟨s, t, hs, ht, hle, -⟩ := h.exists_values
  obtain ⟨hleast, hmost⟩ := h.lot hp hlookup
  exact ⟨s, t, hs, ht, hle, hleast, hmost, exactAcres_le_iff hle⟩

/-- Listings of the last week, on at most 30000 square feet and at least half an acre. -/
def weekOfHalfAcres : Filters :=
  [("min_dom", .str "-2.5"), ("max_dom", .int 7), ("lot_size_min", .str "0.5"),
    ("lot_size_max", .str "30,000")]

theorem ranges_ordered_weekOfHalfAcres :
    ∃ p, compile .standard weekOfHalfAcres = .ok p ∧ p.isLookup = false ∧
      p.bounds .least "days_on_market" = [.int (-2)] ∧
      p.bounds .most "days_on_market" = [.int 7] ∧ exactAcres (1 / 2) ≤ exactAcres 30000 := by
  obtain ⟨p, hp, hlookup⟩ : ∃ p, compile .standard weekOfHalfAcres = .ok p ∧ p.isLookup = false :=
    ⟨_, rfl, rfl⟩
  have hdays : GivesRange weekOfHalfAcres ⟨"min_dom", "max_dom", "days_on_market"⟩
      (-Double.ofScaled 25 (-1)) (Double.ofInt 7) :=
    ⟨rfl, rfl, by decide +kernel, by decide +kernel, by decide +kernel⟩
  have hlot : GivesRange weekOfHalfAcres lotRange (Double.ofScaled 5 (-1)) (Double.ofInt 30000) :=
    ⟨rfl, rfl, by decide +kernel, by decide +kernel, by decide +kernel⟩
  obtain ⟨hwhole, hlots⟩ := ranges_ordered hp hlookup
  obtain ⟨a, b, ha, hb, hleast, hmost, -⟩ := hwhole _ (by simp [wholeRanges]) _ _ hdays
  obtain ⟨s, t, hs, ht, -, -, -, hordered⟩ := hlots _ _ hlot
  have hcut : Double.truncate? (-Double.ofScaled 25 (-1)) = some (-2) := by decide +kernel
  have hkept : Double.truncate? (Double.ofInt 7) = some 7 := by decide +kernel
  have hhalf : Double.toRat? (Double.ofScaled 5 (-1)) = some (1 / 2) := by decide +kernel
  have hfeet : Double.toRat? (Double.ofInt 30000) = some 30000 := by decide +kernel
  obtain rfl := Option.some.inj (ha.symm.trans hcut)
  obtain rfl := Option.some.inj (hb.symm.trans hkept)
  obtain rfl := Option.some.inj (hs.symm.trans hhalf)
  obtain rfl := Option.some.inj (ht.symm.trans hfeet)
  exact ⟨p, hp, hlookup, hleast, hmost, hordered.2 (by norm_num)⟩

/-- Lots of at least 50 acres and at most 200 square feet. -/
def crossedLot : Filters := [("lot_size_min", .str "50"), ("lot_size_max", .str "200")]

/-- **Lot sizes in different units can change their order**: 50 is at most 200, but 50 acres are
more than 200 square feet, in exact arithmetic and as doubles. -/
theorem crossedLot_unordered :
    ∃ p x y, compile .standard crossedLot = .ok p ∧ p.isLookup = false ∧
      GivesRange crossedLot lotRange x y ∧ Double.toRat? x = some 50 ∧ Double.toRat? y = some 200 ∧
      p.bounds .least "lot_size_acres" = [.float (lotAcres x)] ∧
      p.bounds .most "lot_size_acres" = [.float (lotAcres y)] ∧
      exactAcres 200 < exactAcres 50 ∧ lotAcres y < lotAcres x := by
  obtain ⟨p, hp, hlookup⟩ : ∃ p, compile .standard crossedLot = .ok p ∧ p.isLookup = false :=
    ⟨_, rfl, rfl⟩
  have hlot : GivesRange crossedLot lotRange (Double.ofInt 50) (Double.ofInt 200) :=
    ⟨rfl, rfl, by decide +kernel, by decide +kernel, by decide +kernel⟩
  obtain ⟨hleast, hmost⟩ := hlot.lot hp hlookup
  have hexact : exactAcres 200 < exactAcres 50 := by
    refine lt_of_not_ge fun hle => ?_
    exact (exactAcres_le_iff (by norm_num)).1 hle (by norm_num)
  exact ⟨p, _, _, hp, hlookup, hlot, by decide +kernel, by decide +kernel, hleast, hmost, hexact,
    by decide +kernel⟩

end Realty.Filter
