/-
# Bounds that overflow

* `wholeKeys` are the keys of the filters that give an integer as a bound, with the bits of its
  type; `Overflows` says of filters that one of these bounds does not fit.
* `fitsIn_condition_iff`: the condition of a facet fits unless it is a bound that does not.
* `slots_fit_iff`: so the integers in the condition of a plan fit unless a bound overflows.
-/
import Realty.Proofs.Filter.Leaves
import Realty.Proofs.Sql.Casts

namespace Realty.Filter

open Sql (FitsBits FitsIn carried integers leaves)

/-! ## 1. Bounds -/

variable {room : Room} {raw : Filters} {p : Plan} {today : Date}

/-- The bits of the integers that the column of a bound can be compared with. -/
def Rule.bits? : Rule → Option Nat
  | .atLeast c | .atMost c => Sql.columnBits? c
  | _ => none

/-- The keys of the filters that give an integer as a bound, with the bits of its type. -/
def wholeKeys : List (String × Nat) :=
  [("min_price", 64), ("max_price", 64), ("beds", 32), ("baths", 32), ("sqft_min", 64),
    ("sqft_max", 64), ("year_built_min", 32), ("year_built_max", 32), ("min_dom", 32),
    ("max_dom", 32), ("garage_spaces_min", 32), ("parking_total_min", 32)]

theorem wholeKeys_eq :
    facets.filterMap (fun f => f.rule.bits?.map fun bits => (f.key, bits)) = wholeKeys := by
  decide +kernel

/-- A bound that the filters give does not fit. -/
def Overflows (raw : Filters) : Prop :=
  lookupConditions raw = [] ∧ ∃ key bits n, (key, bits) ∈ wholeKeys ∧
    whole? (get raw key) = some (.int n) ∧ ¬ FitsBits bits n

/-- Whether the bound of a key does not fit. -/
def overflowsAt (raw : Filters) (key : String) (bits : Nat) : Bool :=
  match whole? (get raw key) with
  | some (.int n) => !decide (FitsBits bits n)
  | _ => false

theorem overflowsAt_iff {key : String} {bits : Nat} :
    overflowsAt raw key bits = true ↔
      ∃ n, whole? (get raw key) = some (.int n) ∧ ¬ FitsBits bits n := by
  unfold overflowsAt
  split
  · next n hn => simp [hn]
  · next hnone => exact ⟨nofun, fun ⟨n, hn, _⟩ => absurd hn (hnone n)⟩

instance (raw : Filters) : Decidable (Overflows raw) :=
  decidable_of_iff ((lookupConditions raw).isEmpty = true ∧
      ∃ k ∈ wholeKeys, overflowsAt raw k.1 k.2 = true) (by
    simp only [Overflows, List.isEmpty_iff, overflowsAt_iff, Prod.exists]
    tauto)

/-! ## 2. Facets -/

/-- Whether the column of a bound can be compared with integers. -/
def Rule.isTyped : Rule → Bool
  | .atLeast c | .atMost c => (Sql.columnBits? c).isSome
  | _ => true

theorem facets_isTyped : ∀ f ∈ lookupFacets ++ facets, f.rule.isTyped = true := by decide +kernel

/-- The fixed conditions fit. -/
theorem fitsIn_fixed : ∀ f ∈ lookupFacets ++ facets, ∀ t ∈ f.rule.fixed, ∀ q ∈ leaves t,
    FitsIn today q := by
  intro f hf t ht
  have hmem := mem_fixedConditions hf ht
  simp only [fixedConditions, List.mem_cons, List.not_mem_nil, or_false] at hmem
  rcases hmem with rfl | rfl | rfl | rfl | rfl | rfl
  · exact List.forall_mem_singleton.2 (Sql.fitsIn_of_integers rfl rfl (List.forall_mem_nil _))
  · exact List.forall_mem_singleton.2 (Sql.fitsIn_of_integers rfl rfl (List.forall_mem_nil _))
  · exact List.forall_mem_singleton.2 (Sql.fitsIn_greaterThan rfl (by decide))
  · exact List.forall_mem_singleton.2 (Sql.fitsIn_greaterThan rfl (by decide))
  · exact List.forall_mem_singleton.2 (Sql.fitsIn_of_integers rfl rfl (List.forall_mem_nil _))
  · exact List.forall_mem_singleton.2 (Sql.fitsIn_exclusiveListing _)

theorem integers_texts (ss : List String) : integers (.list (ss.map .str)) = [] := by
  rw [integers, List.flatMap_map]
  exact List.flatMap_eq_nil_iff.2 fun _ _ => rfl

theorem fitsIn_inList (c : String) (ss : List String) :
    FitsIn today (.inList c (ss.map .str)) :=
  Sql.fitsIn_of_integers rfl rfl (List.forall_mem_singleton.2 (integers_texts ss))

theorem fitsIn_equals (c s : String) : FitsIn today (.equals c (.str s)) :=
  Sql.fitsIn_of_integers rfl rfl (List.forall_mem_singleton.2 rfl)

/-- The condition of a facet that is no bound fits. -/
theorem fitsIn_of_bits?_eq_none {f : Facet} {v : Value} {t : Predicate}
    (hf : f ∈ lookupFacets ++ facets) (ht : f.rule.condition v = some t)
    (hbits : f.rule.bits? = none) : ∀ q ∈ leaves t, FitsIn today q := by
  have hfixed : ∀ t ∈ f.rule.fixed, ∀ q ∈ leaves t, FitsIn today q := fitsIn_fixed f hf
  have htyped := facets_isTyped f hf
  generalize f.rule = r at *
  cases r with
  | oneOf c =>
    obtain rfl := oneOfCondition_eq_some ht
    exact List.forall_mem_singleton.2 (fitsIn_inList c _)
  | oneOfOrEqual c =>
    rw [Rule.condition] at ht
    split at ht
    · cases ht
      exact List.forall_mem_singleton.2 (fitsIn_equals c _)
    · obtain rfl := oneOfCondition_eq_some ht
      exact List.forall_mem_singleton.2 (fitsIn_inList c _)
  | equals c =>
    obtain ⟨s, -, rfl⟩ := Option.map_eq_some_iff.1 ht
    exact List.forall_mem_singleton.2 (fitsIn_equals c s)
  | equalsAny cs =>
    obtain ⟨s, -, rfl⟩ := Option.map_eq_some_iff.1 ht
    refine Sql.forall_mem_leavesOfAll.2 fun t ht => ?_
    obtain ⟨c, -, rfl⟩ := List.mem_map.1 ht
    exact List.forall_mem_singleton.2 (fitsIn_equals c s)
  | contains c =>
    obtain ⟨s, -, rfl⟩ := Option.map_eq_some_iff.1 ht
    exact List.forall_mem_singleton.2
      (Sql.fitsIn_of_integers rfl rfl (List.forall_mem_singleton.2 rfl))
  | atLeast c =>
    rw [Rule.isTyped, show Sql.columnBits? c = none from hbits] at htyped
    cases htyped
  | atMost c =>
    rw [Rule.isTyped, show Sql.columnBits? c = none from hbits] at htyped
    cases htyped
  | lotAtLeast c =>
    obtain ⟨x, -, rfl⟩ := Option.map_eq_some_iff.1 ht
    exact List.forall_mem_singleton.2
      (Sql.fitsIn_of_integers rfl rfl (List.forall_mem_singleton.2 rfl))
  | lotAtMost c =>
    obtain ⟨x, -, rfl⟩ := Option.map_eq_some_iff.1 ht
    exact List.forall_mem_singleton.2
      (Sql.fitsIn_of_integers rfl rfl (List.forall_mem_singleton.2 rfl))
  | listedWithin c =>
    obtain ⟨days, -, rfl⟩ := Option.map_eq_some_iff.1 ht
    refine List.forall_mem_singleton.2 (Sql.fitsIn_of_integers rfl rfl ?_)
    rw [carried]
    split
    · exact List.forall_mem_singleton.2 rfl
    · exact List.forall_mem_nil _
  | whenSet t' =>
    rw [Rule.condition] at ht
    split at ht
    · cases ht
      exact hfixed _ (List.mem_singleton_self _)
    · cases ht

/-- The condition of a bound fits when its integer does. -/
theorem fitsIn_bound_iff {f : Facet} {v : Value} {t : Predicate} {bits : Nat}
    (hf : f ∈ lookupFacets ++ facets) (ht : f.rule.condition v = some t)
    (hbits : f.rule.bits? = some bits) :
    ∃ n, whole? v = some (.int n) ∧ ((∀ q ∈ leaves t, FitsIn today q) ↔ FitsBits bits n) := by
  have hsound := facets_isSound f hf
  generalize f.rule = r at *
  cases r with
  | atLeast c =>
    obtain ⟨amount, hamount, rfl⟩ := Option.map_eq_some_iff.1 ht
    obtain ⟨n, rfl⟩ := whole?_eq_some hamount
    have hrenders := (isPlain_atLeast (hsound.columns c (List.mem_singleton_self c))
      (v := .int n) rfl).renders today
    exact ⟨n, hamount, List.forall_mem_singleton.trans (Sql.fitsIn_range_iff hbits rfl hrenders)⟩
  | atMost c =>
    obtain ⟨amount, hamount, rfl⟩ := Option.map_eq_some_iff.1 ht
    obtain ⟨n, rfl⟩ := whole?_eq_some hamount
    have hrenders := (isPlain_atMost (hsound.columns c (List.mem_singleton_self c))
      (v := .int n) rfl).renders today
    exact ⟨n, hamount, List.forall_mem_singleton.trans (Sql.fitsIn_range_iff hbits rfl hrenders)⟩
  | _ => cases hbits

/-- **The condition of a facet fits** unless it is a bound that does not. -/
theorem fitsIn_condition_iff {f : Facet} {v : Value} {t : Predicate}
    (hf : f ∈ lookupFacets ++ facets) (ht : f.rule.condition v = some t) :
    (∀ q ∈ leaves t, FitsIn today q) ↔
      ∀ bits n, f.rule.bits? = some bits → whole? v = some (.int n) → FitsBits bits n := by
  cases hbits : f.rule.bits? with
  | none => exact ⟨nofun, fun _ => fitsIn_of_bits?_eq_none hf ht hbits⟩
  | some bits =>
    obtain ⟨n, hn, hfits⟩ := fitsIn_bound_iff hf ht hbits
    rw [hfits, hn]
    constructor
    · rintro h bits' n' ⟨⟩ ⟨⟩
      exact h
    · exact fun h => h bits n rfl rfl

/-! ## 3. Plans -/

/-- A bound that is read gives a condition. -/
theorem exists_condition_of_bits? {r : Rule} {v : Value} {bits : Nat} {n : Int}
    (hbits : r.bits? = some bits) (hv : whole? v = some (.int n)) :
    ∃ t, r.condition v = some t := by
  cases r with
  | atLeast c => exact ⟨.atLeast c (.int n), by rw [Rule.condition, hv]; rfl⟩
  | atMost c => exact ⟨.atMost c (.int n), by rw [Rule.condition, hv]; rfl⟩
  | _ => cases hbits

theorem mem_wholeKeys_iff {key : String} {bits : Nat} :
    (key, bits) ∈ wholeKeys ↔ ∃ f ∈ facets, f.key = key ∧ f.rule.bits? = some bits := by
  rw [← wholeKeys_eq, List.mem_filterMap]
  constructor
  · rintro ⟨f, hf, h⟩
    obtain ⟨bits', hbits, heq⟩ := Option.map_eq_some_iff.1 h
    cases heq
    exact ⟨f, hf, rfl, hbits⟩
  · rintro ⟨f, hf, rfl, hbits⟩
    exact ⟨f, hf, by rw [hbits]; rfl⟩

/-- The conditions of the facets fit unless a bound overflows. -/
theorem fitsIn_conditions_iff (hlookup : lookupConditions raw = []) :
    (∀ t ∈ conditions raw facets, ∀ q ∈ leaves t, FitsIn today q) ↔ ¬ Overflows raw := by
  constructor
  · rintro h ⟨-, key, bits, n, hkey, hn, hfits⟩
    obtain ⟨f, hf, rfl, hbits⟩ := mem_wholeKeys_iff.1 hkey
    obtain ⟨t, ht⟩ := exists_condition_of_bits? hbits hn
    have hleaves := h t (mem_conditions.2 ⟨f, hf, ht⟩)
    exact hfits ((fitsIn_condition_iff (List.mem_append_right _ hf) ht).1 hleaves bits n hbits hn)
  · intro h t ht
    obtain ⟨f, hf, hcondition⟩ := mem_conditions.1 ht
    refine (fitsIn_condition_iff (List.mem_append_right _ hf) hcondition).2 ?_
    intro bits n hbits hn
    exact Decidable.byContradiction fun hfits =>
      h ⟨hlookup, f.key, bits, n, mem_wholeKeys_iff.2 ⟨f, hf, rfl, hbits⟩, hn, hfits⟩

theorem fitsIn_lookup : ∀ t ∈ lookupConditions raw, ∀ q ∈ leaves t, FitsIn today q := by
  have hnone : ∀ f ∈ lookupFacets, f.rule.bits? = none := by decide
  intro t ht
  obtain ⟨f, hf, hcondition⟩ := mem_conditions.1 ht
  exact fitsIn_of_bits?_eq_none (List.mem_append_left _ hf) hcondition (hnone f hf)

theorem fitsIn_category (c : Status.Category) : ∀ q ∈ leaves c.condition, FitsIn today q := by
  have harchived (b : Bool) : FitsIn today (.equals "is_archived" (.bool b)) :=
    Sql.fitsIn_of_integers rfl rfl (List.forall_mem_nil _)
  cases c with
  | active =>
    exact List.forall_mem_cons.2
      ⟨harchived _, List.forall_mem_singleton.2 (fitsIn_equals "standard_status" "Active")⟩
  | pending =>
    exact List.forall_mem_cons.2 ⟨harchived _, List.forall_mem_singleton.2
      (fitsIn_inList "standard_status" ["Pending", "Active Under Contract"])⟩
  | sold =>
    exact List.forall_mem_cons.2
      ⟨harchived _, List.forall_mem_singleton.2 (fitsIn_equals "standard_status" "Closed")⟩

theorem fitsIn_status (v : Value) : ∀ q ∈ leaves (Status.condition v), FitsIn today q := by
  have hcategories : ∀ t ∈ (Status.categories v).map Status.Category.condition, ∀ q ∈ leaves t,
      FitsIn today q := by
    intro t ht
    obtain ⟨c, -, rfl⟩ := List.mem_map.1 ht
    exact fitsIn_category c
  unfold Status.condition
  split
  · next t hone =>
    rw [hone] at hcategories
    exact hcategories t (List.mem_singleton_self t)
  · exact Sql.forall_mem_leavesOfAll.2 hcategories

theorem fitsIn_area {q : Predicate} (hq : IsArea q)
    (hraw : ∀ sql params, q = .raw sql params → Sql.IsBoundInOrder sql params) :
    FitsIn today q := by
  cases hq with
  | envelope b =>
    refine Sql.fitsIn_of_carried rfl hraw fun v hv => ?_
    obtain ⟨param, hparam, rfl⟩ := List.mem_map.1 hv
    obtain ⟨x, -, rfl⟩ := List.mem_map.1 hparam
    rfl
  | polygon ring => exact Sql.fitsIn_of_carried rfl hraw (List.forall_mem_singleton.2 rfl)

/-- **The integers in the condition of a plan fit** unless a bound overflows. -/
theorem slots_fit_iff (hp : compile room raw = .ok p) {w : Sql.Clause}
    (hw : Sql.clause today p.condition = .ok w) :
    (∀ piece ∈ w.slots, piece.Fits) ↔ ¬ Overflows raw := by
  have hslots := (Sql.slotsOf_clause _ (isSolid_of_compile hp) hw).2
  have hraw : ∀ sql params, .raw sql params ∈ leaves p.condition → Sql.IsBoundInOrder sql params :=
    fun _ _ => isBoundInOrder_of_compile hp
  rw [Plan.condition, leaves] at hslots hraw
  rw [hslots.fits_iff, Sql.forall_mem_leavesOfAll]
  rcases compile_terms hp with ⟨hterms, hne⟩ | ⟨hlookup, areas, hareas, hterms⟩
  · rw [hterms]
    exact ⟨fun _ h => hne h.1, fun _ => fitsIn_lookup⟩
  · have harea : ∀ t ∈ areas, ∀ q ∈ leaves t, FitsIn today q := by
      intro t ht
      have hleaf : t ∈ Sql.leavesOfAll p.terms := by
        rw [hterms, Sql.leavesOfAll_eq_flatMap]
        obtain ⟨sql, params, rfl, -⟩ := (hareas t ht).eq_raw
        exact List.mem_flatMap.2 ⟨_, List.mem_append_right _ ht, List.mem_singleton_self _⟩
      have hfits : FitsIn today t := fitsIn_area (hareas t ht) fun sql params heq =>
        hraw sql params (heq ▸ hleaf)
      obtain ⟨sql, params, rfl, -⟩ := (hareas t ht).eq_raw
      exact List.forall_mem_singleton.2 hfits
    rw [hterms, List.forall_mem_append, List.forall_mem_cons, ← fitsIn_conditions_iff hlookup]
    exact ⟨fun h => h.1.2, fun h => ⟨⟨fitsIn_status _, h⟩, harea⟩⟩

end Realty.Filter
