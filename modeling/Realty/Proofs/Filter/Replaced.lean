/-
# One filter in place of another

* `readsAlike_single`: values are read alike on their own when what reads their key does so.
* `readsAlike_among`: values that are read alike on their own are read alike among other filters.
* `compile_replaced`: so a plan is the same with one in place of the other, unless they are school
  criteria.
* `compile_null`: a filter that is null is as good as not given.
-/
import Realty.Proofs.Filter.Readings

namespace Realty.Filter

variable {α : Type} {room : Room} {key : String} {v v' : Value}

/-! ## 1. One filter on its own -/

theorem get_single (key : String) (v : Value) : get [(key, v)] key = v := by
  rw [get, List.lookup_cons, beq_self_eq_true]
  rfl

theorem get_single_of_ne {k : String} (h : key ≠ k) (v : Value) : get [(key, v)] k = .null := by
  rw [get, List.lookup_cons, beq_false_of_ne h.symm]
  rfl

/-- Only the key of a filter reads its value. -/
theorem read_single (read : Value → α) {k : String} (h : key = k → read v = read v') :
    read (get [(key, v)] k) = read (get [(key, v')] k) := by
  by_cases hk : key = k
  · subst hk
    rw [get_single, get_single, h rfl]
  · rw [get_single_of_ne hk, get_single_of_ne hk]

/-- Values are read alike under a key when everything that reads the key reads them alike. -/
theorem readsAlike_single
    (hfacets : ∀ f ∈ lookupFacets ++ facets, key = f.key →
      f.rule.condition v = f.rule.condition v')
    (htexts : ∀ f ∈ facets, key = f.key →
      room.holds f.key (f.rule.listed v) = room.holds f.key (f.rule.listed v'))
    (hstatus : key = "status" → Status.condition v = Status.condition v' ∧
      room.holds "status" (Status.listed v) = room.holds "status" (Status.listed v'))
    (hsort : key = "sort" → ResultOrder.ofFilter v = .ofFilter v')
    (hbounds : key = "bounds" → Area.boundsCondition v = Area.boundsCondition v')
    (hpolygon : key = "polygon" →
      Area.polygonCondition room v = Area.polygonCondition room v') :
    ReadsAlike room [(key, v)] [(key, v')] where
  facets f hf := read_single f.rule.condition (hfacets f hf)
  facetTexts f hf := read_single (fun v => room.holds f.key (f.rule.listed v)) (htexts f hf)
  status := read_single Status.condition fun h => (hstatus h).1
  statusTexts := read_single (fun v => room.holds "status" (Status.listed v))
    fun h => (hstatus h).2
  sort := read_single ResultOrder.ofFilter hsort
  bounds := read_single Area.boundsCondition hbounds
  polygon := read_single (Area.polygonCondition room) hpolygon

/-! ## 2. One filter among others -/

/-- A key that two values read alike on their own is read alike among other filters: it is given
before them, by them, or behind them. -/
theorem read_among (read : Value → α) {k : String}
    (h : read (get [(key, v)] k) = read (get [(key, v')] k)) (before after : Filters) :
    read (get (before ++ (key, v) :: after) k) = read (get (before ++ (key, v') :: after) k) := by
  rw [get, get, List.lookup_append, List.lookup_append]
  cases before.lookup k with
  | some x => rfl
  | none =>
    rw [get, get, List.lookup_cons, List.lookup_cons] at h
    rw [List.lookup_cons, List.lookup_cons]
    cases hkey : k == key with
    | false => rfl
    | true =>
      rw [hkey] at h
      exact h

/-- **Values that are read alike on their own are read alike among other filters.** -/
theorem readsAlike_among (h : ReadsAlike room [(key, v)] [(key, v')]) (before after : Filters) :
    ReadsAlike room (before ++ (key, v) :: after) (before ++ (key, v') :: after) where
  facets f hf := read_among f.rule.condition (h.facets f hf) before after
  facetTexts f hf := read_among (fun v => room.holds f.key (f.rule.listed v))
    (h.facetTexts f hf) before after
  status := read_among Status.condition h.status before after
  statusTexts := read_among (fun v => room.holds "status" (Status.listed v)) h.statusTexts before
    after
  sort := read_among ResultOrder.ofFilter h.sort before after
  bounds := read_among Area.boundsCondition h.bounds before after
  polygon := read_among (Area.polygonCondition room) h.polygon before after

/-! ## 3. Plans -/

/-- A filter under another key is no school criterion. -/
theorem schoolCriteria_among (hkey : namesSchool key = false) (v : Value) (before after : Filters) :
    schoolCriteria (before ++ (key, v) :: after) = schoolCriteria (before ++ after) := by
  simp [schoolCriteria, hkey]

/-- **A plan is the same with a value in place of one that is read alike.** -/
theorem compile_replaced (h : ReadsAlike room [(key, v)] [(key, v')])
    (hkey : namesSchool key = false) (before after : Filters) :
    compile room (before ++ (key, v) :: after) = compile room (before ++ (key, v') :: after) := by
  refine compile_eq_of_readsAlike (readsAlike_among h before after) ?_
  rw [schoolCriteria_among hkey, schoolCriteria_among hkey]

/-- A filter that is null is as good as not given. -/
theorem compile_null {before after : Filters} (hafter : ∀ f ∈ after, f.1 ≠ key) :
    compile room (before ++ (key, .null) :: after) = compile room (before ++ after) := by
  have hget : ∀ k, get (before ++ (key, .null) :: after) k = get (before ++ after) k := by
    intro k
    rw [get, get, List.lookup_append, List.lookup_append, List.lookup_cons]
    cases before.lookup k with
    | some x => rfl
    | none =>
      cases hk : k == key with
      | false => rfl
      | true =>
        have habsent : after.lookup k = none := by
          refine List.lookup_eq_none_iff.2 fun f hf => ?_
          rw [eq_of_beq hk]
          exact bne_iff_ne.2 (hafter f hf).symm
        rw [habsent]
        rfl
  have hschools : schoolCriteria (before ++ (key, .null) :: after) =
      schoolCriteria (before ++ after) := by
    simp [schoolCriteria, Value.isBlank]
  exact compile_eq_of_readsAlike (readsAlike_of_get fun k _ => hget k) hschools

end Realty.Filter
