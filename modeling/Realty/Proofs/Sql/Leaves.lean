/-
# The values of a tree

The values that a statement binds are carried by the leaves of its condition.

* `leaves` are the nodes of a tree that are no joinings; `carried` are the values of a leaf.
* `isSolid` says of a tree that no joining is without children and no range without bounds, so that
  no constant is made on the way.
* `slotsOf_clause`: the clause of a solid tree has the places for values of its leaves, one leaf
  after the other.  Dropping constants loses nothing, because there are none.
* `values_clause` and `names_clause`: these places hold the carried values, and their names are
  those that the caller's texts give.
-/
import Realty.Proofs.Filter.Mapping
import Realty.Proofs.Sql.Binding
import Realty.Proofs.Sql.Renders

namespace Realty.Sql

/-! ## 1. Leaves -/

mutual

/-- The nodes of a tree that are no joinings, from left to right. -/
def leaves : Predicate → List Predicate
  | .allOf ps => leavesOfAll ps
  | .anyOf ps => leavesOfAll ps
  | p => [p]

/-- The nodes of each tree of a list that are no joinings. -/
def leavesOfAll : List Predicate → List Predicate
  | [] => []
  | p :: ps => leaves p ++ leavesOfAll ps

end

theorem leavesOfAll_eq_flatMap (ps : List Predicate) : leavesOfAll ps = ps.flatMap leaves := by
  induction ps with
  | nil => rfl
  | cons p ps ih => rw [leavesOfAll, ih, List.flatMap_cons]

theorem forall_mem_leavesOfAll {P : Predicate → Prop} {ps : List Predicate} :
    (∀ q ∈ leavesOfAll ps, P q) ↔ ∀ p ∈ ps, ∀ q ∈ leaves p, P q := by
  rw [leavesOfAll_eq_flatMap]
  exact List.forall_mem_flatMap

/-- Whether a node is a joining. -/
def isJoining : Predicate → Bool
  | .allOf _ | .anyOf _ => true
  | _ => false

mutual

theorem isJoining_of_mem_leaves : ∀ p : Predicate, ∀ q ∈ leaves p, isJoining q = false
  | .allOf ps => isJoining_of_mem_leavesOfAll ps
  | .anyOf ps => isJoining_of_mem_leavesOfAll ps
  | .equals .. | .inList .. | .range .. | .greaterThan .. | .columnGreaterThan .. | .like ..
  | .notNull _ | .listedWithin .. | .upcomingOpenHouse | .exclusiveListing _ | .raw ..
  | .other _ => List.forall_mem_singleton.2 rfl

theorem isJoining_of_mem_leavesOfAll : ∀ ps : List Predicate, ∀ q ∈ leavesOfAll ps,
    isJoining q = false
  | [] => nofun
  | p :: ps =>
    List.forall_mem_append.2 ⟨isJoining_of_mem_leaves p, isJoining_of_mem_leavesOfAll ps⟩

end

mutual

/-- Whether no joining of a tree is without children and no range without bounds. -/
def isSolid : Predicate → Bool
  | .range _ a b => !(a.isNull && b.isNull)
  | .allOf ps => !ps.isEmpty && areSolid ps
  | .anyOf ps => !ps.isEmpty && areSolid ps
  | _ => true

/-- Whether every tree of a list is solid. -/
def areSolid : List Predicate → Bool
  | [] => true
  | p :: ps => isSolid p && areSolid ps

end

theorem areSolid_iff {ps : List Predicate} : areSolid ps = true ↔ ∀ p ∈ ps, isSolid p = true := by
  induction ps with
  | nil => simp [areSolid]
  | cons p ps ih => simp [areSolid, ih]

mutual

/-- The caller's texts in a tree are leaves of it. -/
theorem raws_eq_filter : ∀ p : Predicate, raws p = (leaves p).filter isRaw
  | .allOf ps => rawsOfAll_eq_filter ps
  | .anyOf ps => rawsOfAll_eq_filter ps
  | .equals .. | .inList .. | .range .. | .greaterThan .. | .columnGreaterThan .. | .like ..
  | .notNull _ | .listedWithin .. | .upcomingOpenHouse | .exclusiveListing _ | .raw ..
  | .other _ => rfl

theorem rawsOfAll_eq_filter : ∀ ps : List Predicate, rawsOfAll ps = (leavesOfAll ps).filter isRaw
  | [] => rfl
  | p :: ps => by
    rw [rawsOfAll, raws_eq_filter p, rawsOfAll_eq_filter ps, leavesOfAll, List.filter_append]

end

/-! ## 2. Clauses without constants -/

namespace Clause

/-- A clause that is no fresh constant. -/
def IsSettled (c : Clause) : Prop := ∀ b, c.isFresh b = false

theorem isSettled_leaf (ps : List Piece) : (leaf ps).IsSettled := fun _ => rfl

/-- **A joining of settled clauses is settled and holds all of their values.** -/
theorem combine_of_settled {unit : Bool} {join : List Clause → Clause} {cs : List Clause}
    (hjoin : (join cs).IsSettled ∧ (join cs).slots = slotsOfAll cs) (hne : cs ≠ [])
    (h : ∀ c ∈ cs, c.IsSettled) :
    (combine unit join cs).IsSettled ∧ (combine unit join cs).slots = slotsOfAll cs := by
  have hnone : cs.any (isFresh !unit) = false :=
    List.any_eq_false.2 fun c hc => by simp [h c hc (!unit)]
  have hall : (cs.filter fun c => !c.isFresh unit) = cs :=
    List.filter_eq_self.2 fun c hc => by simp [h c hc unit]
  rw [combine, if_neg (by simpa using hne), hnone, if_neg Bool.false_ne_true, hall]
  split
  · exact absurd rfl hne
  · next c => exact ⟨h c (List.mem_singleton_self c), (List.append_nil c.slots).symm⟩
  · exact hjoin

theorem all_of_settled {cs : List Clause} (hne : cs ≠ []) (h : ∀ c ∈ cs, c.IsSettled) :
    (all cs).IsSettled ∧ (all cs).slots = slotsOfAll cs :=
  combine_of_settled ⟨fun _ => rfl, slotsOfAll_flatMap slotsOfAll_conjuncts cs⟩ hne h

theorem any_of_settled {cs : List Clause} (hne : cs ≠ []) (h : ∀ c ∈ cs, c.IsSettled) :
    (any cs).IsSettled ∧ (any cs).slots = slotsOfAll cs :=
  combine_of_settled ⟨fun _ => rfl, slotsOfAll_flatMap slotsOfAll_disjuncts cs⟩ hne h

end Clause

/-! ## 3. The values of a solid tree -/

variable {today : Date}

/-- The places for values in the clauses of some trees, one tree after the other. -/
inductive SlotsOf (today : Date) : List Predicate → List Piece → Prop
  | nil : SlotsOf today [] []
  | cons {p : Predicate} {c : Clause} {ps : List Predicate} {slots : List Piece} :
      clause today p = .ok c → SlotsOf today ps slots → SlotsOf today (p :: ps) (c.slots ++ slots)

namespace SlotsOf

variable {ps qs : List Predicate} {slots slots' : List Piece}

theorem append (h : SlotsOf today ps slots) (h' : SlotsOf today qs slots') :
    SlotsOf today (ps ++ qs) (slots ++ slots') := by
  induction h with
  | nil => exact h'
  | cons hc _ ih =>
    rw [List.append_assoc]
    exact .cons hc ih

theorem singleton {p : Predicate} {c : Clause} (h : clause today p = .ok c) :
    SlotsOf today [p] c.slots := by
  rw [← List.append_nil c.slots]
  exact .cons h .nil

/-- Whatever is read off the places of each tree is read off all of them. -/
theorem filterMap {α : Type} {read : Piece → Option α} {given : Predicate → List α}
    (h : SlotsOf today ps slots)
    (hread : ∀ p ∈ ps, ∀ c, clause today p = .ok c → c.slots.filterMap read = given p) :
    slots.filterMap read = ps.flatMap given := by
  induction h with
  | nil => rfl
  | cons hc _ ih =>
    obtain ⟨hp, hps⟩ := List.forall_mem_cons.1 hread
    rw [List.filterMap_append, List.flatMap_cons, hp _ hc, ih hps]

theorem mem_iff {piece : Piece} (h : SlotsOf today ps slots) :
    piece ∈ slots ↔ ∃ p ∈ ps, ∃ c, clause today p = .ok c ∧ piece ∈ c.slots := by
  induction h with
  | nil => simp
  | @cons p c ps slots hc _ ih => simp [ih, hc]

end SlotsOf

/-- A bound of a range, when it is given. -/
def givenBound (v : Value) : List Value := if v.isNull then [] else [v]

theorem givenBound_eq_nil_iff {v : Value} : givenBound v = [] ↔ v.isNull = true := by
  simp [givenBound]

/-- A bound that is given is a comparison. -/
theorem bound_eq_leaves {c : Column} {operator : String} {v : Value} {cs : List Clause}
    (hc : c ∈ listings.columns) (ho : operator ∈ operators) (h : bound c operator v = .ok cs) :
    cs = (givenBound v).map fun v => .leaf (comparison c operator v) := by
  rcases bound_eq_ok hc ho h with ⟨rfl, rfl⟩ | ⟨hv, rfl, -⟩
  · rfl
  · cases v with
    | null => exact absurd rfl hv
    | _ => rfl

/-- The comparisons of a column with the bounds of a range. -/
def rangeClauses (c : Column) (a b : Value) : List Clause :=
  (givenBound a).map (fun v => .leaf (comparison c ">=" v)) ++
    (givenBound b).map fun v => .leaf (comparison c "<=" v)

theorem rangeClauses_isSettled (c : Column) (a b : Value) :
    ∀ d ∈ rangeClauses c a b, d.IsSettled := by
  intro d hd
  rcases List.mem_append.1 hd with hd | hd
  · obtain ⟨v, -, rfl⟩ := List.mem_map.1 hd
    exact Clause.isSettled_leaf _
  · obtain ⟨v, -, rfl⟩ := List.mem_map.1 hd
    exact Clause.isSettled_leaf _

/-- A range is made of the comparisons with its bounds. -/
theorem range_eq_ok {name : String} {a b : Value} {c : Clause}
    (h : clause today (.range name a b) = .ok c) :
    ∃ d, columnOf name = .ok d ∧ c = .all (rangeClauses d a b) := by
  simp only [clause] at h
  obtain ⟨d, hname, h⟩ := bind_eq_ok_iff.1 h
  obtain ⟨lower, hlower, h⟩ := bind_eq_ok_iff.1 h
  obtain ⟨upper, hupper, h⟩ := bind_eq_ok_iff.1 h
  cases h
  have hd := mem_of_columnOf hname
  rw [bound_eq_leaves hd (by decide) hlower, bound_eq_leaves hd (by decide) hupper]
  exact ⟨d, hname, rfl⟩

/-- A range with a bound is settled. -/
theorem range_isSettled {name : String} {a b : Value} {c : Clause}
    (hp : isSolid (.range name a b) = true) (h : clause today (.range name a b) = .ok c) :
    c.IsSettled := by
  obtain ⟨d, -, rfl⟩ := range_eq_ok h
  refine (Clause.all_of_settled (fun hnil => ?_) (rangeClauses_isSettled d a b)).1
  obtain ⟨hlower, hupper⟩ := List.append_eq_nil_iff.1 hnil
  rw [List.map_eq_nil_iff, givenBound_eq_nil_iff] at hlower hupper
  rw [isSolid, hlower, hupper] at hp
  cases hp

theorem clauses_ne_nil {ps : List Predicate} {cs : List Clause} (hps : ps.isEmpty = false)
    (h : clauses today ps = .ok cs) : cs ≠ [] := by
  cases ps with
  | nil => cases hps
  | cons p ps =>
    obtain ⟨c, -, h⟩ := bind_eq_ok_iff.1 h
    obtain ⟨ds, -, h⟩ := bind_eq_ok_iff.1 h
    cases h
    exact List.cons_ne_nil c ds

mutual

/-- **The clause of a solid tree has the places of its leaves**, one leaf after the other. -/
theorem slotsOf_clause (p : Predicate) {c : Clause} (hp : isSolid p = true)
    (h : clause today p = .ok c) : c.IsSettled ∧ SlotsOf today (leaves p) c.slots := by
  have hleaf (hcomparison : isComparison p = true) (hleaves : leaves p = [p]) :
      c.IsSettled ∧ SlotsOf today (leaves p) c.slots := by
    rw [hleaves]
    refine ⟨?_, .singleton h⟩
    obtain ⟨ps, rfl, -⟩ := clause_eq_leaf hcomparison h
    exact Clause.isSettled_leaf ps
  cases p with
  | allOf ps =>
    obtain ⟨hne, hps⟩ := Bool.and_eq_true_iff.1 hp
    obtain ⟨cs, hcs, rfl⟩ := map_eq_ok_iff.1 h
    obtain ⟨hsettled, hslots⟩ := slotsOf_clauses ps hps hcs
    obtain ⟨hjoined, hall⟩ :=
      Clause.all_of_settled (clauses_ne_nil (Bool.not_eq_true' _ ▸ hne) hcs) hsettled
    exact ⟨hjoined, hall ▸ hslots⟩
  | anyOf ps =>
    obtain ⟨hne, hps⟩ := Bool.and_eq_true_iff.1 hp
    obtain ⟨cs, hcs, rfl⟩ := map_eq_ok_iff.1 h
    obtain ⟨hsettled, hslots⟩ := slotsOf_clauses ps hps hcs
    obtain ⟨hjoined, hany⟩ :=
      Clause.any_of_settled (clauses_ne_nil (Bool.not_eq_true' _ ▸ hne) hcs) hsettled
    exact ⟨hjoined, hany ▸ hslots⟩
  | range name a b => exact ⟨range_isSettled hp h, .singleton h⟩
  | other v => cases h
  | _ => exact hleaf rfl rfl

theorem slotsOf_clauses (ps : List Predicate) {cs : List Clause} (hps : areSolid ps = true)
    (h : clauses today ps = .ok cs) :
    (∀ c ∈ cs, c.IsSettled) ∧ SlotsOf today (leavesOfAll ps) (Clause.slotsOfAll cs) := by
  cases ps with
  | nil =>
    cases h
    exact ⟨nofun, .nil⟩
  | cons p ps =>
    obtain ⟨hp, hps⟩ := Bool.and_eq_true_iff.1 hps
    obtain ⟨c, hc, h⟩ := bind_eq_ok_iff.1 h
    obtain ⟨ds, hds, h⟩ := bind_eq_ok_iff.1 h
    cases h
    obtain ⟨hsettled, hslots⟩ := slotsOf_clause p hp hc
    obtain ⟨hsettled', hslots'⟩ := slotsOf_clauses ps hps hds
    exact ⟨List.forall_mem_cons.2 ⟨hsettled, hsettled'⟩, hslots.append hslots'⟩

end

/-! ## 4. What leaves carry -/

/-- The values that a leaf carries: what is compared with, a list as a whole, the pattern of a term,
the first day of a span, the pattern and the watermark of in-house listings, and the values of a
text.  Null and truth values are not compared with but written out. -/
def carried (today : Date) : Predicate → List Value
  | .equals _ v => if isOrdered v then [v] else []
  | .inList _ vs => [.list vs]
  | .range _ a b => givenBound a ++ givenBound b
  | .greaterThan _ v => [v]
  | .like _ term => [.str (String.ofList (Pattern.containing term.toList))]
  | .listedWithin _ days =>
    match cutoff today days with
    | .ok day => [.date day]
    | .error _ => []
  | .exclusiveListing _ => [.str numberPattern, .int ListingNumber.watermark]
  | .raw _ params => params.map Prod.snd
  | _ => []

/-- The names that a leaf gives to its values. -/
def givenNames : Predicate → List String
  | .raw sql _ => Template.names sql
  | _ => []

/-- A text whose placeholders are the names that are given a value, in their order and each once. -/
structure IsBoundInOrder (sql : String) (params : List (String × Value)) : Prop where
  names : Template.names sql = params.map Prod.fst
  nodup : (params.map Prod.fst).Nodup

theorem slots_comparison (c : Column) (operator : String) (v : Value) :
    values (comparison c operator v) = [.bind ⟨c.name, v, .compared c v⟩] := by
  simp only [comparison, comparedValue]
  split
  · rfl
  · rfl

theorem slotsOfAll_comparisons (c : Column) (operator : String) (vs : List Value) :
    Clause.slotsOfAll (vs.map fun v => .leaf (comparison c operator v)) =
      vs.map fun v => .bind ⟨c.name, v, .compared c v⟩ := by
  induction vs with
  | nil => rfl
  | cons v vs ih =>
    rw [List.map_cons, Clause.slotsOfAll, Clause.slots, slots_comparison, ih, List.map_cons]
    rfl

/-- The places of a range are those of its bounds. -/
theorem slots_range {name : String} {a b : Value} {c : Clause}
    (h : clause today (.range name a b) = .ok c) :
    ∃ d, columnOf name = .ok d ∧
      c.slots = (givenBound a ++ givenBound b).map fun v => .bind ⟨d.name, v, .compared d v⟩ := by
  obtain ⟨d, hname, rfl⟩ := range_eq_ok h
  refine ⟨d, hname, ?_⟩
  have hjoined : (Clause.all (rangeClauses d a b)).slots =
      Clause.slotsOfAll (rangeClauses d a b) := by
    by_cases hne : rangeClauses d a b = []
    · rw [hne]
      rfl
    · exact (Clause.all_of_settled hne (rangeClauses_isSettled d a b)).2
  rw [hjoined, rangeClauses, Clause.slotsOfAll_eq_flatMap, List.flatMap_append,
    ← Clause.slotsOfAll_eq_flatMap, ← Clause.slotsOfAll_eq_flatMap, slotsOfAll_comparisons,
    slotsOfAll_comparisons, List.map_append]

/-- The places of the condition on in-house listings: its pattern and its watermark. -/
theorem slots_exclusiveness (c : Column) : (exclusiveness c).slots =
    [.bind ⟨c.name, .str numberPattern, .compared c (.str numberPattern)⟩,
      .bind ⟨"param", .int ListingNumber.watermark, .bigInteger⟩] := by
  rw [exclusiveness, Clause.slots, List.cons_append]
  show values (comparison c "~" (.str numberPattern) ++ _) = _
  rw [values_append, slots_comparison]
  rfl

/-- The places of a text are its placeholders. -/
theorem slots_fragment {sql : String} {params : List (String × Value)} {c : Clause}
    (h : fragment sql params = .ok c) :
    c.slots = (Template.names sql).map fun name => .named name (placeholderValue params name) := by
  simp only [fragment] at h
  split at h
  · cases h
  · cases h
    rw [Clause.slots, values, Template.names, List.map_filterMap]
    induction Template.scan sql with
    | nil => rfl
    | cons t ts ih =>
      cases t with
      | text cs => exact ih
      | slot name => exact congrArg _ ih

theorem placeholderValue_of_mem {params : List (String × Value)} {q : String × Value}
    (hnodup : (params.map Prod.fst).Nodup) (hq : q ∈ params) :
    placeholderValue params q.1 = q.2 := by
  rw [placeholderValue, ← Filter.lookup_perm hnodup params.reverse_perm.symm]
  induction params with
  | nil => cases hq
  | cons p ps ih =>
    obtain ⟨hp, hps⟩ := List.nodup_cons.1 hnodup
    rcases List.mem_cons.1 hq with rfl | hq
    · rw [List.lookup_cons, beq_self_eq_true]
      rfl
    · have hne : (q.1 == p.1) = false := by
        refine beq_false_of_ne fun heq => hp ?_
        rw [← heq]
        exact List.mem_map_of_mem hq
      rw [List.lookup_cons, hne]
      exact ih hps hq

/-- **The places of a leaf hold the values that it carries.** -/
theorem values_slots {p : Predicate} {c : Clause} (h : clause today p = .ok c)
    (hjoining : isJoining p = false)
    (hraw : ∀ sql params, p = .raw sql params → IsBoundInOrder sql params) :
    c.slots.filterMap Piece.value? = carried today p := by
  cases p with
  | equals name v =>
    obtain ⟨d, -, h⟩ := bind_eq_ok_iff.1 h
    cases h
    cases v with
    | null => rfl
    | bool b => rfl
    | _ =>
      rw [equality, Clause.slots, slots_comparison]
      · rfl
      all_goals exact nofun
  | inList name vs =>
    obtain ⟨d, -, h⟩ := bind_eq_ok_iff.1 h
    cases h
    rfl
  | range name a b =>
    obtain ⟨d, -, hslots⟩ := slots_range h
    rw [hslots, List.filterMap_map, carried]
    exact List.filterMap_some
  | greaterThan name v =>
    obtain ⟨d, hname, h⟩ := bind_eq_ok_iff.1 h
    obtain ⟨rfl, -⟩ := ordered_eq_leaf (mem_of_columnOf hname) (by decide) h
    rw [Clause.slots, slots_comparison]
    rfl
  | columnGreaterThan left right =>
    obtain ⟨l, -, h⟩ := bind_eq_ok_iff.1 h
    obtain ⟨r, -, h⟩ := bind_eq_ok_iff.1 h
    cases h
    rfl
  | like name term =>
    obtain ⟨d, -, h⟩ := bind_eq_ok_iff.1 h
    cases h
    rw [likeness, Clause.slots, values_append, slots_comparison]
    rfl
  | notNull name =>
    obtain ⟨d, -, h⟩ := bind_eq_ok_iff.1 h
    cases h
    rfl
  | listedWithin name days =>
    obtain ⟨day, hday, h⟩ := bind_eq_ok_iff.1 h
    obtain ⟨d, -, h⟩ := bind_eq_ok_iff.1 h
    cases h
    rw [Clause.slots, slots_comparison, carried, hday]
    rfl
  | upcomingOpenHouse =>
    cases h
    rfl
  | exclusiveListing name =>
    obtain ⟨d, -, h⟩ := bind_eq_ok_iff.1 h
    cases h
    rw [slots_exclusiveness]
    rfl
  | raw sql params =>
    obtain ⟨hnames, hnodup⟩ := hraw sql params rfl
    rw [slots_fragment h, hnames, List.map_map, List.filterMap_map, carried]
    have hvalues : ∀ q ∈ params,
        (Piece.value? ∘ (fun name => Piece.named name (placeholderValue params name)) ∘ Prod.fst)
          q = some q.2 := fun q hq => congrArg some (placeholderValue_of_mem hnodup hq)
    rw [List.filterMap_congr hvalues, List.filterMap_eq_map']
  | allOf ps => cases hjoining
  | anyOf ps => cases hjoining
  | other v => cases h

/-- **The places of a leaf have the names that it gives.** -/
theorem names_slots {p : Predicate} {c : Clause} (h : clause today p = .ok c)
    (hjoining : isJoining p = false) : c.slots.filterMap Piece.name? = givenNames p := by
  have hunnamed (hp : isComparison p = true) (hraw : isRaw p = false) :
      c.slots.filterMap Piece.name? = [] := by
    refine List.filterMap_eq_nil_iff.2 fun piece hpiece => ?_
    have hnamed := List.any_eq_false.1 (slots_unnamed hp hraw h) piece hpiece
    cases piece with
    | named name v => exact absurd rfl hnamed
    | _ => rfl
  cases p with
  | raw sql params =>
    rw [slots_fragment h, List.filterMap_map]
    exact List.filterMap_some
  | range name a b =>
    obtain ⟨d, -, hslots⟩ := slots_range h
    rw [hslots, List.filterMap_map]
    exact List.filterMap_eq_nil_iff.2 fun _ _ => rfl
  | allOf ps => cases hjoining
  | anyOf ps => cases hjoining
  | other v => cases h
  | _ => exact hunnamed rfl rfl

/-- **The places of a solid tree hold the values that its leaves carry**, from left to right. -/
theorem values_clause {p : Predicate} {c : Clause} (hp : isSolid p = true)
    (hraws : ∀ sql params, .raw sql params ∈ leaves p → IsBoundInOrder sql params)
    (h : clause today p = .ok c) :
    c.slots.filterMap Piece.value? = (leaves p).flatMap (carried today) :=
  (slotsOf_clause p hp h).2.filterMap fun q hq _ hc =>
    values_slots hc (isJoining_of_mem_leaves p q hq) fun sql params heq =>
      hraws sql params (heq ▸ hq)

/-- The names in a solid tree are those that its texts give. -/
theorem names_clause {p : Predicate} {c : Clause} (hp : isSolid p = true)
    (h : clause today p = .ok c) :
    c.slots.filterMap Piece.name? = (leaves p).flatMap givenNames :=
  (slotsOf_clause p hp h).2.filterMap fun q hq _ hc =>
    names_slots hc (isJoining_of_mem_leaves p q hq)

end Realty.Sql
