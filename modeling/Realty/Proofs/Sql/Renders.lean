/-
# Which trees are rendered

Every node of a tree asks for something: columns that the table has, values with an order, days that
lead to a date, placeholders that the caller's text has.

* `renders` says whether all nodes of a tree have what they ask for.
* `clause_isOk`: a tree becomes a clause exactly then.  No constant settles a joining before all of
  its parts have been tried.
* `namesFrom_clause`: the names in the clause of a tree are placeholders of the caller's texts in
  it.
-/
import Realty.Proofs.Sql.Meaning
import Realty.Proofs.Sql.Params

namespace Realty.Sql

/-! ## 1. What nodes ask for -/

/-- Whether the listings have a column. -/
def hasColumn (name : String) : Bool := (listings.find? name).isSome

/-- Whether a value can be compared by order. -/
def isOrdered : Value → Bool
  | .null | .bool _ => false
  | _ => true

/-- Whether every name that is given a value is a placeholder of the text. -/
def fitsText (sql : String) (params : List (String × Value)) : Bool :=
  params.all fun (name, _) => (Template.names sql).contains name

section Renders

variable (today : Date)

mutual

/-- Whether every node of a tree has what it asks for. -/
def renders : Predicate → Bool
  | .equals c _ => hasColumn c
  | .inList c _ => hasColumn c
  | .range c a b => hasColumn c && ((a.isNull || isOrdered a) && (b.isNull || isOrdered b))
  | .greaterThan c v => hasColumn c && isOrdered v
  | .columnGreaterThan l r => hasColumn l && hasColumn r
  | .like c _ => hasColumn c
  | .notNull c => hasColumn c
  | .listedWithin c days => (cutoff today days).isOk && hasColumn c
  | .upcomingOpenHouse => true
  | .exclusiveListing c => hasColumn c
  | .raw sql params => fitsText sql params
  | .allOf ps => rendersAll ps
  | .anyOf ps => rendersAll ps
  | .other _ => false

/-- Whether every node of each tree of a list has what it asks for. -/
def rendersAll : List Predicate → Bool
  | [] => true
  | p :: ps => renders p && rendersAll ps

end

end Renders

variable {today : Date}

theorem rendersAll_iff {ps : List Predicate} :
    rendersAll today ps = true ↔ ∀ p ∈ ps, renders today p = true := by
  induction ps with
  | nil => simp [rendersAll]
  | cons p ps ih => simp [rendersAll, ih]

/-! ## 2. Steps -/

/-- Two steps succeed when the first does and the second does after it. -/
theorem isOk_bind {ε α β : Type} {x : Except ε α} {f : α → Except ε β} {b : Bool}
    (h : ∀ a, (f a).isOk = b) : (x >>= f).isOk = (x.isOk && b) := by
  cases x with
  | error e => rfl
  | ok a => exact h a

theorem isOk_bind_pure {ε α β : Type} (f : α → β) (x : Except ε α) :
    (x >>= fun a => pure (f a)).isOk = x.isOk := by
  cases x <;> rfl

theorem isOk_map {ε α β : Type} (f : α → β) (x : Except ε α) : (x.map f).isOk = x.isOk := by
  cases x <;> rfl

theorem columnOf_isOk (name : String) : (columnOf name).isOk = hasColumn name := by
  unfold columnOf hasColumn
  cases listings.find? name <;> rfl

theorem ordered_isOk (c : Column) (operator : String) (v : Value) :
    (ordered c operator v).isOk = isOrdered v := by
  cases v <;> rfl

theorem bound_isOk (c : Column) (operator : String) (v : Value) :
    (bound c operator v).isOk = (v.isNull || isOrdered v) := by
  cases v <;> rfl

theorem fragment_isOk (sql : String) (params : List (String × Value)) :
    (fragment sql params).isOk = fitsText sql params := by
  simp only [fragment, fitsText]
  split
  · next name v hfind =>
    have hfound := List.find?_some hfind
    have hmem := List.mem_of_find?_eq_some hfind
    refine (Bool.eq_false_iff.2 fun hall => ?_).symm
    have hname := List.all_eq_true.1 hall _ hmem
    rw [Bool.not_eq_true'] at hfound
    exact Bool.false_ne_true (hfound.symm.trans hname)
  · next hnone =>
    refine (List.all_eq_true.2 fun q hq => ?_).symm
    simpa using List.find?_eq_none.1 hnone q hq

/-! ## 3. Trees -/

mutual

/-- **A tree becomes a clause exactly when every node has what it asks for.** -/
theorem clause_isOk : ∀ p : Predicate, (clause today p).isOk = renders today p
  | .equals c v => by rw [clause, isOk_bind_pure, columnOf_isOk, renders]
  | .inList c vs => by rw [clause, isOk_bind_pure, columnOf_isOk, renders]
  | .range c a b => by
    rw [clause, renders, ← columnOf_isOk]
    refine isOk_bind fun d => ?_
    rw [← bound_isOk d ">=" a, ← bound_isOk d "<=" b]
    exact isOk_bind fun lower => isOk_bind_pure ..
  | .greaterThan c v => by
    rw [clause, renders, ← columnOf_isOk]
    exact isOk_bind fun d => ordered_isOk d ">" v
  | .columnGreaterThan l r => by
    rw [clause, renders, ← columnOf_isOk, ← columnOf_isOk]
    exact isOk_bind fun c => isOk_bind_pure ..
  | .like c term => by rw [clause, isOk_bind_pure, columnOf_isOk, renders]
  | .notNull c => by rw [clause, isOk_bind_pure, columnOf_isOk, renders]
  | .listedWithin c days => by
    rw [clause, renders, ← columnOf_isOk]
    exact isOk_bind fun d => isOk_bind_pure ..
  | .upcomingOpenHouse => rfl
  | .exclusiveListing c => by rw [clause, isOk_bind_pure, columnOf_isOk, renders]
  | .raw sql params => fragment_isOk sql params
  | .allOf ps => by rw [clause, isOk_map, clauses_isOk ps, renders]
  | .anyOf ps => by rw [clause, isOk_map, clauses_isOk ps, renders]
  | .other v => rfl

theorem clauses_isOk : ∀ ps : List Predicate, (clauses today ps).isOk = rendersAll today ps
  | [] => rfl
  | p :: ps => by
    rw [clauses, rendersAll, ← clause_isOk p, ← clauses_isOk ps]
    exact isOk_bind fun c => isOk_bind_pure ..

end

theorem exists_clause_iff {p : Predicate} :
    (∃ c, clause today p = .ok c) ↔ renders today p = true := by
  rw [← clause_isOk]
  cases clause today p with
  | error e => simp [Except.toBool]
  | ok c => simp [Except.toBool]

/-! ## 4. Names -/

/-- Whether the caller has named a value. -/
def Piece.isNamed : Piece → Bool
  | .named .. => true
  | _ => false

theorem comparison_unnamed (c : Column) (operator : String) (v : Value) :
    (comparison c operator v).any Piece.isNamed = false := by
  simp only [comparison, comparedValue]
  split
  · rfl
  · rfl

/-- The values in a leaf whose pieces the caller has not named. -/
theorem slots_leaf_unnamed {ps : List Piece} (h : ps.any Piece.isNamed = false) :
    (Clause.leaf ps).slots.any Piece.isNamed = false := by
  rw [List.any_eq_false] at *
  exact fun p hp => h p (List.filter_sublist.subset hp)

theorem equality_unnamed (c : Column) (v : Value) :
    (equality c v).slots.any Piece.isNamed = false := by
  cases v with
  | null => rfl
  | bool b => rfl
  | _ => exact slots_leaf_unnamed (comparison_unnamed c "=" _)

theorem ordered_unnamed {c : Column} {operator : String} {v : Value} {d : Clause}
    (h : ordered c operator v = .ok d) : d.slots.any Piece.isNamed = false := by
  unfold ordered at h
  split at h
  · cases h
  · cases h
  · cases h
    exact slots_leaf_unnamed (comparison_unnamed c operator v)

theorem bound_unnamed {c : Column} {operator : String} {v : Value} {cs : List Clause}
    (h : bound c operator v = .ok cs) : (Clause.slotsOfAll cs).any Piece.isNamed = false := by
  have hgiven (h : (ordered c operator v).map (fun d => [d]) = .ok cs) :
      (Clause.slotsOfAll cs).any Piece.isNamed = false := by
    obtain ⟨d, hd, rfl⟩ := map_eq_ok_iff.1 h
    rw [Clause.slotsOfAll, Clause.slotsOfAll, List.append_nil]
    exact ordered_unnamed hd
  cases v with
  | null =>
    cases h
    rfl
  | _ => exact hgiven h

/-- **A node that is written as it stands brings no names**, unless it is the caller's text. -/
theorem slots_unnamed {p : Predicate} {c : Clause} (hp : isComparison p = true)
    (hraw : isRaw p = false) (h : clause today p = .ok c) :
    c.slots.any Piece.isNamed = false := by
  cases p with
  | equals name v =>
    obtain ⟨d, -, h⟩ := bind_eq_ok_iff.1 h
    cases h
    exact equality_unnamed d v
  | inList name vs =>
    obtain ⟨d, -, h⟩ := bind_eq_ok_iff.1 h
    cases h
    rfl
  | greaterThan name v =>
    obtain ⟨d, -, h⟩ := bind_eq_ok_iff.1 h
    exact ordered_unnamed h
  | columnGreaterThan left right =>
    obtain ⟨l, -, h⟩ := bind_eq_ok_iff.1 h
    obtain ⟨r, -, h⟩ := bind_eq_ok_iff.1 h
    cases h
    rfl
  | like name term =>
    obtain ⟨d, -, h⟩ := bind_eq_ok_iff.1 h
    cases h
    refine slots_leaf_unnamed ?_
    rw [List.any_append, comparison_unnamed]
    rfl
  | notNull name =>
    obtain ⟨d, -, h⟩ := bind_eq_ok_iff.1 h
    cases h
    rfl
  | listedWithin name days =>
    obtain ⟨day, -, h⟩ := bind_eq_ok_iff.1 h
    obtain ⟨d, -, h⟩ := bind_eq_ok_iff.1 h
    cases h
    exact slots_leaf_unnamed (comparison_unnamed d ">=" _)
  | upcomingOpenHouse =>
    cases h
    rfl
  | exclusiveListing name =>
    obtain ⟨d, -, h⟩ := bind_eq_ok_iff.1 h
    cases h
    refine slots_leaf_unnamed ?_
    rw [List.cons_append, List.any_cons, List.any_append, comparison_unnamed]
    rfl
  | raw sql params => cases hraw
  | range name a b => cases hp
  | allOf ps => cases hp
  | anyOf ps => cases hp
  | other v => cases hp

/-- The names in the caller's text are its placeholders. -/
theorem named_mem_fragment {sql : String} {params : List (String × Value)} {c : Clause}
    (h : fragment sql params = .ok c) {name : String} {v : Value}
    (hname : .named name v ∈ c.slots) : name ∈ Template.names sql := by
  simp only [fragment] at h
  split at h
  · cases h
  · cases h
    obtain ⟨t, ht, hpiece⟩ := List.mem_map.1 (mem_values_named.1 hname)
    cases t with
    | text cs => cases hpiece
    | slot cs =>
      cases hpiece
      exact List.mem_filterMap.2 ⟨_, ht, rfl⟩

/-- Where the names of a clause come from. -/
def NamesFrom (ps : List Predicate) (slots : List Piece) : Prop :=
  ∀ name v, .named name v ∈ slots →
    ∃ sql params, .raw sql params ∈ ps ∧ name ∈ Template.names sql

theorem namesFrom_of_unnamed {ps : List Predicate} {slots : List Piece}
    (h : slots.any Piece.isNamed = false) : NamesFrom ps slots := fun _ _ hname =>
  absurd rfl (List.any_eq_false.1 h _ hname)

mutual

/-- **The names in the clause of a tree are placeholders of the caller's texts in it.** -/
theorem namesFrom_clause (p : Predicate) {c : Clause} (h : clause today p = .ok c) :
    NamesFrom (raws p) c.slots := by
  have hleaf (hp : isComparison p = true) (hraw : isRaw p = false) :
      NamesFrom (raws p) c.slots := namesFrom_of_unnamed (slots_unnamed hp hraw h)
  cases p with
  | allOf ps =>
    obtain ⟨cs, hcs, rfl⟩ := map_eq_ok_iff.1 h
    exact fun name v hname => namesFrom_clauses ps hcs name v (Clause.slots_all_subset cs hname)
  | anyOf ps =>
    obtain ⟨cs, hcs, rfl⟩ := map_eq_ok_iff.1 h
    exact fun name v hname => namesFrom_clauses ps hcs name v (Clause.slots_any_subset cs hname)
  | range name a b =>
    obtain ⟨d, -, h⟩ := bind_eq_ok_iff.1 h
    obtain ⟨lower, hlower, h⟩ := bind_eq_ok_iff.1 h
    obtain ⟨upper, hupper, h⟩ := bind_eq_ok_iff.1 h
    cases h
    refine fun name v hname => namesFrom_of_unnamed ?_ name v (Clause.slots_all_subset _ hname)
    rw [Clause.slotsOfAll_eq_flatMap, List.flatMap_append, ← Clause.slotsOfAll_eq_flatMap,
      ← Clause.slotsOfAll_eq_flatMap, List.any_append, bound_unnamed hlower, bound_unnamed hupper]
    rfl
  | raw sql params =>
    exact fun name v hname => ⟨sql, params, List.mem_cons_self, named_mem_fragment h hname⟩
  | other v => cases h
  | _ => exact hleaf rfl rfl

theorem namesFrom_clauses (ps : List Predicate) {cs : List Clause}
    (h : clauses today ps = .ok cs) : NamesFrom (rawsOfAll ps) (Clause.slotsOfAll cs) := by
  cases ps with
  | nil =>
    cases h
    exact nofun
  | cons p ps =>
    obtain ⟨c, hc, h⟩ := bind_eq_ok_iff.1 h
    obtain ⟨ds, hds, h⟩ := bind_eq_ok_iff.1 h
    cases h
    intro name v hname
    rcases List.mem_append.1 hname with hname | hname
    · obtain ⟨sql, params, hmem, hslot⟩ := namesFrom_clause p hc name v hname
      exact ⟨sql, params, List.mem_append_left _ hmem, hslot⟩
    · obtain ⟨sql, params, hmem, hslot⟩ := namesFrom_clauses ps hds name v hname
      exact ⟨sql, params, List.mem_append_right _ hmem, hslot⟩

end

end Realty.Sql
