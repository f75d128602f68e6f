/-
# Trees of one skeleton

* `SameClass` says of two values that they are bound with one type, `SameSkeleton` of two trees that
  they differ in values of one class only.
* `blank_clause`: such trees become clauses that are the same without their values, whatever
  constants are dropped on the way.
* `columns_of_renders`: the columns in a skeleton are those of the listings, or it is not written.
-/
import Realty.Proofs.Sql.Blank
import Realty.Proofs.Sql.Renders
import Mathlib.Data.List.Forall2

namespace Realty.Sql

/-! ## 1. Skeletons -/

/-- Two values of one class: texts, dates, numbers of one kind, lists of texts, or the same one of
null and the truth values.  Integers that need more than 31 bits are a kind of their own. -/
inductive SameClass : Value → Value → Prop
  | null : SameClass .null .null
  | bool (b : Bool) : SameClass (.bool b) (.bool b)
  | int {n m : Int} : BindType.isWide n = BindType.isWide m → SameClass (.int n) (.int m)
  | float (x y : Float) : SameClass (.float x) (.float y)
  | str (s t : String) : SameClass (.str s) (.str t)
  | decimal (d e : Decimal) : SameClass (.decimal d) (.decimal e)
  | date (d e : Date) : SameClass (.date d) (.date e)
  | texts (ss ts : List String) : SameClass (.list (ss.map .str)) (.list (ts.map .str))

/-- Two trees of the same nodes over the same columns and texts, with values of the same classes in
corresponding places.  The values of a text correspond by their placeholders. -/
inductive SameSkeleton : Predicate → Predicate → Prop
  | equals (c : String) {v w : Value} :
      SameClass v w → SameSkeleton (.equals c v) (.equals c w)
  | inList (c : String) {vs ws : List Value} :
      SameClass (.list vs) (.list ws) → SameSkeleton (.inList c vs) (.inList c ws)
  | range (c : String) {a b a' b' : Value} :
      SameClass a a' → SameClass b b' → SameSkeleton (.range c a b) (.range c a' b')
  | greaterThan (c : String) {v w : Value} :
      SameClass v w → SameSkeleton (.greaterThan c v) (.greaterThan c w)
  | columnGreaterThan (l r : String) :
      SameSkeleton (.columnGreaterThan l r) (.columnGreaterThan l r)
  | like (c s t : String) : SameSkeleton (.like c s) (.like c t)
  | notNull (c : String) : SameSkeleton (.notNull c) (.notNull c)
  | listedWithin (c : String) {days days' : Value} :
      SameClass days days' → SameSkeleton (.listedWithin c days) (.listedWithin c days')
  | upcomingOpenHouse : SameSkeleton .upcomingOpenHouse .upcomingOpenHouse
  | exclusiveListing (c : String) : SameSkeleton (.exclusiveListing c) (.exclusiveListing c)
  | raw (sql : String) {params params' : List (String × Value)} :
      (∀ name ∈ Template.names sql,
        SameClass (placeholderValue params name) (placeholderValue params' name)) →
      SameSkeleton (.raw sql params) (.raw sql params')
  | allOf {ps qs : List Predicate} :
      List.Forall₂ SameSkeleton ps qs → SameSkeleton (.allOf ps) (.allOf qs)
  | anyOf {ps qs : List Predicate} :
      List.Forall₂ SameSkeleton ps qs → SameSkeleton (.anyOf ps) (.anyOf qs)

/-! ## 2. Nodes -/

variable {v w : Value}

/-- **Values of one class are bound with one type.** -/
theorem SameClass.ofValue_eq (h : SameClass v w) : BindType.ofValue v = .ofValue w := by
  cases h with
  | int hwide => rw [BindType.ofValue, BindType.ofValue, hwide]
  | _ => rfl

theorem comparison_blank (c : Column) (operator : String)
    (h : BindType.ofValue v = .ofValue w) :
    (comparison c operator v).map Piece.blank = (comparison c operator w).map Piece.blank := by
  have hcompared : BindType.compared c v = .compared c w := by
    rw [BindType.compared, BindType.compared, h]
  simp only [comparison, comparedValue, hcompared]
  split
  · rfl
  · rfl

theorem leaf_comparison_blank (c : Column) (operator : String) (h : SameClass v w) :
    (Clause.leaf (comparison c operator v)).blank = (Clause.leaf (comparison c operator w)).blank :=
  congrArg Clause.leaf (comparison_blank c operator h.ofValue_eq)

theorem equality_blank (c : Column) (h : SameClass v w) :
    (equality c v).blank = (equality c w).blank := by
  have hleaf := leaf_comparison_blank c "=" h
  cases h with
  | null => rfl
  | bool b => rfl
  | _ => exact hleaf

/-- Comparisons by order with values of one class are the same, if there are any. -/
theorem ordered_blank (c : Column) (operator : String) (h : SameClass v w) :
    (ordered c operator v).map Clause.blank = (ordered c operator w).map Clause.blank := by
  have hleaf := leaf_comparison_blank c operator h
  cases h with
  | null => rfl
  | bool b => rfl
  | _ => exact congrArg Except.ok hleaf

theorem bound_blank (c : Column) (operator : String) (h : SameClass v w) :
    (bound c operator v).map (List.map Clause.blank) =
      (bound c operator w).map (List.map Clause.blank) := by
  have hleaf := leaf_comparison_blank c operator h
  cases h with
  | null => rfl
  | bool b => rfl
  | _ => exact congrArg (fun d => Except.ok [d]) hleaf

theorem family_eq_place_iff (t : ColumnType) : t.family = .place ↔ t = .point := by
  cases t <;> simp [ColumnType.family]

theorem family_ofValue_ne_place (v : Value) : (BindType.ofValue v).family ≠ .place := by
  intro h
  cases v with
  | int n =>
    rw [BindType.ofValue] at h
    split at h <;> cases h
  | _ => cases h

/-- Whether values are converted to places depends on the column alone. -/
theorem family_compared_eq_place_iff (c : Column) (v : Value) :
    (BindType.compared c v).family = .place ↔ c.type = .point := by
  have hcolumn : (BindType.column c.type).family = .place ↔ c.type = .point :=
    family_eq_place_iff c.type
  simp only [BindType.compared]
  split
  · exact hcolumn
  · next hown =>
    refine ⟨fun h => absurd h (family_ofValue_ne_place v), fun h => ?_⟩
    exact absurd (by simp [h]) hown

/-- The list after IN is written by the type of the column. -/
theorem membership_blank (c : Column) (vs ws : List Value) :
    (membership c vs).blank = (membership c ws).blank := by
  simp only [membership, Clause.blank, List.map_cons, List.map_nil, Piece.blank,
    family_compared_eq_place_iff]

/-- The values of a text are written by their types. -/
theorem fragment_blank {sql : String} {params params' : List (String × Value)} {c d : Clause}
    (h : ∀ name ∈ Template.names sql,
      SameClass (placeholderValue params name) (placeholderValue params' name))
    (hc : fragment sql params = .ok c) (hd : fragment sql params' = .ok d) : c.blank = d.blank := by
  simp only [fragment] at hc hd
  split at hc
  · cases hc
  · split at hd
    · cases hd
    · cases hc
      cases hd
      rw [Clause.blank, Clause.blank, List.map_map, List.map_map]
      refine congrArg Clause.leaf (List.map_congr_left fun t ht => ?_)
      cases t with
      | text cs => rfl
      | slot name =>
        have hname : String.ofList name ∈ Template.names sql := List.mem_filterMap.2 ⟨_, ht, rfl⟩
        simp only [Function.comp_apply, Piece.blank, (h _ hname).ofValue_eq]

/-! ## 3. Trees -/

variable {today today' : Date}

theorem eq_of_map_eq {α β : Type} {f : α → β} {x y : Except RenderError α} {a b : α}
    (h : x.map f = y.map f) (hx : x = .ok a) (hy : y = .ok b) : f a = f b := by
  rw [hx, hy] at h
  exact Except.ok.inj h

/-- Steps that look the same column up. -/
theorem columnOf_bind_cases {name : String} {f g : Column → Except RenderError Clause}
    {c d : Clause} (hc : (columnOf name >>= f) = .ok c) (hd : (columnOf name >>= g) = .ok d) :
    ∃ column, f column = .ok c ∧ g column = .ok d := by
  obtain ⟨column, hname, hc⟩ := bind_eq_ok_iff.1 hc
  obtain ⟨column', hname', hd⟩ := bind_eq_ok_iff.1 hd
  obtain rfl : column = column' := Except.ok.inj (hname.symm.trans hname')
  exact ⟨column, hc, hd⟩

mutual

/-- **Trees of one skeleton become the same clause without its values.** -/
theorem blank_clause (p : Predicate) {q : Predicate} {c d : Clause} (h : SameSkeleton p q)
    (hc : clause today p = .ok c) (hd : clause today' q = .ok d) : c.blank = d.blank := by
  cases h with
  | equals name hvalue =>
    obtain ⟨column, hc, hd⟩ := columnOf_bind_cases hc hd
    cases hc
    cases hd
    exact equality_blank column hvalue
  | inList name hvalues =>
    obtain ⟨column, hc, hd⟩ := columnOf_bind_cases hc hd
    cases hc
    cases hd
    exact membership_blank column _ _
  | range name hlower hupper =>
    simp only [clause] at hc hd
    obtain ⟨column, hc, hd⟩ := columnOf_bind_cases hc hd
    obtain ⟨lower, ha, hc⟩ := bind_eq_ok_iff.1 hc
    obtain ⟨upper, hb, hc⟩ := bind_eq_ok_iff.1 hc
    obtain ⟨lower', ha', hd⟩ := bind_eq_ok_iff.1 hd
    obtain ⟨upper', hb', hd⟩ := bind_eq_ok_iff.1 hd
    cases hc
    cases hd
    rw [Clause.all_blank, Clause.all_blank, List.map_append, List.map_append,
      eq_of_map_eq (bound_blank column ">=" hlower) ha ha',
      eq_of_map_eq (bound_blank column "<=" hupper) hb hb']
  | greaterThan name hvalue =>
    obtain ⟨column, hc, hd⟩ := columnOf_bind_cases hc hd
    exact eq_of_map_eq (ordered_blank column ">" hvalue) hc hd
  | columnGreaterThan l r =>
    obtain ⟨left, hc, hd⟩ := columnOf_bind_cases hc hd
    obtain ⟨right, hc, hd⟩ := columnOf_bind_cases hc hd
    cases hc
    cases hd
    rfl
  | like name s t =>
    obtain ⟨column, hc, hd⟩ := columnOf_bind_cases hc hd
    cases hc
    cases hd
    simp only [likeness, Clause.blank, List.map_append]
    rw [comparison_blank column "ILIKE" (SameClass.str _ _).ofValue_eq]
  | notNull name =>
    obtain ⟨column, hc, hd⟩ := columnOf_bind_cases hc hd
    cases hc
    cases hd
    rfl
  | listedWithin name hdays =>
    obtain ⟨day, -, hc⟩ := bind_eq_ok_iff.1 hc
    obtain ⟨day', -, hd⟩ := bind_eq_ok_iff.1 hd
    obtain ⟨column, hc, hd⟩ := columnOf_bind_cases hc hd
    cases hc
    cases hd
    exact leaf_comparison_blank column ">=" (.date day day')
  | upcomingOpenHouse =>
    cases hc
    cases hd
    rfl
  | exclusiveListing name =>
    obtain ⟨column, hc, hd⟩ := columnOf_bind_cases hc hd
    cases hc
    cases hd
    rfl
  | raw sql hvalues => exact fragment_blank hvalues hc hd
  | allOf hps =>
    obtain ⟨cs, hcs, rfl⟩ := map_eq_ok_iff.1 hc
    obtain ⟨ds, hds, rfl⟩ := map_eq_ok_iff.1 hd
    rw [Clause.all_blank, Clause.all_blank, blank_clauses _ hps hcs hds]
  | anyOf hps =>
    obtain ⟨cs, hcs, rfl⟩ := map_eq_ok_iff.1 hc
    obtain ⟨ds, hds, rfl⟩ := map_eq_ok_iff.1 hd
    rw [Clause.any_blank, Clause.any_blank, blank_clauses _ hps hcs hds]

theorem blank_clauses (ps : List Predicate) {qs : List Predicate} {cs ds : List Clause}
    (h : List.Forall₂ SameSkeleton ps qs) (hc : clauses today ps = .ok cs)
    (hd : clauses today' qs = .ok ds) : cs.map Clause.blank = ds.map Clause.blank := by
  cases h with
  | nil =>
    cases hc
    cases hd
    rfl
  | cons hp hps =>
    obtain ⟨c, hp₁, hc⟩ := bind_eq_ok_iff.1 hc
    obtain ⟨cs, hcs, hc⟩ := bind_eq_ok_iff.1 hc
    obtain ⟨d, hd₁, hd⟩ := bind_eq_ok_iff.1 hd
    obtain ⟨ds, hds, hd⟩ := bind_eq_ok_iff.1 hd
    cases hc
    cases hd
    rw [List.map_cons, List.map_cons, blank_clause _ hp hp₁ hd₁, blank_clauses _ hps hcs hds]

end

mutual

/-- **A tree that is rendered names columns of the listings only.** -/
theorem columns_of_renders (p : Predicate) (h : renders today p = true) :
    ∃ cs, p.columns = .ok cs ∧ ∀ c ∈ cs, hasColumn c = true := by
  cases p with
  | equals c v => exact ⟨[c], rfl, List.forall_mem_singleton.2 h⟩
  | inList c vs => exact ⟨[c], rfl, List.forall_mem_singleton.2 h⟩
  | range c a b => exact ⟨[c], rfl, List.forall_mem_singleton.2 (Bool.and_eq_true_iff.1 h).1⟩
  | greaterThan c v => exact ⟨[c], rfl, List.forall_mem_singleton.2 (Bool.and_eq_true_iff.1 h).1⟩
  | columnGreaterThan l r =>
    obtain ⟨hl, hr⟩ := Bool.and_eq_true_iff.1 h
    exact ⟨[l, r], rfl, List.forall_mem_cons.2 ⟨hl, List.forall_mem_singleton.2 hr⟩⟩
  | like c term => exact ⟨[c], rfl, List.forall_mem_singleton.2 h⟩
  | notNull c => exact ⟨[c], rfl, List.forall_mem_singleton.2 h⟩
  | listedWithin c days =>
    exact ⟨[c], rfl, List.forall_mem_singleton.2 (Bool.and_eq_true_iff.1 h).2⟩
  | upcomingOpenHouse => exact ⟨_, rfl, List.forall_mem_singleton.2 (by decide)⟩
  | exclusiveListing c => exact ⟨[c], rfl, List.forall_mem_singleton.2 h⟩
  | raw sql params => exact ⟨[], rfl, nofun⟩
  | allOf ps => exact columnsOfAll_of_renders ps h
  | anyOf ps => exact columnsOfAll_of_renders ps h
  | other v => cases h

theorem columnsOfAll_of_renders (ps : List Predicate) (h : rendersAll today ps = true) :
    ∃ cs, Predicate.columnsOfAll ps = .ok cs ∧ ∀ c ∈ cs, hasColumn c = true := by
  cases ps with
  | nil => exact ⟨[], rfl, nofun⟩
  | cons p ps =>
    obtain ⟨hp, hps⟩ := Bool.and_eq_true_iff.1 h
    obtain ⟨cs, hcs, hcolumns⟩ := columns_of_renders p hp
    obtain ⟨ds, hds, hcolumns'⟩ := columnsOfAll_of_renders ps hps
    refine ⟨cs ++ ds, ?_, List.forall_mem_append.2 ⟨hcolumns, hcolumns'⟩⟩
    rw [Predicate.columnsOfAll, hcs, hds]
    rfl

end

end Realty.Sql
