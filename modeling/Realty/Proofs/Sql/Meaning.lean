/-
# Rendering preserves meaning

A predicate is a tree of comparisons under ALL and ANY.  Its truth on a row is that of the tree,
and the text it is rendered to has the same truth.

* `Predicate.truth` evaluates a tree in three-valued logic: a tree of no conditions is true, a
  choice of none is false, and a range is the conjunction of the bounds it has.
* `clause_truth`: the clause of a tree has the truth of the tree.  `clause_isFlat`: it is flat,
  when the caller's text is.
* `rendered_truth`: so has the text, read with no regard to the tree.
-/
import Realty.Proofs.Geo.Fragment
import Realty.Proofs.Sql.Written

namespace Realty.Sql

/-! ## 1. The truth of a tree -/

section Truth

variable (today : Date) (leaf : List Piece → Truth)

/-- The truth of a single comparison. -/
def comparisonTruth (p : Predicate) : Truth :=
  match clause today p with
  | .ok (.leaf ps) => leaf ps
  | _ => .null

/-- The truth of a bound; an absent one holds. -/
def boundTruth (name operator : String) (v : Value) : Truth :=
  match v with
  | .null => .yes
  | v =>
    match columnOf name with
    | .ok c => leaf (comparison c operator v)
    | .error _ => .null

mutual

/-- The truth of a tree, when `leaf` is that of its comparisons. -/
def treeTruth : Predicate → Truth
  | .allOf ps => .all (treeTruths ps)
  | .anyOf ps => .any (treeTruths ps)
  | .range name a b => .all [boundTruth leaf name ">=" a, boundTruth leaf name "<=" b]
  | p => comparisonTruth today leaf p

/-- The truth of each tree of a list. -/
def treeTruths : List Predicate → List Truth
  | [] => []
  | p :: ps => treeTruth p :: treeTruths ps

end

end Truth

variable {today : Date} {leaf : List Piece → Truth}

/-- The truth of a node that is written as it stands. -/
theorem treeTruth_of_leaf {p : Predicate} {ps : List Piece} (hp : isComparison p = true)
    (h : clause today p = .ok (.leaf ps)) : treeTruth today leaf p = leaf ps := by
  have hcomparison : treeTruth today leaf p = comparisonTruth today leaf p := by
    cases p with
    | range name a b => cases hp
    | allOf ps => cases hp
    | anyOf ps => cases hp
    | other v => cases hp
    | _ => rfl
  rw [hcomparison, comparisonTruth, h]

/-! ## 2. Bounds -/

/-- An absent bound is no clause, and one that is given is a comparison. -/
theorem bound_eq_ok {c : Column} {operator : String} {v : Value} {cs : List Clause}
    (hc : c ∈ listings.columns) (ho : operator ∈ operators) (h : bound c operator v = .ok cs) :
    (v = .null ∧ cs = []) ∨ (v ≠ .null ∧ cs = [.leaf (comparison c operator v)] ∧
      IsOperand (symbols (comparison c operator v))) := by
  have hgiven (hv : v ≠ .null) (h : (ordered c operator v).map (fun d => [d]) = .ok cs) :
      v ≠ .null ∧ cs = [.leaf (comparison c operator v)] ∧
        IsOperand (symbols (comparison c operator v)) := by
    obtain ⟨d, hd, rfl⟩ := map_eq_ok_iff.1 h
    obtain ⟨rfl, hoperand⟩ := ordered_eq_leaf hc ho hd
    exact ⟨hv, rfl, hoperand⟩
  cases v with
  | null =>
    cases h
    exact Or.inl ⟨rfl, rfl⟩
  | _ => exact Or.inr (hgiven nofun h)

theorem bound_truth {name operator : String} {c : Column} {v : Value} {cs : List Clause}
    (hname : columnOf name = .ok c) (ho : operator ∈ operators) (h : bound c operator v = .ok cs) :
    Truth.all (cs.map (Clause.truth leaf)) = boundTruth leaf name operator v := by
  rcases bound_eq_ok (mem_of_columnOf hname) ho h with ⟨rfl, rfl⟩ | ⟨hv, rfl, -⟩
  · rfl
  · have htruth : boundTruth leaf name operator v = leaf (comparison c operator v) := by
      cases v with
      | null => exact absurd rfl hv
      | _ => simp only [boundTruth, hname]
    rw [List.map_singleton, Clause.truth, htruth]
    exact Truth.joinAll_singleton true _

theorem bound_isFlat {c : Column} {operator : String} {v : Value} {cs : List Clause}
    (hc : c ∈ listings.columns) (ho : operator ∈ operators) (h : bound c operator v = .ok cs) :
    ∀ d ∈ cs, d.IsFlat := by
  rcases bound_eq_ok hc ho h with ⟨-, rfl⟩ | ⟨-, rfl, hoperand⟩
  · exact nofun
  · intro d hd
    rw [List.mem_singleton.1 hd]
    exact .leaf hoperand

/-! ## 3. Trees as clauses -/

mutual

/-- **The clause of a tree has the truth of the tree.** -/
theorem clause_truth (p : Predicate) {c : Clause} (h : clause today p = .ok c) :
    c.truth leaf = treeTruth today leaf p := by
  have hleaf (hp : isComparison p = true) : c.truth leaf = treeTruth today leaf p := by
    obtain ⟨ps, rfl, -⟩ := clause_eq_leaf hp h
    rw [treeTruth_of_leaf hp h, Clause.truth]
  cases p with
  | allOf ps =>
    obtain ⟨cs, hcs, rfl⟩ := map_eq_ok_iff.1 h
    rw [Clause.truth_all, clauses_truth ps hcs, treeTruth]
  | anyOf ps =>
    obtain ⟨cs, hcs, rfl⟩ := map_eq_ok_iff.1 h
    rw [Clause.truth_any, clauses_truth ps hcs, treeTruth]
  | range name a b =>
    simp only [clause] at h
    obtain ⟨d, hname, h⟩ := bind_eq_ok_iff.1 h
    obtain ⟨lower, hlower, h⟩ := bind_eq_ok_iff.1 h
    obtain ⟨upper, hupper, h⟩ := bind_eq_ok_iff.1 h
    cases h
    rw [Clause.truth_all, List.map_append, Truth.all, Truth.joinAll_append, treeTruth,
      ← bound_truth hname (by decide) hlower, ← bound_truth hname (by decide) hupper]
    simp [Truth.all]
  | other v => cases h
  | _ => exact hleaf rfl

theorem clauses_truth (ps : List Predicate) {cs : List Clause} (h : clauses today ps = .ok cs) :
    cs.map (Clause.truth leaf) = treeTruths today leaf ps := by
  cases ps with
  | nil =>
    cases h
    rfl
  | cons p ps =>
    simp only [clauses] at h
    obtain ⟨c, hc, h⟩ := bind_eq_ok_iff.1 h
    obtain ⟨ds, hds, h⟩ := bind_eq_ok_iff.1 h
    cases h
    rw [List.map_cons, clause_truth p hc, clauses_truth ps hds, treeTruths]

end

mutual

/-- The conditions of a tree that are the caller's text. -/
def raws : Predicate → List Predicate
  | .allOf ps => rawsOfAll ps
  | .anyOf ps => rawsOfAll ps
  | .raw sql params => [.raw sql params]
  | _ => []

/-- The conditions of each tree of a list that are the caller's text. -/
def rawsOfAll : List Predicate → List Predicate
  | [] => []
  | p :: ps => raws p ++ rawsOfAll ps

end

mutual

/-- **The clause of a tree is flat.** -/
theorem clause_isFlat (p : Predicate) {c : Clause} (hraws : ∀ q ∈ raws p, IsOperandNode q)
    (h : clause today p = .ok c) : c.IsFlat := by
  have hleaf (hp : isComparison p = true) (hraw : isRaw p = false) : c.IsFlat := by
    obtain ⟨ps, rfl, hoperand⟩ := clause_eq_leaf hp h
    exact .leaf (hoperand hraw)
  cases p with
  | allOf ps =>
    obtain ⟨cs, hcs, rfl⟩ := map_eq_ok_iff.1 h
    exact Clause.isFlat_all (clauses_isFlat ps hraws hcs)
  | anyOf ps =>
    obtain ⟨cs, hcs, rfl⟩ := map_eq_ok_iff.1 h
    exact Clause.isFlat_any (clauses_isFlat ps hraws hcs)
  | range name a b =>
    simp only [clause] at h
    obtain ⟨d, hname, h⟩ := bind_eq_ok_iff.1 h
    obtain ⟨lower, hlower, h⟩ := bind_eq_ok_iff.1 h
    obtain ⟨upper, hupper, h⟩ := bind_eq_ok_iff.1 h
    cases h
    have hd := mem_of_columnOf hname
    refine Clause.isFlat_all fun e he => ?_
    rcases List.mem_append.1 he with he | he
    · exact bound_isFlat hd (by decide) hlower e he
    · exact bound_isFlat hd (by decide) hupper e he
  | raw sql params =>
    obtain ⟨ps, rfl, -⟩ := clause_eq_leaf rfl h
    exact .leaf (hraws _ List.mem_cons_self today ps h)
  | other v => cases h
  | _ => exact hleaf rfl rfl

theorem clauses_isFlat (ps : List Predicate) {cs : List Clause}
    (hraws : ∀ q ∈ rawsOfAll ps, IsOperandNode q) (h : clauses today ps = .ok cs) :
    ∀ c ∈ cs, c.IsFlat := by
  cases ps with
  | nil =>
    cases h
    exact nofun
  | cons p ps =>
    simp only [clauses] at h
    obtain ⟨c, hc, h⟩ := bind_eq_ok_iff.1 h
    obtain ⟨ds, hds, h⟩ := bind_eq_ok_iff.1 h
    cases h
    intro d hd
    rcases List.mem_cons.1 hd with rfl | hd
    · exact clause_isFlat p (fun q hq => hraws q (List.mem_append_left _ hq)) hc
    · exact clauses_isFlat ps (fun q hq => hraws q (List.mem_append_right _ hq)) hds d hd

end

/-! ## 4. Rendered text -/

/-- **Rendering preserves meaning.**  The statement writes a text with the values that its
parameters have, and the text has the truth of the tree on every row, whatever the truths of the
comparisons. -/
theorem rendered_truth {p : Predicate} {c : Clause} {r : Rendering} (hc : clause today p = .ok c)
    (hr : Rendering.ofPieces c.pieces = .ok r)
    (hraws : ∀ q ∈ raws p, Geo.IsPlaceCondition q ∨ IsOperandNode q) :
    r.Writes (symbols c.pieces) r.sql.toList ∧ ∀ row : List Token → Truth,
      readText row (symbols c.pieces) =
        treeTruth today (fun ps => readText row (symbols ps)) p := by
  refine ⟨Rendering.ofPieces_writes hr, fun row => ?_⟩
  have hflat : c.IsFlat := by
    refine clause_isFlat p (fun q hq => ?_) hc
    rcases hraws q hq with hplace | hoperand
    · exact hplace.isOperandNode
    · exact hoperand
  rw [← clause_truth p hc]
  exact hflat.reads.truth

/-- A choice inside a conjunction, with an empty conjunction beside it and a polygon inside. -/
def sampleTree : Predicate :=
  .allOf [.equals "city" (.str "Boston"), .allOf [],
    .anyOf [Geo.inPolygonText "coordinates" "POLYGON((0 0, 1 0, 1 1, 0 0))",
      .range "list_price" (.int 1) (.int 2)]]

/-- The statement of the sample. -/
def sampleStatement : Except RenderError Rendering := do
  Rendering.ofPieces (← clause ⟨2026, 3, 10⟩ sampleTree).pieces

theorem rendered_truth_sampleTree : ∃ (c : Clause) (r : Rendering),
    clause ⟨2026, 3, 10⟩ sampleTree = .ok c ∧
    r.sql = "listings.city = %(city_1)s::VARCHAR AND (ST_Contains(ST_GeomFromText(" ++
      "%(polygon_wkt)s::VARCHAR, 4326), coordinates) OR listings.list_price >= " ++
      "%(list_price_1)s::INTEGER AND listings.list_price <= %(list_price_2)s::INTEGER)" ∧
    r.Writes (symbols c.pieces) r.sql.toList ∧ ∀ row : List Token → Truth,
      readText row (symbols c.pieces) =
        treeTruth ⟨2026, 3, 10⟩ (fun ps => readText row (symbols ps)) sampleTree := by
  have hsql : sampleStatement.toOption.map Rendering.sql = some
      ("listings.city = %(city_1)s::VARCHAR AND (ST_Contains(ST_GeomFromText(" ++
        "%(polygon_wkt)s::VARCHAR, 4326), coordinates) OR listings.list_price >= " ++
        "%(list_price_1)s::INTEGER AND listings.list_price <= %(list_price_2)s::INTEGER)") := by
    decide +kernel
  cases hstatement : sampleStatement with
  | error e => simp [hstatement, Except.toOption] at hsql
  | ok r =>
    obtain ⟨c, hc, hr⟩ := bind_eq_ok_iff.1 hstatement
    have hplace : ∀ q ∈ raws sampleTree, Geo.IsPlaceCondition q ∨ IsOperandNode q := by
      intro q hq
      rw [List.mem_singleton.1 hq]
      exact Or.inl (.polygon _ _)
    refine ⟨c, r, hc, ?_, rendered_truth hc hr hplace⟩
    simpa [hstatement, Except.toOption] using hsql

end Realty.Sql
