/-
# Statements without their values

The text of a statement depends on the types that its values are bound with, and on nothing else of
them.

* `blank` takes the values out of pieces, clauses and renderings, and leaves their types.
* `all_blank` and `any_blank`: clauses are joined the same with and without their values, and
  `pieces_blank`: they are written the same.
* `ofPieces_blank`: so pieces that are the same without their values are written as statements of
  the same text and the same names of parameters, or fail in the same way.
-/
import Realty.Proofs.Sql.Clause
import Realty.Sql.Rendering

namespace Realty.Sql

/-! ## 1. Pieces -/

/-- A value that has a type by itself. -/
def BindType.standIn : BindType → Value
  | .boolean => .bool false
  | .integer => .int 0
  | .bigInteger => .int wideMagnitude
  | .float => .float 0
  | .string => .str ""
  | .decimal => .decimal .nan
  | .date => .date ⟨1, 1, 1⟩
  | .timestamp => .datetime ⟨⟨1, 1, 1⟩, 0, 0, 0, 0⟩
  | .column _ | .unknown => .null

theorem BindType.ofValue_standIn (v : Value) : ofValue (standIn (ofValue v)) = ofValue v := by
  cases v with
  | int n =>
    rw [ofValue]
    split <;> rfl
  | _ => rfl

/-- A piece without its value.  A list keeps of its type whether it is a list of places, which alone
the text shows before the list is known. -/
def Piece.blank : Piece → Piece
  | .bind b => .bind { b with value := .null }
  | .list b _ =>
    .list ⟨b.label, .null, if b.type.family = .place then .column .point else .unknown⟩ []
  | .named name v => .named name (BindType.standIn (.ofValue v))
  | p => p

theorem Piece.isEmpty_blank (p : Piece) : p.blank.isEmpty = p.isEmpty := by
  cases p <;> rfl

/-! ## 2. Clauses -/

namespace Clause

mutual

/-- A clause without its values. -/
def blank : Clause → Clause
  | .constant b isFresh => .constant b isFresh
  | .leaf ps => .leaf (ps.map Piece.blank)
  | .conj cs => .conj (blanks cs)
  | .disj cs => .disj (blanks cs)

/-- Each clause of a list without its values. -/
def blanks : List Clause → List Clause
  | [] => []
  | c :: cs => c.blank :: blanks cs

end

theorem blanks_eq_map (cs : List Clause) : blanks cs = cs.map blank := by
  induction cs with
  | nil => rfl
  | cons c cs ih => rw [blanks, ih, List.map_cons]

theorem isFresh_blank (b : Bool) (c : Clause) : c.blank.isFresh b = c.isFresh b := by
  cases c <;> rfl

theorem isDisjunction_blank (c : Clause) : c.blank.isDisjunction = c.isDisjunction := by
  cases c <;> rfl

theorem conjuncts_blank (c : Clause) : c.blank.conjuncts = c.conjuncts.map blank := by
  cases c with
  | conj cs => exact blanks_eq_map cs
  | _ => rfl

theorem disjuncts_blank (c : Clause) : c.blank.disjuncts = c.disjuncts.map blank := by
  cases c with
  | disj cs => exact blanks_eq_map cs
  | _ => rfl

/-- Which constants are dropped does not depend on values. -/
theorem combine_blank {unit : Bool} {join : List Clause → Clause}
    (hjoin : ∀ cs, (join cs).blank = join (cs.map blank)) (cs : List Clause) :
    (combine unit join cs).blank = combine unit join (cs.map blank) := by
  have hkept : ((cs.map blank).filter fun c => !c.isFresh unit) =
      (cs.filter fun c => !c.isFresh unit).map blank := by
    rw [List.filter_map]
    congr 1
    exact List.filter_congr fun c _ => congrArg _ (isFresh_blank unit c)
  have hother : (cs.map blank).any (isFresh !unit) = cs.any (isFresh !unit) := by
    rw [List.any_map]
    congr 1
    exact funext (isFresh_blank _)
  unfold combine
  rw [List.isEmpty_map, hother, hkept]
  split
  · rfl
  · split
    · rfl
    · generalize cs.filter (fun c => !c.isFresh unit) = kept
      match kept with
      | [] => rfl
      | [_] => rfl
      | _ :: _ :: _ => exact hjoin _

theorem all_blank (cs : List Clause) : (all cs).blank = all (cs.map blank) := by
  refine combine_blank (fun cs => ?_) cs
  rw [blank, blanks_eq_map, List.map_flatMap, List.flatMap_map]
  simp only [conjuncts_blank]

theorem any_blank (cs : List Clause) : (any cs).blank = any (cs.map blank) := by
  refine combine_blank (fun cs => ?_) cs
  rw [blank, blanks_eq_map, List.map_flatMap, List.flatMap_map]
  simp only [disjuncts_blank]

theorem joinPieces_blank {sep : Piece} (hsep : sep.blank = sep) (parts : List (List Piece)) :
    joinPieces sep (parts.map (List.map Piece.blank)) = (joinPieces sep parts).map Piece.blank := by
  have hempty (ps : List Piece) :
      (ps.map Piece.blank).all Piece.isEmpty = ps.all Piece.isEmpty := by
    rw [List.all_map]
    congr 1
    exact funext Piece.isEmpty_blank
  have hkept : ((parts.map (List.map Piece.blank)).filter fun ps => !ps.all Piece.isEmpty) =
      (parts.filter fun ps => !ps.all Piece.isEmpty).map (List.map Piece.blank) := by
    rw [List.filter_map]
    congr 1
    exact List.filter_congr fun ps _ => by rw [Function.comp_apply, hempty]
  rw [joinPieces, joinPieces, hkept, List.map_flatten]
  congr 1
  induction parts.filter fun ps => !ps.all Piece.isEmpty with
  | nil => rfl
  | cons p parts ih =>
    cases parts with
    | nil => rfl
    | cons q parts =>
      simp only [List.map_cons, List.intersperse_cons_cons, hsep] at ih ⊢
      rw [ih, List.map_nil]

mutual

/-- **A clause is written the same without its values.** -/
theorem pieces_blank : ∀ c : Clause, c.blank.pieces = c.pieces.map Piece.blank
  | .constant .. => rfl
  | .leaf _ => rfl
  | .conj cs => by
    rw [blank, pieces, pieces, operands_blank cs, joinPieces_blank rfl]
  | .disj cs => by
    rw [blank, pieces, pieces, alternatives_blank cs, joinPieces_blank rfl]

theorem operands_blank : ∀ cs : List Clause,
    operands (blanks cs) = (operands cs).map (List.map Piece.blank)
  | [] => rfl
  | c :: cs => by
    rw [blanks, operands, operands, operands_blank cs, isDisjunction_blank, pieces_blank c,
      List.map_cons]
    split
    · rw [List.map_append, List.map_cons]
      rfl
    · rfl

theorem alternatives_blank : ∀ cs : List Clause,
    alternatives (blanks cs) = (alternatives cs).map (List.map Piece.blank)
  | [] => rfl
  | c :: cs => by
    rw [blanks, alternatives, alternatives, alternatives_blank cs, pieces_blank c, List.map_cons]

end

end Clause

/-! ## 3. Statements -/

namespace Rendering

/-- A rendering without its values. -/
def blank (r : Rendering) : Rendering :=
  { r with params := r.params.map fun q => (q.1, .null) }

theorem bindNumbered_blank (r : Rendering) (label : String) (v : Value) (text : String → String) :
    (r.bindNumbered label v text).map blank =
      (r.blank.bindNumbered label .null text).map blank := by
  have hname : r.blank.nextName label = r.nextName label := rfl
  have hany : (r.blank.params.any fun q => q.1 == r.nextName label) =
      r.params.any fun q => q.1 == r.nextName label := by
    rw [blank, List.any_map]
    rfl
  simp only [bindNumbered, hname, hany]
  split
  · rfl
  · simp [Except.map, blank]

theorem setParam_blank (name : String) (v : Value) (params : List (String × Value)) :
    (setParam name v params).map (fun q => (q.1, Value.null)) =
      setParam name .null (params.map fun q => (q.1, .null)) := by
  induction params with
  | nil => rfl
  | cons q params ih =>
    rw [setParam, List.map_cons, setParam]
    split
    · rfl
    · rw [List.map_cons, ih]

theorem bindNamed_blank (r : Rendering) (name : String) (v : Value) :
    (r.bindNamed name v).map blank =
      (r.blank.bindNamed name (BindType.standIn (.ofValue v))).map blank := by
  have hnumbered : r.blank.numbered = r.numbered := rfl
  simp only [bindNamed, hnumbered, BindType.ofValue_standIn]
  split
  · rfl
  · simp [Except.map, blank, setParam_blank, Function.comp_def]

theorem listPlaceholder_blank (t : BindType) :
    listPlaceholder (if t.family = .place then .column .point else .unknown) =
      listPlaceholder t := by
  funext name
  have hfamily : (if t.family = .place then BindType.column .point else .unknown).family = .place ↔
      t.family = .place := by
    split
    · next hplace => exact ⟨fun _ => hplace, fun _ => rfl⟩
    · next hplace => exact ⟨nofun, fun h => absurd h hplace⟩
  simp only [listPlaceholder, hfamily]

/-- **One more piece is written the same without values.** -/
theorem step_blank (r : Rendering) (p : Piece) :
    (r.step p).map blank = (r.blank.step p.blank).map blank := by
  cases p with
  | bind b =>
    rw [Piece.blank, step, step]
    exact bindNumbered_blank r b.label b.value _
  | list b vs =>
    rw [Piece.blank, step, step, listPlaceholder_blank]
    exact bindNumbered_blank r b.label b.value _
  | named name v => exact bindNamed_blank r name v
  | _ => simp [step, Piece.blank, Except.map, append, blank]

theorem run_blank {r r' : Rendering} {ps qs : List Piece} (hr : r.blank = r'.blank)
    (hps : ps.map Piece.blank = qs.map Piece.blank) :
    (r.run ps).map blank = (r'.run qs).map blank := by
  induction ps generalizing r r' qs with
  | nil =>
    obtain rfl := List.map_eq_nil_iff.1 hps.symm
    exact congrArg Except.ok hr
  | cons p ps ih =>
    obtain ⟨q, qs, rfl, hq, hqs⟩ := List.map_eq_cons_iff.1 hps.symm
    have hstep : (r.step p).map blank = (r'.step q).map blank := by
      rw [step_blank, step_blank r', hr, hq]
    rw [run, run]
    cases hp : r.step p with
    | error e =>
      cases hq' : r'.step q with
      | error e' =>
        rw [hp, hq'] at hstep
        cases hstep
        rfl
      | ok r₁' =>
        rw [hp, hq'] at hstep
        cases hstep
    | ok r₁ =>
      cases hq' : r'.step q with
      | error e' =>
        rw [hp, hq'] at hstep
        cases hstep
      | ok r₁' =>
        rw [hp, hq'] at hstep
        exact ih (Except.ok.inj hstep) hqs.symm

/-- The text of a rendering and the names of its parameters. -/
def form (r : Rendering) : String × List String := (r.sql, r.params.map Prod.fst)

theorem form_blank (r : Rendering) : r.blank.form = r.form := by
  rw [form, form, blank, List.map_map]
  rfl

/-- **The text of a statement does not depend on its values**, nor do the names of its parameters,
nor whether it can be written. -/
theorem ofPieces_blank {ps qs : List Piece} (h : ps.map Piece.blank = qs.map Piece.blank) :
    (ofPieces ps).map form = (ofPieces qs).map form := by
  have hform (x : Except RenderError Rendering) : (x.map blank).map form = x.map form := by
    cases x with
    | error e => rfl
    | ok r => exact congrArg Except.ok (form_blank r)
  have hrun : (({} : Rendering).run ps).map blank = (({} : Rendering).run qs).map blank :=
    run_blank rfl h
  rw [ofPieces, ofPieces, ← hform, hrun, hform]

end Rendering

end Realty.Sql
