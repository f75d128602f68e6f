/-
# Every value has a parameter of its own

A statement lists its parameters in the order in which its text names them.

* `textWith` is the text of pieces whose parameters have given names, one for each place of a value.
* `step_binds`: a place for a value adds one parameter, under a name that was not taken, and the
  text names it there.
* `ofPieces_binds`: so a statement is written with parameters of distinct names, whose values are
  those of its pieces in their order, as long as the caller gives no name twice and none of the
  names of numbered parameters.
-/
import Realty.Proofs.Sql.Params

namespace Realty.Sql

/-! ## 1. Places -/

namespace Piece

/-- The value of a place. -/
def value? : Piece → Option Value
  | .bind b => some b.value
  | .list b _ => some b.value
  | .named _ v => some v
  | _ => none

/-- The name that the caller gives to a place. -/
def name? : Piece → Option String
  | .named name _ => some name
  | _ => none

/-- The text of a piece, whose parameter has a name if it is a place. -/
def written (name : String) : Piece → String
  | .text s => s
  | .bind b => placeholder name b.type
  | .list b _ => Rendering.listPlaceholder b.type name
  | .named _ v => placeholder name (.ofValue v)
  | .conj => " AND "
  | .disj => " OR "
  | .opening => "("
  | .closing => ")"

theorem mem_filterMap_name? {name : String} {ps : List Piece} :
    name ∈ ps.filterMap name? ↔ ∃ v, .named name v ∈ ps := by
  rw [List.mem_filterMap]
  constructor
  · rintro ⟨p, hp, hname⟩
    cases p with
    | named other v =>
      obtain rfl : other = name := Option.some.inj hname
      exact ⟨v, hp⟩
    | _ => cases hname
  · rintro ⟨v, hp⟩
    exact ⟨_, hp, rfl⟩

end Piece

/-- The values and the names of pieces are in their places. -/
theorem filterMap_values {α : Type} {read : Piece → Option α}
    (hread : ∀ p, p.isValue = false → read p = none) (ps : List Piece) :
    (values ps).filterMap read = ps.filterMap read := by
  rw [values, List.filterMap_filter]
  refine congrArg (fun f => ps.filterMap f) (funext fun p => ?_)
  cases hp : p.isValue with
  | false => exact (hread p hp).symm
  | true => rfl

/-- The text of pieces; the places for values are written as the parameters of these names. -/
def textWith : List String → List Piece → String
  | _, [] => ""
  | names, p :: ps =>
    match p.value?, names with
    | some _, name :: names => p.written name ++ textWith names ps
    | _, names => p.written "" ++ textWith names ps

theorem textWith_of_text {p : Piece} (h : p.value? = none) (names : List String)
    (ps : List Piece) : textWith names (p :: ps) = p.written "" ++ textWith names ps := by
  simp only [textWith, h]

theorem textWith_of_place {p : Piece} {v : Value} (h : p.value? = some v) (name : String)
    (names : List String) (ps : List Piece) :
    textWith (name :: names) (p :: ps) = p.written name ++ textWith names ps := by
  simp only [textWith, h]

namespace Rendering

variable {r r' : Rendering} {p : Piece} {ps : List Piece}

/-! ## 2. One more piece -/

/-- Text adds no parameter. -/
theorem step_text (hp : p.value? = none) (h : r.step p = .ok r') :
    r'.params = r.params ∧ r'.sql = r.sql ++ p.written "" := by
  cases p with
  | bind b => cases hp
  | list b vs => cases hp
  | named name v => cases hp
  | _ =>
    cases h
    exact ⟨rfl, rfl⟩

theorem bindNumbered_binds {label : String} {v : Value} {text : String → String}
    (h : r.bindNumbered label v text = .ok r') :
    r.nextName label ∉ r.params.map Prod.fst ∧ r'.params = r.params ++ [(r.nextName label, v)] ∧
      r'.sql = r.sql ++ text (r.nextName label) := by
  simp only [bindNumbered] at h
  split at h
  · cases h
  · next hnew =>
    cases h
    refine ⟨fun hmem => ?_, rfl, rfl⟩
    obtain ⟨q, hq, hname⟩ := List.mem_map.1 hmem
    exact hnew (List.any_eq_true.2 ⟨q, hq, beq_iff_eq.2 hname⟩)

theorem setParam_of_not_mem {name : String} {v : Value} {params : List (String × Value)}
    (h : name ∉ params.map Prod.fst) : setParam name v params = params ++ [(name, v)] := by
  induction params with
  | nil => rfl
  | cons q params ih =>
    rw [List.map_cons, List.mem_cons, not_or] at h
    rw [setParam, if_neg (Ne.symm h.1), ih h.2, List.cons_append]

/-- **A place for a value adds a parameter**, and the text names it there.  The name is the one that
the caller gives, or else a numbered one. -/
theorem step_binds {v : Value} (hp : p.value? = some v)
    (hfree : ∀ name, p.name? = some name → name ∉ r.params.map Prod.fst)
    (h : r.step p = .ok r') :
    ∃ name, name ∉ r.params.map Prod.fst ∧ (p.name? = some name ∨ ¬ IsOwnName name) ∧
      r'.params = r.params ++ [(name, v)] ∧ r'.sql = r.sql ++ p.written name := by
  have hnumbered (label : String) : ¬ IsOwnName (r.nextName label) := fun hown => hown label _ rfl
  cases p with
  | bind b =>
    cases hp
    rw [step] at h
    obtain ⟨hnew, hparams, hsql⟩ := bindNumbered_binds h
    exact ⟨_, hnew, Or.inr (hnumbered b.label), hparams, hsql⟩
  | list b vs =>
    cases hp
    rw [step] at h
    obtain ⟨hnew, hparams, hsql⟩ := bindNumbered_binds h
    exact ⟨_, hnew, Or.inr (hnumbered b.label), hparams, hsql⟩
  | named name w =>
    cases hp
    have hnew := hfree name rfl
    simp only [step, bindNamed] at h
    split at h
    · cases h
    · cases h
      exact ⟨name, hnew, Or.inl rfl, setParam_of_not_mem hnew, rfl⟩
  | _ => cases hp

/-! ## 3. Statements -/

/-- The parameters of a run are those before it and one for each place. -/
theorem run_binds (hown : ∀ name ∈ ps.filterMap Piece.name?, IsOwnName name)
    (hnames : (ps.filterMap Piece.name?).Nodup)
    (hfree : ∀ name ∈ ps.filterMap Piece.name?, name ∉ r.params.map Prod.fst)
    (hnodup : (r.params.map Prod.fst).Nodup) (h : r.run ps = .ok r') :
    ∃ names, r'.params = r.params ++ names.zip (ps.filterMap Piece.value?) ∧
      names.length = (ps.filterMap Piece.value?).length ∧ (r'.params.map Prod.fst).Nodup ∧
      r'.sql = r.sql ++ textWith names ps := by
  induction ps generalizing r with
  | nil =>
    cases h
    exact ⟨[], (List.append_nil _).symm, rfl, hnodup, String.append_empty.symm⟩
  | cons p ps ih =>
    simp only [run] at h
    obtain ⟨r₁, hstep, h⟩ := bind_eq_ok_iff.1 h
    have hrest : ps.filterMap Piece.name? <:+ (p :: ps).filterMap Piece.name? := by
      rw [List.filterMap_cons]
      split
      · exact List.suffix_rfl
      · exact List.suffix_cons _ _
    have hown' := fun name hname => hown name (hrest.subset hname)
    have hnames' := hrest.sublist.nodup hnames
    cases hp : p.value? with
    | none =>
      obtain ⟨hparams, hsql⟩ := step_text hp hstep
      rw [← hparams] at hfree hnodup
      obtain ⟨names, hrun, hlength, hdistinct, htext⟩ :=
        ih hown' hnames' (fun name hname => hfree name (hrest.subset hname)) hnodup h
      refine ⟨names, ?_, ?_, hdistinct, ?_⟩
      · rw [hrun, hparams, List.filterMap_cons_none hp]
      · rw [hlength, List.filterMap_cons_none hp]
      · rw [htext, hsql, textWith_of_text hp, String.append_assoc]
    | some v =>
      obtain ⟨name, hnew, hkind, hparams, hsql⟩ := step_binds hp (fun name hname =>
        hfree name (List.mem_filterMap.2 ⟨p, List.mem_cons_self, hname⟩)) hstep
      have hlater : ∀ other ∈ ps.filterMap Piece.name?, other ≠ name := by
        rintro other hother rfl
        rcases hkind with hname | hnumbered
        · rw [List.filterMap_cons_some hname] at hnames
          exact (List.nodup_cons.1 hnames).1 hother
        · exact hnumbered (hown' other hother)
      have hfree' : ∀ other ∈ ps.filterMap Piece.name?, other ∉ r₁.params.map Prod.fst := by
        intro other hother hmem
        rw [hparams, List.map_append, List.mem_append] at hmem
        rcases hmem with hmem | hmem
        · exact hfree other (hrest.subset hother) hmem
        · exact hlater other hother (List.mem_singleton.1 hmem)
      have hnodup' : (r₁.params.map Prod.fst).Nodup := by
        rw [hparams, List.map_append, List.nodup_append]
        refine ⟨hnodup, List.nodup_cons.2 ⟨List.not_mem_nil, List.nodup_nil⟩, ?_⟩
        intro other hother other' hother' heq
        obtain rfl : other' = name := List.mem_singleton.1 hother'
        exact hnew (heq ▸ hother)
      obtain ⟨names, hrun, hlength, hdistinct, htext⟩ := ih hown' hnames' hfree' hnodup' h
      refine ⟨name :: names, ?_, ?_, hdistinct, ?_⟩
      · rw [hrun, hparams, List.filterMap_cons_some hp, List.zip_cons_cons, List.append_assoc]
        rfl
      · rw [List.filterMap_cons_some hp, List.length_cons, List.length_cons, hlength]
      · rw [htext, hsql, textWith_of_place hp, String.append_assoc]

/-- **Every value has a parameter of its own.**  When the caller's names are distinct and none is
that of a numbered parameter, pieces are written with parameters of distinct names; their values are
those of the pieces in order, and the text names them in this order. -/
theorem ofPieces_binds (hown : ∀ name ∈ ps.filterMap Piece.name?, IsOwnName name)
    (hnames : (ps.filterMap Piece.name?).Nodup) :
    ∃ r, ofPieces ps = .ok r ∧ (r.params.map Prod.fst).Nodup ∧
      r.params.map Prod.snd = ps.filterMap Piece.value? ∧
      r.sql = textWith (r.params.map Prod.fst) ps := by
  obtain ⟨r, hr⟩ := ofPieces_isOk fun name v hmem =>
    hown name (Piece.mem_filterMap_name?.2 ⟨v, hmem⟩)
  obtain ⟨names, hparams, hlength, hnodup, hsql⟩ :=
    run_binds (r := {}) hown hnames (fun _ _ => List.not_mem_nil) .nil hr
  rw [List.nil_append] at hparams
  have hfst : r.params.map Prod.fst = names := by
    rw [hparams, List.map_fst_zip (Nat.le_of_eq hlength)]
  refine ⟨r, hr, hnodup, ?_, ?_⟩
  · rw [hparams, List.map_snd_zip (Nat.le_of_eq hlength.symm)]
  · rw [hsql, hfst]
    exact String.empty_append

end Rendering

end Realty.Sql
