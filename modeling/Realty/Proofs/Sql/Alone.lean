/-
# A fragment on its own

* `slotNames` are the names of the placeholders of segments, and `names_of_source` says that
  scanning the text finds these.
* `Binds` says that a fragment and its values belong together: no name is given twice, and the names
  are those of the placeholders.
* `ofPieces_unnumbered`: pieces without numbered parameters are always written, and each name gets
  the value that its places agree on.
* `Binds.rendered`: such a fragment is rendered, and every placeholder has its value.
-/
import Realty.Proofs.Sql.Binding
import Realty.Proofs.Sql.Leaves
import Realty.Proofs.Sql.Renders
import Realty.Proofs.Sql.Template
import Realty.Proofs.Sql.Written

namespace Realty.Sql

/-! ## 1. Names -/

namespace Template

/-- The name of a placeholder. -/
def Segment.slotName? : Segment → Option String
  | .slot name => some (String.ofList name)
  | _ => none

/-- The names of the placeholders of segments. -/
def slotNames (segments : List Segment) : List String := segments.filterMap Segment.slotName?

/-- **Scanning finds the placeholders of segments.** -/
theorem names_of_source {sql : String} {segments : List Segment}
    (hsql : sql.toList = source segments) (hsegments : segments.all Segment.isWellFormed = true)
    (hfits : fits none segments = true) : names sql = slotNames segments := by
  have htext {name? : Token → Option String} (hname : ∀ cs, name? (.text cs) = none)
      (cs : List Char) : (cs.map fun c => Token.text [c]).filterMap name? = [] := by
    simp [List.filterMap_map, hname]
  rw [names, scan, hsql, scanFrom_source hsegments hfits, slotNames, List.filterMap_flatMap,
    List.filterMap_eq_flatMap_toList]
  refine congrArg (fun f => segments.flatMap f) (funext fun s => ?_)
  cases s with
  | text cs => exact htext (fun _ => rfl) cs
  | column cs => exact htext (fun _ => rfl) cs
  | slot name => rfl

end Template

/-- A fragment and its values belong together: no name is given twice, and the names are those of
the placeholders. -/
structure Binds (sql : String) (params : List (String × Value)) : Prop where
  nodup : (params.map Prod.fst).Nodup
  names : ∀ name, name ∈ Template.names sql ↔ name ∈ params.map Prod.fst

/-! ## 2. Writing -/

namespace Rendering

variable {r : Rendering} {p : Piece} {ps : List Piece}

/-- A piece without a numbered parameter, whose own parameter has the value of its name. -/
def IsUnnumbered (value : String → Value) : Piece → Prop
  | .bind _ => False
  | .list .. => False
  | .named name v => v = value name
  | _ => True

/-- One such piece gives its name its value. -/
theorem step_unnumbered {value : String → Value} (hr : r.numbered = [])
    (hp : IsUnnumbered value p) :
    ∃ r', r.step p = .ok r' ∧ r'.numbered = [] ∧ ∀ name, r'.params.lookup name =
      if p.name? = some name then some (value name) else r.params.lookup name := by
  cases p with
  | bind b => cases hp
  | list b vs => cases hp
  | named name v =>
    obtain rfl : v = value name := hp
    have hfree : ¬ r.numbered.contains name = true := by
      rw [hr]
      exact Bool.false_ne_true
    refine ⟨_, if_neg hfree, hr, fun other => ?_⟩
    by_cases hother : other = name
    · subst hother
      rw [lookup_setParam_self, Piece.name?, if_pos rfl]
    · rw [lookup_setParam_of_ne hother, Piece.name?,
        if_neg fun h => hother (Option.some.inj h).symm]
  | _ => exact ⟨_, rfl, hr, fun _ => rfl⟩

theorem run_unnumbered {value : String → Value} (hr : r.numbered = [])
    (hps : ∀ p ∈ ps, IsUnnumbered value p) :
    ∃ r', r.run ps = .ok r' ∧ ∀ name, r'.params.lookup name =
      if name ∈ ps.filterMap Piece.name? then some (value name) else r.params.lookup name := by
  induction ps generalizing r with
  | nil => exact ⟨r, rfl, fun _ => rfl⟩
  | cons p ps ih =>
    obtain ⟨hp, hps⟩ := List.forall_mem_cons.1 hps
    obtain ⟨r₁, hstep, hr₁, hlookup⟩ := step_unnumbered hr hp
    obtain ⟨r₂, hrun, hlookups⟩ := ih hr₁ hps
    refine ⟨r₂, bind_eq_ok_iff.2 ⟨r₁, hstep, hrun⟩, fun name => ?_⟩
    have hmem : name ∈ (p :: ps).filterMap Piece.name? ↔
        p.name? = some name ∨ name ∈ ps.filterMap Piece.name? := by
      simp only [List.mem_filterMap, List.exists_mem_cons_iff]
    rw [hlookups, hlookup]
    by_cases hlater : name ∈ ps.filterMap Piece.name?
    · rw [if_pos hlater, if_pos (hmem.2 (Or.inr hlater))]
    · by_cases hhere : p.name? = some name
      · rw [if_neg hlater, if_pos hhere, if_pos (hmem.2 (Or.inl hhere))]
      · rw [if_neg hlater, if_neg hhere, if_neg fun h => (hmem.1 h).elim hhere hlater]

/-- **Pieces without numbered parameters are always written**, and a name has the value that its
places agree on. -/
theorem ofPieces_unnumbered {value : String → Value} (hps : ∀ p ∈ ps, IsUnnumbered value p) :
    ∃ r, ofPieces ps = .ok r ∧ ∀ name, r.params.lookup name =
      if name ∈ ps.filterMap Piece.name? then some (value name) else none :=
  run_unnumbered (r := {}) rfl hps

end Rendering

/-! ## 3. Fragments -/

variable {sql : String} {params : List (String × Value)}

/-- The pieces of a fragment have its values. -/
theorem fragment_unnumbered {ps : List Piece} (h : fragment sql params = .ok (.leaf ps)) :
    (∀ p ∈ ps, Rendering.IsUnnumbered (placeholderValue params) p) ∧
      ps.filterMap Piece.name? = Template.names sql := by
  simp only [fragment] at h
  split at h
  · cases h
  · cases h
    constructor
    · intro p hp
      obtain ⟨t, -, rfl⟩ := List.mem_map.1 hp
      cases t with
      | text cs => trivial
      | slot name => rfl
    · rw [List.filterMap_map, Template.names]
      refine congrArg (fun f => (Template.scan sql).filterMap f) (funext fun t => ?_)
      cases t <;> rfl

/-- A fragment becomes a leaf. -/
theorem exists_leaf (h : fitsText sql params = true) :
    ∃ ps, fragment sql params = .ok (.leaf ps) := by
  have hok := (fragment_isOk sql params).trans h
  simp only [fragment] at hok ⊢
  split at hok
  · cases hok
  · exact ⟨_, rfl⟩

/-- The last value of a name is its only one. -/
theorem lookup_eq_placeholderValue (h : (params.map Prod.fst).Nodup) {name : String}
    (hname : name ∈ params.map Prod.fst) :
    params.lookup name = some (placeholderValue params name) := by
  obtain ⟨q, hq, rfl⟩ := List.mem_map.1 hname
  rw [placeholderValue_of_mem h hq]
  exact (lookup_eq_some_iff_mem h).2 hq

/-- **A fragment that binds its placeholders is rendered on its own**: the statement is the text
with every placeholder as the parameter of its name, and the parameters have the values given. -/
theorem Binds.rendered (h : Binds sql params) (today : Date) :
    ∃ ps r, clause today (.raw sql params) = .ok (.leaf ps) ∧ Rendering.ofPieces ps = .ok r ∧
      r.Writes (symbols ps) r.sql.toList ∧ ∀ name, r.params.lookup name = params.lookup name := by
  have hfits : fitsText sql params = true := by
    refine List.all_eq_true.2 fun q hq => ?_
    simpa using (h.names q.1).2 (List.mem_map_of_mem hq)
  obtain ⟨ps, hps⟩ := exists_leaf hfits
  obtain ⟨hpieces, hnames⟩ := fragment_unnumbered hps
  obtain ⟨r, hr, hlookup⟩ := Rendering.ofPieces_unnumbered hpieces
  refine ⟨ps, r, hps, hr, Rendering.ofPieces_writes hr, fun name => ?_⟩
  rw [hlookup, hnames]
  by_cases hname : name ∈ params.map Prod.fst
  · rw [if_pos ((h.names name).2 hname), lookup_eq_placeholderValue h.nodup hname]
  · rw [if_neg fun hmem => hname ((h.names name).1 hmem)]
    refine (List.lookup_eq_none_iff.2 fun q hq => ?_).symm
    exact bne_iff_ne.2 fun heq => hname (heq ▸ List.mem_map_of_mem hq)

end Realty.Sql
