/-
# The parameters of a search

The statement that selects the listings of a plan binds the values that its conditions carry, and
then the limit and the offset.

* `values_listingQuery`: the statement has no other places for values.
* `parameters_carried`: every one of them becomes a parameter with a name of its own, none is lost,
  and they come in the order of the text.
-/
import Realty.Proofs.Filter.Leaves
import Realty.Proofs.Search.Statement

namespace Realty.Search

open Realty.Filter (Plan)
open Sql (Clause Piece Rendering carried leaves textWith values)

variable {room : Room} {raw : Filters} {p : Plan} {today : Date} {limit offset : Int}
  {ps : List Piece}

/-- **The places of a statement are those of its condition**, then the limit and the offset. -/
theorem values_listingQuery
    (h : Sql.listingQuery p today (.int limit) (.int offset) = .ok ps) :
    ∃ w, Sql.clause today p.condition = .ok w ∧
      values ps = w.slots ++ [Sql.countBind limit, Sql.countBind offset] := by
  obtain ⟨w, hw, h⟩ := bind_eq_ok_iff.1 h
  obtain ⟨order, -, h⟩ := bind_eq_ok_iff.1 h
  cases h
  refine ⟨w, hw, ?_⟩
  have hcondition : values (.text ("SELECT " ++ Sql.selectList) :: Sql.fromWhere w) = w.slots :=
    Clause.values_pieces w
  rw [Sql.values_append, hcondition]
  rfl

/-- What is read off the places of a statement. -/
theorem filterMap_listingQuery {α : Type} {read : Piece → Option α}
    (hread : ∀ piece, piece.isValue = false → read piece = none)
    (h : Sql.listingQuery p today (.int limit) (.int offset) = .ok ps) :
    ∃ w, Sql.clause today p.condition = .ok w ∧ ps.filterMap read = w.slots.filterMap read ++
      [Sql.countBind limit, Sql.countBind offset].filterMap read := by
  obtain ⟨w, hw, hvalues⟩ := values_listingQuery h
  refine ⟨w, hw, ?_⟩
  rw [← Sql.filterMap_values hread, hvalues, List.filterMap_append]

theorem value?_of_not_isValue : ∀ piece : Piece, piece.isValue = false → piece.value? = none
  | .bind _ | .list .. | .named .. => nofun
  | .text _ | .conj | .disj | .opening | .closing => fun _ => rfl

theorem name?_of_not_isValue : ∀ piece : Piece, piece.isValue = false → piece.name? = none
  | .named .. => nofun
  | .bind _ | .list .. | .text _ | .conj | .disj | .opening | .closing => fun _ => rfl

/-- **No parameter is lost, overwritten or misplaced.**  The statement of a search is written with
parameters of distinct names.  Their values are those that the leaves of the compiled condition
carry, from left to right, and then the limit and the offset; the text names the parameters in this
order, each at the place of its value. -/
theorem parameters_carried (hp : Filter.compile room raw = .ok p)
    (hps : Sql.listingQuery p today (.int limit) (.int offset) = .ok ps) :
    ∃ r, Rendering.ofPieces ps = .ok r ∧ (r.params.map Prod.fst).Nodup ∧
      r.params.map Prod.snd =
        (leaves p.condition).flatMap (carried today) ++ [.int limit, .int offset] ∧
      r.sql = textWith (r.params.map Prod.fst) ps := by
  have hsolid := Filter.isSolid_of_compile hp
  obtain ⟨w, hw, hvalues⟩ := filterMap_listingQuery value?_of_not_isValue hps
  obtain ⟨w', hw', hnames⟩ := filterMap_listingQuery name?_of_not_isValue hps
  obtain rfl : w = w' := Except.ok.inj (hw.symm.trans hw')
  rw [Sql.values_clause hsolid (fun _ _ => Filter.isBoundInOrder_of_compile hp) hw] at hvalues
  rw [Sql.names_clause hsolid hw] at hnames
  have hown : ∀ name ∈ ps.filterMap Piece.name?, Sql.IsOwnName name := by
    intro name hname
    obtain ⟨v, hmem⟩ := Piece.mem_filterMap_name?.1 hname
    obtain ⟨w'', hw'', hfrom⟩ := listingQuery_eq_ok hps
    exact isOwnName_of_mem hp hw'' (hfrom name v hmem)
  have hdistinct : (ps.filterMap Piece.name?).Nodup := by
    rw [hnames]
    exact (List.append_nil _).symm ▸ Filter.givenNames_nodup hp
  obtain ⟨r, hr, hnodup, hcarried, hsql⟩ := Rendering.ofPieces_binds hown hdistinct
  exact ⟨r, hr, hnodup, hcarried.trans hvalues, hsql⟩

/-- A search that compares columns more than once and is bounded by two areas. -/
def manyFilters : Filters :=
  [("bounds", .str "42, -72, 43, -71"), ("polygon", .str "[[42, -71], [42, -72], [43, -72]]"),
    ("status", .str "active, pending"), ("neighborhood", .str "Back_Bay"),
    ("min_price", .int 300000), ("max_price", .int 500000), ("has_garage", .str "on"),
    ("garage_spaces_min", .int 2), ("new_listing_days", .int 30), ("exclusive_only", .str "on")]

theorem parameters_carried_manyFilters :
    ∃ p ps r, Filter.compile .standard manyFilters = .ok p ∧
      Sql.listingQuery p ⟨2026, 3, 10⟩ (.int 25) (.int 50) = .ok ps ∧
      Rendering.ofPieces ps = .ok r ∧ (r.params.map Prod.fst).Nodup ∧
      r.params.map Prod.snd = (leaves p.condition).flatMap (carried ⟨2026, 3, 10⟩) ++
        [.int 25, .int 50] ∧
      r.sql = textWith (r.params.map Prod.fst) ps ∧ r.params.length = 19 := by
  have hmade : ((Filter.compile .standard manyFilters).toOption.map fun p =>
      (Sql.listingQuery p ⟨2026, 3, 10⟩ (.int 25) (.int 50)).isOk) = some true := by
    decide +kernel
  have hlength : ((Filter.compile .standard manyFilters).toOption.map fun p =>
      ((leaves p.condition).flatMap (carried ⟨2026, 3, 10⟩)).length) = some 17 := by
    decide +kernel
  cases hp : Filter.compile .standard manyFilters with
  | error e =>
    rw [hp] at hmade
    cases hmade
  | ok p =>
    rw [hp] at hmade hlength
    have hok : (Sql.listingQuery p ⟨2026, 3, 10⟩ (.int 25) (.int 50)).isOk = true :=
      Option.some.inj hmade
    have hcount : ((leaves p.condition).flatMap (carried ⟨2026, 3, 10⟩)).length = 17 :=
      Option.some.inj hlength
    cases hps : Sql.listingQuery p ⟨2026, 3, 10⟩ (.int 25) (.int 50) with
    | error e =>
      rw [hps] at hok
      cases hok
    | ok ps =>
      obtain ⟨r, hr, hnodup, hcarried, hsql⟩ := parameters_carried hp hps
      refine ⟨p, ps, r, rfl, hps, hr, hnodup, hcarried, hsql, ?_⟩
      rw [← List.length_map Prod.snd, hcarried, List.length_append, hcount]
      rfl

end Realty.Search
