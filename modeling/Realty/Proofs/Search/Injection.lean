/-
# Values do not reach the text

Two searches of the same shape, with other values.

* `listingQuery_blank` and `countQuery_blank`: plans of one skeleton and one order become statements
  that are the same without their values.
* `text_of_skeleton`: so these have one text and one list of names of parameters; no word of a user
  is in a skeleton.
-/
import Realty.Proofs.Filter.Terms
import Realty.Proofs.Search.Paging
import Realty.Proofs.Sql.Skeleton

namespace Realty.Search

open Realty.Filter (Plan)
open Sql (BindType Clause Piece Rendering SameClass SameSkeleton blank_clause clause countBind
  countQuery fromWhere listingQuery raws window)

variable {today today' : Date}

/-! ## 1. Statements -/

theorem fromWhere_blank {c d : Clause} (h : c.blank = d.blank) :
    (fromWhere c).map Piece.blank = (fromWhere d).map Piece.blank := by
  rw [fromWhere, fromWhere, List.map_cons, List.map_cons, ← Clause.pieces_blank,
    ← Clause.pieces_blank, h]

theorem countBind_blank {n m : Int} (h : BindType.isWide n = BindType.isWide m) :
    (countBind n).blank = (countBind m).blank := by
  rw [countBind, countBind, Piece.blank, Piece.blank, (SameClass.int h).ofValue_eq]

section Statements

variable {p q : Plan} {ps qs : List Piece}

theorem listingQuery_blank {limit offset limit' offset' : Int}
    (h : SameSkeleton p.condition q.condition) (horder : p.order = q.order)
    (hlimit : BindType.isWide limit = BindType.isWide limit')
    (hoffset : BindType.isWide offset = BindType.isWide offset')
    (hps : listingQuery p today (.int limit) (.int offset) = .ok ps)
    (hqs : listingQuery q today' (.int limit') (.int offset') = .ok qs) :
    ps.map Piece.blank = qs.map Piece.blank := by
  obtain ⟨c, hc, hps⟩ := bind_eq_ok_iff.1 hps
  obtain ⟨d, hd, hqs⟩ := bind_eq_ok_iff.1 hqs
  obtain ⟨order, hp, hps⟩ := bind_eq_ok_iff.1 hps
  obtain ⟨order', hq, hqs⟩ := bind_eq_ok_iff.1 hqs
  obtain rfl : order = order' := Except.ok.inj (hp.symm.trans (horder ▸ hq))
  cases hps
  cases hqs
  simp only [window, List.cons_append, List.map_cons, List.map_append, List.map_nil,
    fromWhere_blank (blank_clause p.condition h hc hd), countBind_blank hlimit,
    countBind_blank hoffset]

theorem countQuery_blank (h : SameSkeleton p.condition q.condition)
    (hps : countQuery p today = .ok ps) (hqs : countQuery q today' = .ok qs) :
    ps.map Piece.blank = qs.map Piece.blank := by
  obtain ⟨c, hc, hps⟩ := bind_eq_ok_iff.1 hps
  obtain ⟨d, hd, hqs⟩ := bind_eq_ok_iff.1 hqs
  cases hps
  cases hqs
  rw [List.map_cons, List.map_cons, fromWhere_blank (blank_clause p.condition h hc hd)]

end Statements

/-- The texts of the areas on the map. -/
def areaTexts : List String :=
  ["ST_Intersects(coordinates, ST_MakeEnvelope(:bounds_min_lng, :bounds_min_lat, " ++
      ":bounds_max_lng, :bounds_max_lat, 4326))",
    "ST_Contains(ST_GeomFromText(:polygon_wkt, 4326), coordinates)"]

theorem areaTexts_mem {sql : String} {params : List (String × Value)}
    (h : Filter.IsArea (.raw sql params)) : sql ∈ areaTexts := by
  cases h with
  | envelope b => decide +kernel
  | polygon ring => decide +kernel

/-- **Values do not reach the text.**  Trees that differ only in values of the same classes are
written with one text and one list of names of parameters, on whatever days.  So are the statements
of plans with such conditions and one order, whatever their limits and offsets of one width.  A
compiled plan has no words of the user in its skeleton: its order and its texts are those of fixed
tables, and its columns are those of the listings. -/
theorem text_of_skeleton {t u : Predicate} (h : SameSkeleton t u) :
    (∀ {today today' : Date} {c d : Clause}, clause today t = .ok c → clause today' u = .ok d →
      (Rendering.ofPieces c.pieces).map Rendering.form =
        (Rendering.ofPieces d.pieces).map Rendering.form) ∧
    (∀ {p q : Plan}, p.condition = t → q.condition = u → p.order = q.order →
      ∀ {today today' : Date} {limit offset limit' offset' : Int} {ps qs : List Piece},
        BindType.isWide limit = BindType.isWide limit' →
        BindType.isWide offset = BindType.isWide offset' →
        listingQuery p today (.int limit) (.int offset) = .ok ps →
        listingQuery q today' (.int limit') (.int offset') = .ok qs →
        (Rendering.ofPieces ps).map Rendering.form = (Rendering.ofPieces qs).map Rendering.form) ∧
    (∀ {p q : Plan}, p.condition = t → q.condition = u →
      ∀ {today today' : Date} {ps qs : List Piece},
        countQuery p today = .ok ps → countQuery q today' = .ok qs →
        (Rendering.ofPieces ps).map Rendering.form = (Rendering.ofPieces qs).map Rendering.form) ∧
    ∀ {room : Room} {raw : Filters} {p : Plan}, Filter.compile room raw = .ok p →
      p.order ∈ ResultOrder.newest :: ResultOrder.labels.map Prod.snd ∧
      (∀ sql params, .raw sql params ∈ raws p.condition → sql ∈ areaTexts) ∧
      ∀ {today : Date} {c : Clause}, clause today p.condition = .ok c →
        ∃ names, p.condition.columns = .ok names ∧ ∀ name ∈ names, Sql.hasColumn name = true := by
  refine ⟨fun hc hd => ?_, ?_, ?_, fun hp => ⟨?_, fun sql params hraw => ?_, fun hc => ?_⟩⟩
  · refine Rendering.ofPieces_blank ?_
    rw [← Clause.pieces_blank, ← Clause.pieces_blank, blank_clause t h hc hd]
  · rintro p q rfl rfl horder today today' limit offset limit' offset' ps qs hlimit hoffset hps hqs
    exact Rendering.ofPieces_blank (listingQuery_blank h horder hlimit hoffset hps hqs)
  · rintro p q rfl rfl today today' ps qs hps hqs
    exact Rendering.ofPieces_blank (countQuery_blank h hps hqs)
  · rw [Filter.order_of_compile hp]
    exact Search.ofFilter_mem _
  · exact areaTexts_mem (Filter.compile_raws hp _ hraw)
  · exact Sql.columns_of_renders _ (Sql.exists_clause_iff.1 ⟨_, hc⟩)

/-- A search for streets and cities above a price, listed in the last month. -/
def streetSearch (street : String) (cities : List String) (price : Int) : Predicate :=
  .allOf [.like "street_name" street, .inList "city" (cities.map .str),
    .atLeast "list_price" (.int price), .listedWithin "listing_contract_date" (.int 30),
    .anyOf [.equals "subdivision_name" (.str street), .equals "mls_area_major" (.str street)]]

/-- A hostile street changes no text. -/
theorem text_of_skeleton_hostileStreet :
    SameSkeleton (streetSearch "Main" ["Boston"] 300000)
      (streetSearch "Main'; DROP TABLE listings; -- :name %s" ["Boston", "Newton"] 450000) ∧
    ∃ c d, clause ⟨2026, 3, 10⟩ (streetSearch "Main" ["Boston"] 300000) = .ok c ∧
      clause ⟨2026, 3, 11⟩ (streetSearch "Main'; DROP TABLE listings; -- :name %s"
        ["Boston", "Newton"] 450000) = .ok d ∧
      (Rendering.ofPieces c.pieces).map Rendering.form =
        (Rendering.ofPieces d.pieces).map Rendering.form := by
  have hskeleton : SameSkeleton (streetSearch "Main" ["Boston"] 300000)
      (streetSearch "Main'; DROP TABLE listings; -- :name %s" ["Boston", "Newton"] 450000) :=
    .allOf (.cons (.like ..) (.cons (.inList _ (.texts ..)) (.cons (.range _ (.int rfl) .null)
      (.cons (.listedWithin _ (.int rfl)) (.cons (.anyOf (.cons (.equals _ (.str ..))
        (.cons (.equals _ (.str ..)) .nil))) .nil)))))
  obtain ⟨c, hc⟩ : ∃ c, clause ⟨2026, 3, 10⟩ (streetSearch "Main" ["Boston"] 300000) = .ok c :=
    ⟨_, rfl⟩
  obtain ⟨d, hd⟩ : ∃ d, clause ⟨2026, 3, 11⟩ (streetSearch
      "Main'; DROP TABLE listings; -- :name %s" ["Boston", "Newton"] 450000) = .ok d := ⟨_, rfl⟩
  exact ⟨hskeleton, c, d, hc, hd, (text_of_skeleton hskeleton).1 hc hd⟩

end Realty.Search
