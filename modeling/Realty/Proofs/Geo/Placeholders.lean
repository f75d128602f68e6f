/-
# Conditions on the place bind their own placeholders

* `renamed` puts the names of a caller in place of the standard columns, reduced to plain names.
* `Request` is a condition on the place with the values that a caller gives, and `IsRead` says that
  its coordinates are numbers.
* `IsWrittenAs` is a layout of a request: fixed text, columns and placeholders, the same for all
  names of the columns, with values for just these placeholders.
* `exists_layout`: every request has one; `request_rendered`: so it is rendered on its own, with a
  value for every placeholder.
-/
import Realty.Proofs.Geo.Fragment
import Realty.Proofs.Geo.RayCast
import Realty.Proofs.Sql.Alone

namespace Realty.Geo

open Sql Sql.Template

/-! ## 1. Names of columns -/

/-- A segment whose column goes by the name that a caller gives it. -/
def renamed (names : String → String) : Segment → Segment
  | .column cs => .column (plainIdentifier (names (String.ofList cs))).toList
  | s => s

/-- The columns of a place by the names that a caller gives them. -/
def PlaceColumns.renamed (names : String → String) : PlaceColumns :=
  ⟨names PlaceColumns.standard.lat, names PlaceColumns.standard.lng⟩

variable (names : String → String)

theorem map_renamed_radiusSegments :
    (radiusSegments .standard).map (renamed names) =
      radiusSegments (PlaceColumns.renamed names).plain := by
  simp [radiusSegments, renamed, PlaceColumns.renamed, PlaceColumns.plain]

theorem map_renamed_boundsSegments :
    (boundsSegments .standard).map (renamed names) =
      boundsSegments (PlaceColumns.renamed names).plain := by
  simp [boundsSegments, renamed, PlaceColumns.renamed, PlaceColumns.plain]

theorem map_renamed_envelopeSegments :
    (envelopeSegments placeColumn).map (renamed names) =
      envelopeSegments (plainIdentifier (names placeColumn)) := by
  simp [envelopeSegments, renamed]

theorem map_renamed_polygonSegments :
    (polygonSegments placeColumn).map (renamed names) =
      polygonSegments (plainIdentifier (names placeColumn)) := by
  simp [polygonSegments, renamed]

theorem map_renamed_armSegments (name : String) :
    (armSegments .standard name).map (renamed names) =
      armSegments (PlaceColumns.renamed names).plain name := by
  simp [armSegments, renamed, PlaceColumns.renamed, PlaceColumns.plain]

theorem map_renamed_sumSegments (terms : List String) :
    (sumSegments .standard terms).map (renamed names) =
      sumSegments (PlaceColumns.renamed names).plain terms := by
  induction terms with
  | nil => rfl
  | cons name terms ih =>
    simp only [sumSegments, List.cons_append, List.map_cons, List.map_append,
      map_renamed_armSegments, ih, renamed]

theorem map_renamed_ringSegments (terms : List String) :
    (ringSegments .standard terms).map (renamed names) =
      ringSegments (PlaceColumns.renamed names).plain terms := by
  cases terms with
  | nil => rfl
  | cons name terms =>
    simp only [ringSegments, List.map_cons, List.map_append, map_renamed_armSegments,
      map_renamed_sumSegments, renamed]

theorem renamed_isWellFormed {layout : List Segment}
    (h : layout.all Segment.isWellFormed = true) :
    (layout.map (renamed names)).all Segment.isWellFormed = true := by
  refine List.all_eq_true.2 fun s hs => ?_
  obtain ⟨s, hmem, rfl⟩ := List.mem_map.1 hs
  cases s with
  | text cs => exact List.all_eq_true.1 h _ hmem
  | column cs => exact plainIdentifier_isWellFormed _
  | slot name => exact List.all_eq_true.1 h _ hmem

theorem slotNames_renamed (layout : List Segment) :
    slotNames (layout.map (renamed names)) = slotNames layout := by
  rw [slotNames, List.filterMap_map, slotNames]
  refine congrArg (fun f => layout.filterMap f) (funext fun s => ?_)
  cases s <;> rfl

/-! ## 2. Requests -/

/-- A condition on the place, with the values that a caller gives. -/
inductive Request where
  | radius (lat lng miles : Value)
  | bounds (north south east west : Value)
  | ring (vertices : Value)
  | envelope (north south east west : Value)
  | polygon (vertices : Value)

namespace Request

/-- The condition over columns with the names that a caller gives. -/
def build : Request → Except Fault Predicate
  | .radius lat lng miles =>
    let c := PlaceColumns.renamed names
    withinRadiusValue lat lng miles (.str c.lat) (.str c.lng)
  | .bounds north south east west =>
    let c := PlaceColumns.renamed names
    withinBoundsValue north south east west (.str c.lat) (.str c.lng)
  | .ring vertices =>
    let c := PlaceColumns.renamed names
    withinRingValue vertices (.str c.lat) (.str c.lng)
  | .envelope north south east west =>
    inEnvelopeValue north south east west (.str (names placeColumn))
  | .polygon vertices => inPolygonValue vertices (.str (names placeColumn))

end Request

/-- Whether a value is read as a coordinate. -/
def IsCoordinate (v : Value) : Prop := ∃ x, coordinate v = .ok x

/-- Whether a value is a list that starts with two coordinates. -/
def IsVertex (v : Value) : Prop :=
  ∃ lat lng rest, v.items? = some (lat :: lng :: rest) ∧ IsCoordinate lat ∧ IsCoordinate lng

/-- Whether a value is a list of vertices, of any length. -/
def IsVertices (v : Value) : Prop := ∃ vs, v.items? = some vs ∧ ∀ w ∈ vs, IsVertex w

/-- Whether the coordinates of a request are numbers. -/
def Request.IsRead : Request → Prop
  | .radius lat lng miles => IsCoordinate lat ∧ IsCoordinate lng ∧ IsCoordinate miles
  | .bounds north south east west | .envelope north south east west =>
    IsCoordinate north ∧ IsCoordinate south ∧ IsCoordinate east ∧ IsCoordinate west
  | .ring vertices | .polygon vertices => IsVertices vertices

/-- A vertex has a place, in whichever order its coordinates are read. -/
theorem IsVertex.read {v : Value} (h : IsVertex v) :
    ∃ p, vertex v = .ok p ∧ unpackedVertex v = .ok p := by
  obtain ⟨lat, lng, rest, hv, ⟨x, hx⟩, y, hy⟩ := h
  refine ⟨⟨x, y⟩, ?_, ?_⟩
  · cases v with
    | list vs | tuple vs =>
      cases hv
      simp only [vertex, element, List.getElem?_cons_zero, List.getElem?_cons_succ, bind,
        Except.bind, hx, hy]
      rfl
    | _ => cases hv
  · rw [unpackedVertex, elements?_of_items? hv]
    simp only [bind, Except.bind, hx, hy]
    rfl

/-- Vertices are read as the places of a ring. -/
theorem exists_ring {vs : List Value} (h : ∀ v ∈ vs, IsVertex v) : ∃ ring, AreRead vs ring := by
  induction vs with
  | nil => exact ⟨[], rfl⟩
  | cons v vs ih =>
    obtain ⟨hv, hvs⟩ := List.forall_mem_cons.1 h
    obtain ⟨p, hp, -⟩ := hv.read
    obtain ⟨ring, hring⟩ := ih hvs
    exact ⟨p :: ring, by rw [AreRead, List.map_cons, List.map_cons, hp, hring]⟩

/-- Closing a polygon adds no other vertices. -/
theorem closeValue_subset {polygon : Value} {vs closed : List Value}
    (hvs : elements? polygon = some vs) (h : closeValue polygon = .ok closed) : closed ⊆ vs := by
  rw [closeValue, hvs] at h
  cases vs with
  | nil =>
    cases h
    exact List.Subset.refl _
  | cons first rest =>
    obtain ⟨last, hlast⟩ : ∃ last, (first :: rest).getLast? = some last :=
      ⟨_, List.getLast?_eq_some_getLast (List.cons_ne_nil first rest)⟩
    have hagain : first :: rest ++ [first] ⊆ first :: rest :=
      List.append_subset.2 ⟨List.Subset.refl _, by simp⟩
    simp only [hlast] at h
    obtain ⟨differsLat, -, h⟩ := bind_eq_ok_iff.1 h
    cases differsLat with
    | true =>
      cases h
      exact hagain
    | false =>
      obtain ⟨differsLng, -, h⟩ := bind_eq_ok_iff.1 h
      cases differsLng with
      | true =>
        cases h
        exact hagain
      | false =>
        cases h
        exact List.Subset.refl _

/-- The well-known text of vertices can be written. -/
theorem exists_wkt {polygon : Value} (h : IsVertices polygon) : ∃ s, wktValue polygon = .ok s := by
  obtain ⟨vs, hvs, hvertices⟩ := h
  obtain ⟨ring, hring⟩ := exists_ring hvertices
  obtain ⟨closed, hclose, hread⟩ := closeValue_eq (elements?_of_items? hvs) hring
  have hunpacked : closed.map unpackedVertex = (Ring.close ring).map .ok := by
    refine Eq.trans (List.map_congr_left fun v hv => ?_) hread
    obtain ⟨p, hp, hunpacked⟩ :=
      (hvertices v (closeValue_subset (elements?_of_items? hvs) hclose hv)).read
    rw [hp, hunpacked]
  rw [wktValue, hclose]
  simp only [bind, Except.bind, mapM_of_map hunpacked]
  exact ⟨_, rfl⟩

/-! ## 3. Layouts -/

/-- A layout of a request: its text with the standard columns, the same for whatever names these
get, and the values of just its placeholders. -/
structure IsWrittenAs (q : Request) (layout : List Segment) (params : List (String × Value)) :
    Prop where
  wellFormed : layout.all Segment.isWellFormed = true
  fits : ∀ names, Template.fits none (layout.map (renamed names)) = true
  nodup : (params.map Prod.fst).Nodup
  slots : ∀ name, name ∈ slotNames layout ↔ name ∈ params.map Prod.fst
  build : ∀ names, ∃ sql, sql.toList = source (layout.map (renamed names)) ∧
    q.build names = .ok (.raw sql params)

theorem radius_isWrittenAs {lat lng miles : Value} {x y m : Float} (hx : coordinate lat = .ok x)
    (hy : coordinate lng = .ok y) (hm : coordinate miles = .ok m) :
    IsWrittenAs (.radius lat lng miles) (radiusSegments .standard)
      (params [("radius_lat", x), ("radius_lng", y), ("radius_miles", m)]) where
  wellFormed := by rfl
  fits names := by
    rw [map_renamed_radiusSegments]
    rfl
  nodup := by
    show ["radius_lat", "radius_lng", "radius_miles"].Nodup
    decide
  slots name := by
    -- The latitude stands in the text twice.
    have hslots : slotNames (radiusSegments .standard) =
        ["radius_lat", "radius_lng", "radius_lat", "radius_miles"] := by rfl
    rw [hslots]
    show _ ↔ name ∈ ["radius_lat", "radius_lng", "radius_miles"]
    simp only [List.mem_cons]
    tauto
  build names := by
    obtain ⟨sql, hsql, heq⟩ := withinRadius_eq (PlaceColumns.renamed names) ⟨x, y⟩ m
    refine ⟨sql, ?_, ?_⟩
    · rw [map_renamed_radiusSegments, hsql]
    · rw [← heq]
      simp only [Request.build, withinRadiusValue, hx, hy, hm]
      rfl

theorem bounds_isWrittenAs {north south east west : Value} {n s e w : Float}
    (hn : coordinate north = .ok n) (hs : coordinate south = .ok s) (he : coordinate east = .ok e)
    (hw : coordinate west = .ok w) :
    IsWrittenAs (.bounds north south east west) (boundsSegments .standard)
      (params [("bounds_south", s), ("bounds_north", n), ("bounds_west", w),
        ("bounds_east", e)]) where
  wellFormed := by rfl
  fits names := by
    rw [map_renamed_boundsSegments]
    rfl
  nodup := by
    show ["bounds_south", "bounds_north", "bounds_west", "bounds_east"].Nodup
    decide
  slots _ := by rfl
  build names := by
    obtain ⟨sql, hsql, heq⟩ := withinBounds_eq (PlaceColumns.renamed names) ⟨s, w, n, e⟩
    refine ⟨sql, ?_, ?_⟩
    · rw [map_renamed_boundsSegments, hsql]
    · rw [← heq]
      simp only [Request.build, withinBoundsValue, hn, hs, he, hw]
      rfl

theorem envelope_isWrittenAs {north south east west : Value} {n s e w : Float}
    (hn : coordinate north = .ok n) (hs : coordinate south = .ok s) (he : coordinate east = .ok e)
    (hw : coordinate west = .ok w) :
    IsWrittenAs (.envelope north south east west) (envelopeSegments placeColumn)
      (params [("bounds_min_lng", w), ("bounds_min_lat", s), ("bounds_max_lng", e),
        ("bounds_max_lat", n)]) where
  wellFormed := by rfl
  fits names := by
    rw [map_renamed_envelopeSegments]
    rfl
  nodup := by
    show ["bounds_min_lng", "bounds_min_lat", "bounds_max_lng", "bounds_max_lat"].Nodup
    decide
  slots _ := by rfl
  build names := by
    obtain ⟨sql, hsql, heq⟩ := inEnvelope_eq (names placeColumn) ⟨s, w, n, e⟩
    refine ⟨sql, ?_, ?_⟩
    · rw [map_renamed_envelopeSegments, hsql]
    · rw [← heq]
      simp only [Request.build, inEnvelopeValue, hn, hs, he, hw]
      rfl

theorem polygon_isWrittenAs {vertices : Value} {wkt : String} (h : wktValue vertices = .ok wkt) :
    IsWrittenAs (.polygon vertices) (polygonSegments placeColumn)
      [("polygon_wkt", .str wkt)] where
  wellFormed := by rfl
  fits names := by
    rw [map_renamed_polygonSegments]
    rfl
  nodup := List.nodup_singleton _
  slots _ := by rfl
  build names := by
    obtain ⟨sql, hsql, heq⟩ := inPolygonText_eq (names placeColumn) wkt
    refine ⟨sql, ?_, ?_⟩
    · rw [map_renamed_polygonSegments, hsql]
    · rw [← heq]
      simp only [Request.build, inPolygonValue, h]
      rfl

/-- The names of the placeholders of a term, as its text uses them. -/
def armSlots (name : String) : List String :=
  ["_lng1", "_lng2", "_lat2", "_lat1", "_lng1", "_lng2", "_lng1", "_lat1"].map (name ++ ·)

theorem slotNames_armSegments (c : PlaceColumns) (name : String) :
    slotNames (armSegments c name) = armSlots name := by
  simp only [slotNames, armSegments, List.filterMap_cons, Segment.slotName?, String.ofList_toList]
  rfl

theorem slotNames_append (a b : List Segment) :
    slotNames (a ++ b) = slotNames a ++ slotNames b := List.filterMap_append

theorem slotNames_sumSegments (c : PlaceColumns) (terms : List String) :
    slotNames (sumSegments c terms) = terms.flatMap armSlots := by
  induction terms with
  | nil => rfl
  | cons name terms ih =>
    rw [List.flatMap_cons, ← ih, ← slotNames_armSegments c, ← slotNames_append]
    rfl

theorem slotNames_ringSegments (c : PlaceColumns) (terms : List String) :
    slotNames (ringSegments c terms) = terms.flatMap armSlots := by
  cases terms with
  | nil => rfl
  | cons name terms =>
    rw [List.flatMap_cons, ← slotNames_sumSegments c, ← slotNames_armSegments c,
      ← slotNames_append]
    rfl

/-- A term uses its placeholders several times, and no others. -/
theorem mem_armSlots_iff {α : Type} (a : Arm α) (name : String) :
    name ∈ armSlots a.name ↔ name ∈ a.params.map Prod.fst := by
  simp only [armSlots, Arm.params, List.map_cons, List.map_nil, List.mem_cons]
  tauto

theorem map_fst_params (ps : List (String × Float)) :
    (params ps).map Prod.fst = ps.map Prod.fst := by
  rw [params, List.map_map]
  rfl

theorem ring_isWrittenAs {vertices : Value} {vs : List Value} {ring : List (Point Float)}
    (hvs : vertices.items? = some vs) (h : AreRead vs ring) :
    IsWrittenAs (.ring vertices)
      (ringSegments .standard ((arms (Ring.close ring)).map Arm.name))
      (params ((arms (Ring.close ring)).flatMap Arm.params)) where
  wellFormed := by
    have hplain : PlaceColumns.standard.plain = .standard := by rfl
    rw [← hplain]
    exact ringSegments_isWellFormed _ _
  fits names := by
    rw [map_renamed_ringSegments]
    exact fits_ringSegments _ _
  nodup := by
    rw [map_fst_params]
    exact nodup_keys_armParams _
  slots name := by
    rw [slotNames_ringSegments, map_fst_params]
    simp only [List.flatMap_map, List.map_flatMap, List.mem_flatMap, mem_armSlots_iff]
  build names := by
    obtain ⟨sql, hsql, heq⟩ := withinRing_written (PlaceColumns.renamed names) (Ring.close ring)
    refine ⟨sql, ?_, ?_⟩
    · rw [map_renamed_ringSegments, hsql]
    · rw [← heq]
      exact withinRingValue_eq (elements?_of_items? hvs) h _

/-- **Every request has a layout.** -/
theorem exists_layout {q : Request} (hq : q.IsRead) :
    ∃ layout params, IsWrittenAs q layout params := by
  cases q with
  | radius lat lng miles =>
    obtain ⟨⟨x, hx⟩, ⟨y, hy⟩, m, hm⟩ := hq
    exact ⟨_, _, radius_isWrittenAs hx hy hm⟩
  | bounds north south east west =>
    obtain ⟨⟨n, hn⟩, ⟨s, hs⟩, ⟨e, he⟩, w, hw⟩ := hq
    exact ⟨_, _, bounds_isWrittenAs hn hs he hw⟩
  | ring vertices =>
    obtain ⟨vs, hvs, hvertices⟩ := hq
    obtain ⟨ring, hring⟩ := exists_ring hvertices
    exact ⟨_, _, ring_isWrittenAs hvs hring⟩
  | envelope north south east west =>
    obtain ⟨⟨n, hn⟩, ⟨s, hs⟩, ⟨e, he⟩, w, hw⟩ := hq
    exact ⟨_, _, envelope_isWrittenAs hn hs he hw⟩
  | polygon vertices =>
    obtain ⟨wkt, hwkt⟩ := exists_wkt hq
    exact ⟨_, _, polygon_isWrittenAs hwkt⟩

/-! ## 4. Requests on their own -/

/-- The placeholders of a request are those that it gives values for. -/
theorem IsWrittenAs.binds {q : Request} {layout : List Segment} {params : List (String × Value)}
    (h : IsWrittenAs q layout params) {sql : String}
    (hsql : sql.toList = source (layout.map (renamed names))) : Binds sql params where
  nodup := h.nodup
  names name := by
    rw [names_of_source hsql (renamed_isWellFormed names h.wellFormed) (h.fits names),
      slotNames_renamed]
    exact h.slots name

/-- What a caller names a column adds only letters and digits of ASCII, underscores and points. -/
theorem column_chars {layout : List Segment} {cs : List Char}
    (hcs : .column cs ∈ layout.map (renamed names)) {c : Char} (hc : c ∈ cs) :
    c.isAlphanum = true ∨ c = '_' ∨ c = '.' := by
  obtain ⟨s, -, hs⟩ := List.mem_map.1 hcs
  cases s with
  | column role =>
    cases hs
    have hchar := List.all_eq_true.1 (plainIdentifier_isWellFormed _) c hc
    simpa [isColumnChar, or_assoc] using hchar
  | _ => cases hs

/-- **A condition on the place binds exactly its own placeholders.**  Its text is a layout that does
not depend on what the columns are called, and its values are those of the placeholders found in
this text, each under one name.  A column adds only characters of plain names.  So the condition is
rendered on its own, and every placeholder is a parameter with the value given for its name. -/
theorem request_binds_placeholders {q : Request} (hq : q.IsRead) :
    ∃ (layout : List Segment) (params : List (String × Value)),
      (params.map Prod.fst).Nodup ∧
      ∀ names : String → String, ∃ sql : String,
        q.build names = .ok (.raw sql params) ∧
        sql.toList = source (layout.map (renamed names)) ∧
        (∀ cs, .column cs ∈ layout.map (renamed names) →
          ∀ c ∈ cs, c.isAlphanum = true ∨ c = '_' ∨ c = '.') ∧
        (∀ name, name ∈ Template.names sql ↔ name ∈ params.map Prod.fst) ∧
        ∀ today, ∃ ps r, clause today (.raw sql params) = .ok (.leaf ps) ∧
          Rendering.ofPieces ps = .ok r ∧
          r.Writes (filled (valuePiece params) (layout.map (renamed names))) r.sql.toList ∧
          ∀ name, r.params.lookup name = params.lookup name := by
  obtain ⟨layout, params, h⟩ := exists_layout hq
  refine ⟨layout, params, h.nodup, fun names => ?_⟩
  obtain ⟨sql, hsql, hbuild⟩ := h.build names
  have hbinds : Binds sql params := h.binds names hsql
  refine ⟨sql, hbuild, hsql, fun cs hcs c hc => column_chars names hcs hc, hbinds.names,
    fun today => ?_⟩
  obtain ⟨ps, r, hclause, hr, hwrites, hlookup⟩ := hbinds.rendered today
  rw [symbols_fragment hsql (renamed_isWellFormed names h.wellFormed) (h.fits names) hclause]
    at hwrites
  exact ⟨ps, r, hclause, hr, hwrites, hlookup⟩

/-- Names of columns that would end the statement, were they written as they are. -/
def joinedNames (column : String) : String := "l." ++ column ++ ") = 1; --"

theorem request_binds_placeholders_joinedSquare :
    (Request.ring (.list squareVertices)).IsRead ∧
      ∃ sql params, (Request.ring (.list squareVertices)).build joinedNames =
          .ok (.raw sql params) ∧
        ∀ name, name ∈ Template.names sql ↔ name ∈ params.map Prod.fst := by
  have hread : (Request.ring (.list squareVertices)).IsRead := by
    refine ⟨squareVertices, rfl, fun v hv => ?_⟩
    obtain ⟨p, -, rfl⟩ := List.mem_map.1 hv
    exact ⟨.float p.lat, .float p.lng, [], rfl, ⟨p.lat, rfl⟩, p.lng, rfl⟩
  obtain ⟨layout, params, -, h⟩ := request_binds_placeholders hread
  obtain ⟨sql, hbuild, -, -, hnames, -⟩ := h joinedNames
  exact ⟨hread, sql, params, hbuild, hnames⟩

end Realty.Geo
