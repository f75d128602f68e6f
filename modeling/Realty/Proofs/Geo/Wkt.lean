/-
# What the well-known text of a polygon says

The text is read by itself: a ring is the points between the brackets, and a point is a longitude
and a latitude with a blank between them.

* `read?_ofRing`: the text of a ring of finite places is read as that ring.
* `wkt_encodes`: so the text of an accepted polygon says its places in order, with the first one
  repeated unless the last one has the same numbers, and it tells closed rings apart.
* `wkt_isLegal_iff`: the ring in it is one that a database takes, except for three vertices of
  which the last repeats the first.
-/
import Mathlib
import Realty.Filter.Area
import Realty.Proofs.Geo.Vertices
import Realty.Proofs.Text.Parts

namespace Realty.Geo

/-! ## 1. Reading -/

namespace Wkt

/-- The double that a text writes. -/
def number? (cs : List Char) : Option Float := (Text.Numeral.read? cs).map Double.ofNumeral

/-- The place that a text writes, longitude first; blanks before it do not count. -/
def point? (cs : List Char) : Option (Point Float) :=
  match Text.splitOn ' ' (Text.trimLeft cs) with
  | [lng, lat] => do return ⟨← number? lat, ← number? lng⟩
  | _ => none

/-- The ring that the text of a polygon writes. -/
def read? (text : String) : Option (List (Point Float)) := do
  let opened ← text.toList.dropPrefix? "POLYGON((".toList
  let inner ← opened.dropSuffix? "))".toList
  (Text.splitOn ',' inner).mapM point?

variable {p : Point Float} {ring : List (Point Float)}

theorem toList_point (p : Point Float) :
    (point p).toList = Double.textChars p.lng ++ ' ' :: Double.textChars p.lat := by
  simp [point, Double.text]

/-- A character that no number has stands in no text of a number. -/
theorem not_mem_textChars {x : Float} (hx : Double.isFinite x = true) {c : Char}
    (hc : Double.isFloatChar c = false) : c ∉ Double.textChars x := by
  intro hmem
  rw [Double.textChars_chars hx c hmem] at hc
  cases hc

/-- **A point is read back**, with or without a blank before it. -/
theorem point?_point (hp : p.IsFinite) {blanks : List Char}
    (hblanks : ∀ c ∈ blanks, Text.isBlank c = true) :
    point? (blanks ++ (point p).toList) = some p := by
  have htrim : Text.trimLeft (blanks ++ (point p).toList) = (point p).toList := by
    rw [Text.trimLeft, List.dropWhile_append_of_pos hblanks, toList_point]
    obtain ⟨c, r, htext⟩ := List.exists_cons_of_ne_nil (Double.textChars_ne_nil hp.2)
    have hfirst : Double.isFloatChar c = true :=
      Double.textChars_chars hp.2 c (by rw [htext]; exact List.mem_cons_self)
    rw [htext, List.cons_append, List.dropWhile_cons, Double.isBlank_of_isFloatChar hfirst]
    rfl
  have hparts : Text.splitOn ' ' (point p).toList =
      [Double.textChars p.lng, Double.textChars p.lat] := by
    rw [toList_point, Text.splitOn_append (not_mem_textChars hp.2 rfl),
      Text.splitOn_of_not_mem (not_mem_textChars hp.1 rfl)]
  simp only [point?, htrim, hparts, number?, Double.read?_textChars hp.1,
    Double.read?_textChars hp.2]
  rfl

theorem comma_not_mem_point (hp : p.IsFinite) : ',' ∉ (point p).toList := by
  rw [toList_point, List.mem_append, List.mem_cons, not_or, not_or]
  exact ⟨not_mem_textChars hp.2 rfl, by decide, not_mem_textChars hp.1 rfl⟩

/-- **The text of a ring is read as that ring.** -/
theorem read?_ofRing (hne : ring ≠ []) (hfinite : ∀ p ∈ ring, p.IsFinite) :
    read? (ofRing ring) = some ring := by
  obtain ⟨first, rest, rfl⟩ := List.exists_cons_of_ne_nil hne
  obtain ⟨hfirst, hrest⟩ := List.forall_mem_cons.1 hfinite
  have hseparator : ", ".toList = ',' :: [' '] := rfl
  have hcommas : ∀ s ∈ point first :: rest.map point, ',' ∉ s.toList := by
    intro s hs
    obtain ⟨p, hp, rfl⟩ := List.mem_map.1 (List.map_cons ▸ hs : s ∈ (first :: rest).map point)
    exact comma_not_mem_point (hfinite p hp)
  have hsplit := Text.splitOn_joined hseparator (by decide) (point first) (rest.map point) hcommas
  have hblank : ∀ c ∈ [' '], Text.isBlank c = true :=
    List.forall_mem_singleton.2 (by decide)
  -- the blank of the separator stands before every point but the first
  have hhead := @point?_point first hfirst [] (by simp)
  rw [List.nil_append] at hhead
  have htail : ∀ p ∈ rest, point? ([' '] ++ (point p).toList) = some p := fun p hp =>
    point?_point (hrest p hp) hblank
  have hpoints : ((point first).toList :: (rest.map point).map fun s => [' '] ++ s.toList).map
      point? = (first :: rest).map pure := by
    rw [List.map_cons, List.map_cons, hhead, List.map_map, List.map_map]
    refine congrArg (_ :: ·) (List.map_congr_left fun p hp => ?_)
    rw [Function.comp_apply, Function.comp_apply, htail p hp]
    rfl
  have htext : (ofRing (first :: rest)).toList = "POLYGON((".toList ++
      ((Text.joined ", " ((first :: rest).map point)).toList ++ "))".toList) := by
    rw [ofRing, String.toList_append, String.toList_append, List.append_assoc]
  have hopened : (ofRing (first :: rest)).toList.dropPrefix? "POLYGON((".toList =
      some ((Text.joined ", " ((first :: rest).map point)).toList ++ "))".toList) :=
    List.dropPrefix?_eq_some_iff.2 ⟨"POLYGON((".toList, htext, beq_self_eq_true _⟩
  have hinner : ((Text.joined ", " ((first :: rest).map point)).toList ++
      "))".toList).dropSuffix? "))".toList =
        some (Text.joined ", " ((first :: rest).map point)).toList :=
    List.dropSuffix?_eq_some_iff.2 ⟨"))".toList, rfl, beq_self_eq_true _⟩
  rw [read?, hopened]
  show (do
    let inner ← List.dropSuffix? _ _
    (Text.splitOn ',' inner).mapM point?) = _
  rw [hinner]
  exact (congrArg (List.mapM point?) hsplit).trans (mapM_of_map hpoints)

end Wkt

/-! ## 2. The text of an accepted polygon -/

section Accepted

variable {polygon : Value} {vs : List Value} {ring : List (Point Float)}

/-- The text of an accepted polygon is read as its closed ring. -/
theorem HasPlaces.read?_polygon (h : HasPlaces polygon vs ring) :
    Wkt.read? (Wkt.polygon ring) = some (Ring.close ring) := by
  refine Wkt.read?_ofRing ?_ (close_finite h.finite)
  obtain ⟨first, -, hfirst, -⟩ := close_endsMeet h.finite h.ring_ne_nil
  exact List.ne_nil_of_mem (List.mem_of_head? hfirst)

/-- **The text of an accepted polygon says its places in order**, followed by the first one unless
the last one has the same numbers.  Accepted polygons with one text have one closed ring, and
closing a closed polygon changes nothing. -/
theorem wkt_encodes (h : isPolygon polygon = .ok true) :
    ∃ vs points first last text closed, polygon.items? = some vs ∧ AreRead vs points ∧
      points.head? = some first ∧ points.getLast? = some last ∧
      wktValue polygon = .ok text ∧
      Wkt.read? text = some (points ++ if first.SameNumbers last then [] else [first]) ∧
      closeValue polygon = .ok closed ∧
      AreRead closed (points ++ if first.SameNumbers last then [] else [first]) ∧
      closeValue (.list closed) = .ok closed ∧
      ∀ other, isPolygon other = .ok true → wktValue other = .ok text →
        ∃ again, closeValue other = .ok again ∧ again.map vertex = closed.map vertex := by
  obtain ⟨vs, points, hplaces⟩ := exists_places h
  obtain ⟨first, last, hfirst, hlast⟩ := hplaces.exists_ends
  obtain ⟨closed, hclosed, hread, hagain, htext⟩ := hplaces.closed
  have hwritten := hplaces.read?_polygon
  have hring := close_eq hplaces.finite hfirst hlast
  refine ⟨vs, points, first, last, Wkt.polygon points, closed, hplaces.items, hplaces.readings.1,
    hfirst, hlast, htext, hring ▸ hwritten, hclosed, hring ▸ hread, hagain, ?_⟩
  intro other hother hsame
  obtain ⟨ws, places, hothers⟩ := exists_places hother
  obtain ⟨again, hclose, hotherRead, -, hotherText⟩ := hothers.closed
  have htexts : Wkt.polygon places = Wkt.polygon points :=
    Except.ok.inj (hotherText.symm.trans hsame)
  have hrings : Ring.close places = Ring.close points := by
    rw [← Option.some_inj, ← hothers.read?_polygon, ← hwritten, htexts]
  refine ⟨again, hclose, ?_⟩
  rw [AreRead] at hread hotherRead
  rw [hread, hotherRead, hrings]

/-- Vertices of every kind: integers, exponents, more than two coordinates, and a last vertex that
repeats the first but for the sign of its zero. -/
def mixedVertices : List Value :=
  [.list [.int 0, .int 10], .tuple [.float (Double.ofScaled 1 (-7)), .float 20.5, .str "gate"],
    .list [.int (-45), .float 20], .list [.float (-0.0), .float 10]]

/-- Their places. -/
def mixedPlaces : List (Point Float) :=
  [⟨0, 10⟩, ⟨Double.ofScaled 1 (-7), 20.5⟩, ⟨-45, 20⟩, ⟨-0.0, 10⟩]

theorem wkt_encodes_mixed :
    wktValue (.tuple mixedVertices) =
        .ok "POLYGON((10.0 0.0, 20.5 1e-07, 20.0 -45.0, 10.0 -0.0))" ∧
      Wkt.read? "POLYGON((10.0 0.0, 20.5 1e-07, 20.0 -45.0, 10.0 -0.0))" = some mixedPlaces := by
  have haccepted : isPolygon (.tuple mixedVertices) = .ok true := rfl
  have hwritten : wktValue (.tuple mixedVertices) =
      .ok "POLYGON((10.0 0.0, 20.5 1e-07, 20.0 -45.0, 10.0 -0.0))" := by decide +kernel
  have hplaces : AreRead mixedVertices mixedPlaces := rfl
  have hmeet : (⟨0, 10⟩ : Point Float).SameNumbers ⟨-0.0, 10⟩ := by decide +kernel
  obtain ⟨vs, points, first, last, text, -, hitems, hread, hfirst, hlast, htext, hring, -⟩ :=
    wkt_encodes haccepted
  cases hitems
  obtain rfl : points = mixedPlaces :=
    List.map_injective_iff.2 (fun _ _ => Except.ok.inj) (hread.symm.trans hplaces)
  obtain rfl : first = ⟨0, 10⟩ := (Option.some.inj hfirst).symm
  obtain rfl : last = ⟨-0.0, 10⟩ := (Option.some.inj hlast).symm
  rw [hwritten] at htext
  cases htext
  rw [if_pos hmeet, List.append_nil] at hring
  exact ⟨hwritten, hring⟩

/-! ## 3. Rings that a database takes -/

/-- What a database asks of the ring of a polygon: at least four points, and the last one is the
first one again, by its numbers. -/
def Wkt.IsLegal (ring : List (Point Float)) : Prop := 4 ≤ ring.length ∧ Ring.EndsMeet ring

/-- The compiled condition on an accepted polygon binds its text. -/
theorem HasPlaces.polygonCondition (h : HasPlaces polygon vs ring)
    (haccepted : isPolygon polygon = .ok true) (room : Room) :
    Filter.Area.polygonCondition room polygon = .ok [inPolygon placeColumn ring] := by
  have hplaces : vs.filterMap (fun p => (polygonVertex? p).bind Except.toOption) = ring := by
    have hmap := congrArg (List.filterMap fun r => Option.bind r Except.toOption) h.vertices
    rw [List.filterMap_map, List.filterMap_map] at hmap
    exact hmap.trans List.filterMap_some
  have hpolygon : Filter.Area.polygonOfValue polygon = .ok ring := by
    rw [Filter.Area.polygonOfValue, haccepted, h.items]
    exact congrArg Except.ok hplaces
  have hgiven : polygon.isBlank = false ∧ Filter.Area.polygonValue room polygon = .ok polygon := by
    have hlong := h.long
    have hitems := h.items
    have hne : vs ≠ [] := by
      rintro rfl
      cases hlong
    cases polygon with
    | list _ | tuple _ =>
      cases hitems
      exact ⟨List.isEmpty_eq_false_iff.2 hne, rfl⟩
    | _ => cases hitems
  have hread : Filter.Area.polygon room polygon = .ok ring := by
    rw [Filter.Area.polygon, hgiven.2]
    exact hpolygon
  rw [Filter.Area.polygonCondition, hgiven.1, if_neg Bool.false_ne_true, hread]
  rfl

/-- **The ring of an accepted polygon is one that a database takes**, unless the polygon has three
vertices of which the last repeats the first: it is closed already, and has three points.  The ends
of the ring have the same numbers, and they are the same doubles unless the polygon came closed up
to the sign of a zero. -/
theorem wkt_isLegal_iff (h : isPolygon polygon = .ok true) :
    ∃ vs points text ring, polygon.items? = some vs ∧ AreRead vs points ∧
      wktValue polygon = .ok text ∧
      (∀ room, Filter.Area.polygonCondition room polygon =
        .ok [inPolygonText placeColumn text]) ∧
      Wkt.read? text = some ring ∧ Ring.EndsMeet ring ∧
      (ring.head? = ring.getLast? ↔ (Ring.EndsMeet points → points.head? = points.getLast?)) ∧
      (Wkt.IsLegal ring ↔ ¬ (vs.length = 3 ∧ Ring.EndsMeet points)) := by
  obtain ⟨vs, points, hplaces⟩ := exists_places h
  obtain ⟨first, last, hfirst, hlast⟩ := hplaces.exists_ends
  obtain ⟨-, -, -, -, htext⟩ := hplaces.closed
  have hmeet := close_endsMeet hplaces.finite hplaces.ring_ne_nil
  have hclose := close_eq hplaces.finite hfirst hlast
  refine ⟨vs, points, Wkt.polygon points, Ring.close points, hplaces.items, hplaces.readings.1,
    htext, hplaces.polygonCondition h, hplaces.read?_polygon, hmeet, ?_, ?_⟩
  · rw [hclose, endsMeet_iff hfirst hlast]
    split
    · next hsame => rw [List.append_nil, forall_prop_of_true hsame]
    · next hapart =>
      rw [List.head?_append, hfirst, List.getLast?_concat]
      simp [hapart]
  · have hlong := hplaces.long
    have hlength : (Ring.close points).length =
        vs.length + if first.SameNumbers last then 0 else 1 := by
      rw [hclose, List.length_append, hplaces.length_eq]
      split <;> rfl
    rw [Wkt.IsLegal, hlength, and_iff_left hmeet, endsMeet_iff hfirst hlast]
    split
    · next hsame =>
      simp only [hsame, and_true]
      omega
    · next hapart =>
      simp only [hapart, and_false, not_false_eq_true, iff_true]
      omega

/-- A polygon with three corners. -/
def openTriangle : Value :=
  .list [.list [.int 0, .int 0], .list [.int 1, .int 1], .list [.int 1, .int 0]]

theorem wkt_isLegal_iff_openTriangle :
    ∃ ring, Wkt.read? "POLYGON((0.0 0.0, 1.0 1.0, 0.0 1.0, 0.0 0.0))" = some ring ∧
      Wkt.IsLegal ring := by
  have haccepted : isPolygon openTriangle = .ok true := rfl
  have hwritten : wktValue openTriangle = .ok "POLYGON((0.0 0.0, 1.0 1.0, 0.0 1.0, 0.0 0.0))" := by
    decide +kernel
  have hplaces : openTriangle.items?.map (·.map vertex) =
      some ([⟨0, 0⟩, ⟨1, 1⟩, ⟨1, 0⟩].map .ok) := rfl
  have hapart : ¬ (⟨0, 0⟩ : Point Float).SameNumbers ⟨1, 0⟩ := by decide +kernel
  obtain ⟨vs, points, text, ring, hitems, hread, htext, -, hring, -, -, hlegal⟩ :=
    wkt_isLegal_iff haccepted
  rw [hwritten] at htext
  cases htext
  rw [hitems, Option.map_some, Option.some_inj, hread] at hplaces
  obtain rfl := List.map_injective_iff.2 (fun _ _ => Except.ok.inj) hplaces
  refine ⟨ring, hring, hlegal.2 fun hclosed => hapart ?_⟩
  exact (endsMeet_iff rfl rfl).1 hclosed.2

/-- A polygon of three vertices that goes to another corner and back. -/
def thereAndBack : Value :=
  .list [.list [.int 0, .int 0], .list [.int 1, .int 1], .list [.int 0, .int 0]]

theorem thereAndBack_not_isLegal :
    isPolygon thereAndBack = .ok true ∧
      wktValue thereAndBack = .ok "POLYGON((0.0 0.0, 1.0 1.0, 0.0 0.0))" ∧
      (∀ room, Filter.Area.polygonCondition room thereAndBack =
        .ok [inPolygonText placeColumn "POLYGON((0.0 0.0, 1.0 1.0, 0.0 0.0))"]) ∧
      ∃ ring, Wkt.read? "POLYGON((0.0 0.0, 1.0 1.0, 0.0 0.0))" = some ring ∧
        ¬ Wkt.IsLegal ring := by
  have hcondition (room : Room) : Filter.Area.polygonCondition room thereAndBack =
      .ok [inPolygon placeColumn [⟨0, 0⟩, ⟨1, 1⟩, ⟨0, 0⟩]] := rfl
  have hpolygon : Wkt.polygon [⟨0, 0⟩, ⟨1, 1⟩, ⟨0, 0⟩] =
      "POLYGON((0.0 0.0, 1.0 1.0, 0.0 0.0))" := by decide +kernel
  have hring : Wkt.read? "POLYGON((0.0 0.0, 1.0 1.0, 0.0 0.0))" =
      some [⟨0, 0⟩, ⟨1, 1⟩, ⟨0, 0⟩] := by decide +kernel
  simp only [inPolygon, hpolygon] at hcondition
  exact ⟨rfl, by decide +kernel, hcondition, _, hring, fun hlegal => absurd hlegal.1 (by decide)⟩

end Accepted

end Realty.Geo
