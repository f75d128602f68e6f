/-
# The vertices of accepted polygons

A polygon that is accepted has at least three vertices, and each is read as a place with finite
coordinates.

* `exists_places`: the vertices are the places of a ring, whichever coordinate is read first.
* `close_eq`: closing a ring of finite places adds its first place unless the last one has the same
  numbers.
* `closeValue_again`: what is closed is closed.
-/
import Mathlib
import Realty.Proofs.Double.Comparison
import Realty.Proofs.Geo.Polygon

namespace Realty.Geo

open Double (isFinite toRat?)

/-! ## 1. Places -/

/-- Whether both coordinates are finite. -/
def Point.IsFinite (p : Point Float) : Prop := isFinite p.lat = true ∧ isFinite p.lng = true

/-- Whether the coordinates of two places stand for the same numbers. -/
def Point.SameNumbers (p q : Point Float) : Prop :=
  toRat? p.lat = toRat? q.lat ∧ toRat? p.lng = toRat? q.lng

instance (p q : Point Float) : Decidable (p.SameNumbers q) :=
  inferInstanceAs (Decidable (_ ∧ _))

theorem Point.isFinite_of_onGlobe {p : Point Float} (h : p.onGlobe = true) : p.IsFinite := by
  simp only [Point.onGlobe, Point.inRange, Bool.and_eq_true, decide_eq_true_eq] at h
  obtain ⟨⟨⟨hsouth, hnorth⟩, hwest⟩, heast⟩ := h
  exact ⟨Double.isFinite_of_le rfl rfl hsouth hnorth, Double.isFinite_of_le rfl rfl hwest heast⟩

/-- Finite places meet where their numbers are the same. -/
theorem meets_iff {p q : Point Float} (hp : p.IsFinite) (hq : q.IsFinite) :
    Ring.meets p q = true ↔ p.SameNumbers q := by
  rw [Ring.meets, Bool.and_eq_true, Double.beq_iff_toRat? hp.1 hq.1,
    Double.beq_iff_toRat? hp.2 hq.2]
  exact Iff.rfl

/-! ## 2. Accepted vertices -/

theorem coordinate_of_polygonCoordinate? {v : Value} {x : Float}
    (h : polygonCoordinate? v = some (.ok x)) : coordinate v = .ok x := by
  cases v with
  | int n => exact Option.some.inj h
  | float y => exact Option.some.inj h
  | _ => cases h

/-- An accepted vertex is read as its place, whichever coordinate is read first. -/
theorem vertex_of_polygonVertex? {v : Value} {p : Point Float}
    (h : polygonVertex? v = some (.ok p)) : vertex v = .ok p ∧ unpackedVertex v = .ok p := by
  unfold polygonVertex? at h
  split at h
  · next lat lng rest hitems =>
    split at h
    · next x y hlat hlng =>
      obtain ⟨a, rfl, hrest⟩ := bind_eq_ok_iff.1 (Option.some.inj h)
      obtain ⟨b, rfl, hp⟩ := bind_eq_ok_iff.1 hrest
      cases hp
      have hlat := coordinate_of_polygonCoordinate? hlat
      have hlng := coordinate_of_polygonCoordinate? hlng
      cases v with
      | list _ | tuple _ =>
        cases hitems
        constructor
        · show (do
            let lat ← coordinate lat
            let lng ← coordinate lng
            return (⟨lat, lng⟩ : Point Float)) = _
          rw [hlat, hlng]
          rfl
        · show (do
            let lng ← coordinate lng
            let lat ← coordinate lat
            return (⟨lat, lng⟩ : Point Float)) = _
          rw [hlat, hlng]
          rfl
      | _ => cases hitems
    · cases h
  · cases h

/-- The vertices that are accepted are the places of a ring. -/
theorem areVertices_eq_ok_true {vs : List Value} (h : areVertices vs = .ok true) :
    ∃ ring : List (Point Float), vs.map polygonVertex? = ring.map (some ∘ Except.ok) ∧
      ∀ p ∈ ring, p.IsFinite := by
  induction vs with
  | nil => exact ⟨[], rfl, by simp⟩
  | cons v vs ih =>
    rw [areVertices] at h
    split at h
    · cases h
    · next r hv =>
      obtain ⟨p, rfl, hrest⟩ := bind_eq_ok_iff.1 h
      split at hrest
      · next hp =>
        obtain ⟨ring, hring, hfinite⟩ := ih hrest
        refine ⟨p :: ring, by rw [List.map_cons, hv, hring]; rfl, fun q hq => ?_⟩
        rcases List.mem_cons.1 hq with rfl | hq
        · exact Point.isFinite_of_onGlobe hp
        · exact hfinite q hq
      · cases hrest

/-- What an accepted polygon is: a list or tuple of at least three vertices with finite places. -/
structure HasPlaces (polygon : Value) (vs : List Value) (ring : List (Point Float)) : Prop where
  items : polygon.items? = some vs
  long : 3 ≤ vs.length
  vertices : vs.map polygonVertex? = ring.map (some ∘ Except.ok)
  finite : ∀ p ∈ ring, p.IsFinite

/-- **An accepted polygon is read as a ring of finite places.** -/
theorem exists_places {polygon : Value} (h : isPolygon polygon = .ok true) :
    ∃ vs ring, HasPlaces polygon vs ring := by
  unfold isPolygon at h
  split at h
  · next vs hitems =>
    split at h
    · cases h
    · next hlong =>
      obtain ⟨ring, hring, hfinite⟩ := areVertices_eq_ok_true h
      exact ⟨vs, ring, hitems, Nat.not_lt.1 hlong, hring, hfinite⟩
  · cases h

namespace HasPlaces

variable {polygon : Value} {vs : List Value} {ring : List (Point Float)}

/-- Every vertex has a place that is read from it in either order. -/
theorem readings (h : HasPlaces polygon vs ring) :
    AreRead vs ring ∧ ∀ v ∈ vs, unpackedVertex v = vertex v := by
  have hvertex {v : Value} (hv : v ∈ vs) :
      ∃ p, polygonVertex? v = some (.ok p) ∧ vertex v = .ok p ∧ unpackedVertex v = .ok p := by
    have hmem : polygonVertex? v ∈ ring.map (some ∘ Except.ok) := by
      rw [← h.vertices]
      exact List.mem_map_of_mem hv
    obtain ⟨p, -, hp⟩ := List.mem_map.1 hmem
    exact ⟨p, hp.symm, vertex_of_polygonVertex? hp.symm⟩
  constructor
  · have hplace : ∀ v ∈ vs, vertex v = (polygonVertex? v).getD (.error (.tooFewElements 0)) := by
      intro v hv
      obtain ⟨p, hp, hread, -⟩ := hvertex hv
      rw [hread, hp]
      rfl
    have hmap := congrArg
      (List.map fun r => Option.getD r (Except.error (Fault.tooFewElements 0))) h.vertices
    rw [List.map_map, List.map_map] at hmap
    exact (List.map_congr_left hplace).trans hmap
  · intro v hv
    obtain ⟨p, -, hread, hunpacked⟩ := hvertex hv
    rw [hread, hunpacked]

theorem elements (h : HasPlaces polygon vs ring) : elements? polygon = some vs :=
  elements?_of_items? h.items

theorem length_eq (h : HasPlaces polygon vs ring) : vs.length = ring.length :=
  h.readings.1.length_eq

theorem ring_ne_nil (h : HasPlaces polygon vs ring) : ring ≠ [] := by
  rintro rfl
  have hlong := h.long
  rw [h.length_eq] at hlong
  cases hlong

theorem exists_ends (h : HasPlaces polygon vs ring) :
    ∃ first last, ring.head? = some first ∧ ring.getLast? = some last :=
  ⟨_, _, List.head?_eq_some_head h.ring_ne_nil, List.getLast?_eq_some_getLast h.ring_ne_nil⟩

end HasPlaces

/-! ## 3. Closing -/

variable {ring : List (Point Float)} {first last : Point Float}

/-- **Closing adds the first place unless the last one has the same numbers.** -/
theorem close_eq (hfinite : ∀ p ∈ ring, p.IsFinite) (hfirst : ring.head? = some first)
    (hlast : ring.getLast? = some last) :
    Ring.close ring = ring ++ if first.SameNumbers last then [] else [first] := by
  obtain ⟨rest, rfl⟩ := List.head?_eq_some_iff.1 hfirst
  have hmeets := meets_iff (hfinite first List.mem_cons_self)
    (hfinite last (List.mem_of_getLast? hlast))
  simp only [Ring.close, hlast, hmeets]
  split
  · rw [List.append_nil]
  · rfl

/-- Whether the last place of a ring is the first one again, by its numbers. -/
def Ring.EndsMeet (ring : List (Point Float)) : Prop :=
  ∃ first last, ring.head? = some first ∧ ring.getLast? = some last ∧ first.SameNumbers last

theorem endsMeet_iff (hfirst : ring.head? = some first) (hlast : ring.getLast? = some last) :
    Ring.EndsMeet ring ↔ first.SameNumbers last := by
  constructor
  · rintro ⟨a, b, ha, hb, hsame⟩
    rw [hfirst] at ha
    rw [hlast] at hb
    cases ha
    cases hb
    exact hsame
  · exact fun hsame => ⟨first, last, hfirst, hlast, hsame⟩

/-- The ends of a closed ring meet. -/
theorem close_endsMeet (hfinite : ∀ p ∈ ring, p.IsFinite) (hne : ring ≠ []) :
    Ring.EndsMeet (Ring.close ring) := by
  obtain ⟨first, rest, rfl⟩ := List.exists_cons_of_ne_nil hne
  have hlast := List.getLast?_eq_some_getLast hne
  have hclose := close_eq hfinite rfl hlast
  split at hclose
  · next hsame =>
    rw [List.append_nil] at hclose
    exact ⟨first, _, by rw [hclose]; rfl, by rw [hclose, hlast], hsame⟩
  · exact ⟨first, first, by rw [hclose]; rfl, by rw [hclose, List.getLast?_concat], rfl, rfl⟩

theorem close_finite (hfinite : ∀ p ∈ ring, p.IsFinite) : ∀ p ∈ Ring.close ring, p.IsFinite := by
  intro p hp
  refine hfinite p ?_
  unfold Ring.close at hp
  split at hp
  · split at hp
    · exact hp
    · rcases List.mem_append.1 hp with hp | hp
      · exact hp
      · obtain rfl := List.mem_singleton.1 hp
        exact List.mem_cons_self
  · exact hp

/-- **What is closed is closed.** -/
theorem close_close (hfinite : ∀ p ∈ ring, p.IsFinite) :
    Ring.close (Ring.close ring) = Ring.close ring := by
  rcases eq_or_ne ring [] with rfl | hne
  · rfl
  · obtain ⟨first, last, hfirst, hlast, hsame⟩ := close_endsMeet hfinite hne
    rw [close_eq (close_finite hfinite) hfirst hlast, if_pos hsame, List.append_nil]

/-- A polygon given as a value is closed by its own first vertex. -/
theorem closeValue_cases {polygon : Value} {vs closed : List Value}
    (hvs : elements? polygon = some vs) (h : closeValue polygon = .ok closed) :
    closed = vs ∨ ∃ v ∈ vs, closed = vs ++ [v] := by
  unfold closeValue at h
  rw [hvs] at h
  simp only at h
  split at h
  · next v rest last hlast =>
    obtain ⟨b, -, hlat⟩ := bind_eq_ok_iff.1 h
    split at hlat
    · cases hlat
      exact .inr ⟨v, List.mem_cons_self, rfl⟩
    · obtain ⟨c, -, hlng⟩ := bind_eq_ok_iff.1 hlat
      split at hlng
      · cases hlng
        exact .inr ⟨v, List.mem_cons_self, rfl⟩
      · cases hlng
        exact .inl rfl
  · cases h
    exact .inl rfl

/-- **An accepted polygon is closed as its ring is**, once and for all, and its text is that of the
closed ring. -/
theorem HasPlaces.closed {polygon : Value} {vs : List Value} (h : HasPlaces polygon vs ring) :
    ∃ closed, closeValue polygon = .ok closed ∧ AreRead closed (Ring.close ring) ∧
      closeValue (.list closed) = .ok closed ∧
      wktValue polygon = .ok (Wkt.polygon ring) := by
  obtain ⟨hread, hunpacked⟩ := h.readings
  obtain ⟨closed, hclosed, hclosedRead⟩ := closeValue_eq h.elements hread
  refine ⟨closed, hclosed, hclosedRead, ?_, ?_⟩
  · have helements : elements? (.list closed) = some closed := rfl
    obtain ⟨again, hagain, hagainRead⟩ := closeValue_eq helements hclosedRead
    rw [close_close h.finite] at hagainRead
    have hlength : again.length = closed.length :=
      hagainRead.length_eq.trans hclosedRead.length_eq.symm
    rcases closeValue_cases helements hagain with rfl | ⟨v, -, rfl⟩
    · exact hagain
    · rw [List.length_append, List.length_singleton] at hlength
      omega
  · have hsame : ∀ v ∈ closed, unpackedVertex v = vertex v := by
      intro v hv
      rcases closeValue_cases h.elements hclosed with rfl | ⟨first, hfirst, rfl⟩
      · exact hunpacked v hv
      · rcases List.mem_append.1 hv with hv | hv
        · exact hunpacked v hv
        · obtain rfl := List.mem_singleton.1 hv
          exact hunpacked v hfirst
    have hplaces := mapM_of_map ((List.map_congr_left hsame).trans hclosedRead)
    rw [wktValue, hclosed]
    show (do
      let places ← closed.mapM unpackedVertex
      pure (Wkt.ofRing places)) = _
    rw [hplaces]
    rfl

end Realty.Geo
