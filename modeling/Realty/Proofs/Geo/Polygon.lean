/-
# Polygons given as values

Once its vertices can be read, what is done with a polygon is done with the ring of its places.

* `closeValue_eq`: closing the polygon closes its ring.
* `withinRingValue_eq`: the condition on the polygon is that on its closed ring.
* `containsValue_eq`: it contains a place of doubles exactly when its ring does, where doubles are
  compared by the numbers they stand for.
-/
import Realty.Geo.Reading

namespace Realty.Geo

/-! ## 1. Vertices -/

/-- Whether values are read as the places of a ring. -/
def AreRead (vs : List Value) (ring : List (Point Float)) : Prop := vs.map vertex = ring.map .ok

/-- The items of a list or tuple are its elements. -/
theorem elements?_of_items? {v : Value} {vs : List Value} (h : v.items? = some vs) :
    elements? v = some vs := by
  cases v with
  | list _ | tuple _ => exact h
  | _ => cases h

/-- The coordinates of a vertex are read by themselves. -/
theorem coordinates_of_vertex {v : Value} {p : Point Float} (h : vertex v = .ok p) :
    (element v 0 >>= coordinate) = .ok p.lat ∧ (element v 1 >>= coordinate) = .ok p.lng := by
  unfold vertex at h
  obtain ⟨x, hx, h⟩ := bind_eq_ok_iff.1 h
  obtain ⟨lat, hlat, h⟩ := bind_eq_ok_iff.1 h
  obtain ⟨y, hy, h⟩ := bind_eq_ok_iff.1 h
  obtain ⟨lng, hlng, h⟩ := bind_eq_ok_iff.1 h
  cases h
  exact ⟨bind_eq_ok_iff.2 ⟨x, hx, hlat⟩, bind_eq_ok_iff.2 ⟨y, hy, hlng⟩⟩

theorem differAt_eq {a b : Value} {i : Nat} {x y : Float}
    (hx : (element a i >>= coordinate) = .ok x) (hy : (element b i >>= coordinate) = .ok y) :
    differAt a b i = .ok (x != y) := by
  obtain ⟨v, hv, hx⟩ := bind_eq_ok_iff.1 hx
  obtain ⟨w, hw, hy⟩ := bind_eq_ok_iff.1 hy
  rw [differAt, hv, hw]
  simp only [bind, Except.bind, hx, hy]
  rfl

/-- What is read from every element is read from the list. -/
theorem mapM_of_map {m : Type → Type} [Monad m] [LawfulMonad m] {α β : Type} {f : α → m β}
    {xs : List α} {ys : List β} (h : xs.map f = ys.map pure) : xs.mapM f = pure ys := by
  induction xs generalizing ys with
  | nil =>
    rw [List.map_eq_nil_iff.1 h.symm]
    rfl
  | cons x xs ih =>
    cases ys with
    | nil => cases h
    | cons y ys =>
      obtain ⟨hx, hxs⟩ := List.cons.inj h
      rw [List.mapM_cons, hx, ih hxs, pure_bind, pure_bind]

theorem AreRead.append {vs ws : List Value} {ring side : List (Point Float)}
    (h : AreRead vs ring) (h' : AreRead ws side) : AreRead (vs ++ ws) (ring ++ side) := by
  rw [AreRead, List.map_append, List.map_append, h, h']

theorem AreRead.length_eq {vs : List Value} {ring : List (Point Float)} (h : AreRead vs ring) :
    vs.length = ring.length := by
  simpa using congrArg List.length h

theorem AreRead.getLast? {vs : List Value} {ring : List (Point Float)} (h : AreRead vs ring)
    {v : Value} (hv : vs.getLast? = some v) : ∃ p, ring.getLast? = some p ∧ vertex v = .ok p := by
  have hlast := congrArg List.getLast? h
  rw [List.getLast?_map, List.getLast?_map, hv, Option.map_some] at hlast
  obtain ⟨p, hp, hv⟩ := Option.map_eq_some_iff.1 hlast.symm
  exact ⟨p, hp, hv.symm⟩

/-! ## 2. Conditions -/

/-- **Closing a polygon closes its ring.** -/
theorem closeValue_eq {polygon : Value} {vs : List Value} {ring : List (Point Float)}
    (hvs : elements? polygon = some vs) (h : AreRead vs ring) :
    ∃ closed, closeValue polygon = .ok closed ∧ AreRead closed (Ring.close ring) := by
  unfold closeValue
  rw [hvs]
  cases vs with
  | nil => exact ⟨[], rfl, by rw [List.map_eq_nil_iff.1 h.symm]; rfl⟩
  | cons first rest =>
    cases ring with
    | nil => cases h
    | cons p ring =>
      obtain ⟨last, hlast⟩ : ∃ last, (first :: rest).getLast? = some last :=
        ⟨_, List.getLast?_eq_some_getLast (List.cons_ne_nil first rest)⟩
      obtain ⟨q, hq, hlastRead⟩ := h.getLast? hlast
      have hfirstRead : vertex first = .ok p := (List.cons.inj h).1
      obtain ⟨hpLat, hpLng⟩ := coordinates_of_vertex hfirstRead
      obtain ⟨hqLat, hqLng⟩ := coordinates_of_vertex hlastRead
      have hlat := differAt_eq hpLat hqLat
      have hlng := differAt_eq hpLng hqLng
      have hagain : AreRead (first :: rest ++ [first]) (p :: ring ++ [p]) :=
        h.append (by rw [AreRead, List.map_singleton, hfirstRead]; rfl)
      have hclose : Ring.close (p :: ring) =
          if Ring.meets p q then p :: ring else p :: ring ++ [p] := by
        simp only [Ring.close, hq]
      rw [hclose, Ring.meets]
      cases hsameLat : p.lat == q.lat with
      | false =>
        rw [bne, hsameLat] at hlat
        refine ⟨first :: rest ++ [first], ?_, hagain⟩
        simp only [hlast, hlat]
        rfl
      | true =>
        rw [bne, hsameLat] at hlat
        cases hsameLng : p.lng == q.lng with
        | false =>
          rw [bne, hsameLng] at hlng
          refine ⟨first :: rest ++ [first], ?_, hagain⟩
          simp only [hlast, hlat, hlng]
          rfl
        | true =>
          rw [bne, hsameLng] at hlng
          refine ⟨first :: rest, ?_, h⟩
          simp only [hlast, hlat, hlng]
          rfl

/-- A ring of one vertex or none has no edges. -/
theorem arms_of_short {α : Type} [BEq α] {ring : List (Point α)} (h : ring.length < 2) :
    arms ring = [] := by
  match ring, h with
  | [], _ => rfl
  | [_], _ => rfl

/-- **The condition on a polygon is that on its closed ring.** -/
theorem withinRingValue_eq {polygon : Value} {vs : List Value} {ring : List (Point Float)}
    (hvs : elements? polygon = some vs) (h : AreRead vs ring) (columns : PlaceColumns) :
    withinRingValue polygon (.str columns.lat) (.str columns.lng) =
      .ok (withinRing columns (Ring.close ring)) := by
  obtain ⟨closed, hclose, hread⟩ := closeValue_eq hvs h
  have hcolumns : placeColumns (.str columns.lat) (.str columns.lng) = .ok columns := rfl
  rw [withinRingValue, hcolumns, hclose]
  simp only [bind, Except.bind, hread.length_eq, mapM_of_map hread]
  split
  · next hshort =>
    have hempty : withinRing columns (Ring.close ring) = withinRing columns [] := by
      rw [withinRing, arms_of_short hshort, withinRing]
      rfl
    rw [hempty]
    rfl
  · rfl

/-! ## 3. Containment -/

/-- Going around asks of every edge in turn whether it is crossed. -/
theorem crossings_eq (lat lng : Value) (previous : Point Float) (ring : List (Point Float)) :
    crossings lat lng (.ok previous) (ring.map .ok) =
      ((Ring.path (previous :: ring)).map fun e => ⟨e.stop, e.start⟩).mapM
        (crossesValue lat lng) := by
  induction ring generalizing previous with
  | nil => rfl
  | cons p ring ih =>
    rw [List.map_cons, crossings, ih p, Ring.path, List.map_cons, List.mapM_cons]
    rfl

/-- Containment asks of the edges of the ring in turn whether they are crossed. -/
theorem containsValue_eq_edges {polygon : Value} {vs : List Value} {ring : List (Point Float)}
    (hvs : polygon.items? = some vs) (h : AreRead vs ring) (lat lng : Value) :
    containsValue lat lng polygon =
      if ring.length < 3 then .ok false
      else ((Ring.edges ring).mapM (crossesValue lat lng)).map Ring.odd := by
  have hread : (vs.map Except.ok).map (fun v : Except Fault Value => v.bind vertex) =
      ring.map .ok := by
    rw [List.map_map]
    exact h
  have hpositions : positions polygon = .ok (vs.map .ok) := by
    cases polygon with
    | list _ | tuple _ =>
      cases hvs
      rfl
    | _ => cases hvs
  have hbind {β : Type} (ws : List (Except Fault Value))
      (next : List (Except Fault Value) → Except Fault β) : (Except.ok ws >>= next) = next ws := rfl
  rw [containsValue, hpositions, hbind, List.length_map, h.length_eq]
  simp only [hread]
  split
  · rfl
  · next hlong =>
    obtain ⟨last, hlast⟩ : ∃ last, ring.getLast? = some last := by
      cases ring with
      | nil => exact absurd (Nat.zero_lt_succ 2) hlong
      | cons p ring => exact ⟨_, List.getLast?_eq_some_getLast (List.cons_ne_nil p ring)⟩
    rw [List.getLast?_map, hlast, Option.map_some, Ring.edges, hlast, ← crossings_eq]
    rfl

/-- Doubles in the order of the numbers they stand for. -/
@[reducible] def byNumber : LT Float := ⟨fun x y => Value.isLess (.float x) (.float y) = true⟩

/-- That order can be decided. -/
@[reducible] def decidableByNumber : @DecidableLT Float byNumber := fun x y =>
  inferInstanceAs (Decidable (Value.isLess (.float x) (.float y) = true))

/-- Whether the ray from a place of doubles crosses an edge. -/
def Edge.crossesByNumber (e : Edge Float) (p : Point Float) : Bool :=
  letI := byNumber
  letI := decidableByNumber
  e.crosses p

/-- Whether a place of doubles lies inside a ring. -/
def Ring.containsByNumber (ring : List (Point Float)) (p : Point Float) : Bool :=
  letI := byNumber
  letI := decidableByNumber
  Ring.contains ring p

theorem Edge.crossesByNumber_eq (e : Edge Float) (p : Point Float) :
    e.crossesByNumber p =
      ((Value.isLess (.float p.lng) (.float e.start.lng) !=
          Value.isLess (.float p.lng) (.float e.stop.lng)) &&
        Value.isLess (.float p.lat) (.float (e.latitudeAt p))) := by
  have hunfold : e.crossesByNumber p =
      ((decide (Value.isLess (.float p.lng) (.float e.start.lng) = true) !=
          decide (Value.isLess (.float p.lng) (.float e.stop.lng) = true)) &&
        decide (Value.isLess (.float p.lat) (.float (e.latitudeAt p)) = true)) := rfl
  simp only [hunfold, Bool.decide_eq_true]

theorem Ring.containsByNumber_eq (ring : List (Point Float)) (p : Point Float) :
    containsByNumber ring p =
      (decide (3 ≤ ring.length) && odd ((edges ring).map fun e => e.crossesByNumber p)) := rfl

theorem crossesValue_eq (e : Edge Float) (p : Point Float) :
    crossesValue (.float p.lat) (.float p.lng) e = .ok (e.crossesByNumber p) := by
  have hexceeds (x y : Float) :
      exceeds x (.float y) = .ok (Value.isLess (.float y) (.float x)) := rfl
  have hbelow (x y : Float) :
      isBelow (.float x) y = .ok (Value.isLess (.float x) (.float y)) := rfl
  have hminuend (x : Float) : minuend (.float x) = .ok x := rfl
  rw [crossesValue, hexceeds, hexceeds, hminuend, Edge.crossesByNumber_eq]
  simp only [bind, Except.bind, hbelow]
  cases Value.isLess (.float p.lng) (.float e.start.lng) <;>
    cases Value.isLess (.float p.lng) (.float e.stop.lng) <;> rfl

/-- **A polygon contains a place of doubles exactly when its ring does.** -/
theorem containsValue_eq {polygon : Value} {vs : List Value} {ring : List (Point Float)}
    (hvs : polygon.items? = some vs) (h : AreRead vs ring) (p : Point Float) :
    containsValue (.float p.lat) (.float p.lng) polygon = .ok (Ring.containsByNumber ring p) := by
  have hcrosses : crossesValue (.float p.lat) (.float p.lng) =
      fun e => pure (e.crossesByNumber p) := funext fun e => crossesValue_eq e p
  rw [containsValue_eq_edges hvs h, hcrosses, List.mapM_pure, Ring.containsByNumber_eq]
  split
  · next hshort =>
    rw [decide_eq_false (Nat.not_le.2 hshort), Bool.false_and]
  · next hlong =>
    rw [decide_eq_true (Nat.not_lt.1 hlong), Bool.true_and]
    rfl

end Realty.Geo
