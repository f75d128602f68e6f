/-
# Crossings in exact arithmetic

With exact arithmetic the ray of a point crosses an edge or it does not, however the edge is
directed, and containment is the parity of the crossings along the ring.

* `crosses_reverse`: an edge and its reverse are crossed alike; `crosses_of_meridian`: an edge along
  a meridian is never crossed.
* `odd_append`, `odd_filter`: the parity of crossings adds up, and edges that are not crossed do not
  count.
* `odd_edges`: the edges of a ring are crossed as often as the edges of its path from the first
  vertex around; `odd_path_close` says the same of the path of the closed ring.
* `contains_eq_odd`: containment is that parity; rings of fewer than three vertices have none.
-/
import Mathlib.Tactic.FieldSimp
import Mathlib.Tactic.Linarith
import Mathlib.Tactic.Ring
import Realty.Geo.Ring

namespace Realty.Geo

/-! ## 1. Edges -/

namespace Edge

/-- An edge in the other direction. -/
def reverse {α : Type} (e : Edge α) : Edge α := ⟨e.stop, e.start⟩

variable {e : Edge Rat} {p : Point Rat}

theorem straddles_reverse : e.reverse.straddles p = e.straddles p := by
  rw [straddles, straddles, reverse, bne_comm]

/-- What a ray may cross runs along no meridian. -/
theorem lng_ne_of_straddles (h : e.straddles p = true) : e.start.lng ≠ e.stop.lng := by
  intro heq
  rw [straddles, heq, bne_self_eq_false] at h
  cases h

/-- So the divisor of its latitude is not zero. -/
theorem divisor_ne_zero (h : e.start.lng ≠ e.stop.lng) : e.stop.lng - e.start.lng ≠ 0 :=
  sub_ne_zero.2 h.symm

/-- The line through an edge does not depend on the direction. -/
theorem latitudeAt_reverse (h : e.start.lng ≠ e.stop.lng) :
    e.reverse.latitudeAt p = e.latitudeAt p := by
  have hforth := divisor_ne_zero h
  have hback : e.start.lng - e.stop.lng ≠ 0 := sub_ne_zero.2 h
  rw [latitudeAt, latitudeAt, reverse]
  field_simp
  ring

/-- **An edge and its reverse are crossed alike.** -/
theorem crosses_reverse : e.reverse.crosses p = e.crosses p := by
  rw [crosses, crosses, straddles_reverse]
  cases h : e.straddles p with
  | false => rfl
  | true => rw [latitudeAt_reverse (lng_ne_of_straddles h)]

/-- It does not matter which end comes first. -/
theorem crosses_swap (a b : Point Rat) :
    (⟨b, a⟩ : Edge Rat).crosses p = (⟨a, b⟩ : Edge Rat).crosses p :=
  crosses_reverse (e := ⟨a, b⟩)

/-- An edge along a meridian is never crossed. -/
theorem crosses_of_meridian (h : e.start.lng = e.stop.lng) : e.crosses p = false := by
  cases hstraddles : e.straddles p with
  | false => rw [crosses, hstraddles, Bool.false_and]
  | true => exact absurd h (lng_ne_of_straddles hstraddles)

end Edge

/-! ## 2. Parity -/

namespace Ring

theorem odd_append (as bs : List Bool) : odd (as ++ bs) = (odd as != odd bs) := by
  induction as with
  | nil => exact (Bool.false_bne _).symm
  | cons a as ih => rw [List.cons_append, odd, odd, ih, Bool.bne_assoc]

/-- What does not hold does not count. -/
theorem odd_filter {β : Type} {f q : β → Bool} {xs : List β}
    (h : ∀ x ∈ xs, q x = false → f x = false) :
    odd ((xs.filter q).map f) = odd (xs.map f) := by
  induction xs with
  | nil => rfl
  | cons x xs ih =>
    obtain ⟨hx, hxs⟩ := List.forall_mem_cons.1 h
    rw [List.filter_cons]
    split
    · rw [List.map_cons, List.map_cons, odd, odd, ih hxs]
    · next hq => rw [List.map_cons, odd, hx (Bool.eq_false_iff.2 hq), ih hxs, Bool.false_bne]

/-- How many of the listed truths hold, as a parity. -/
theorem odd_eq_count (bs : List Bool) : odd bs = decide (bs.count true % 2 = 1) := by
  induction bs with
  | nil => rfl
  | cons b bs ih =>
    rw [odd, ih]
    cases b with
    | false => simp
    | true =>
      rw [List.count_cons_self]
      rcases Nat.mod_two_eq_zero_or_one (bs.count true) with h | h <;> simp [h, Nat.add_mod]

/-! ## 3. The edges of a ring -/

variable {ring : List (Point Rat)} {p : Point Rat}

/-- Which edges of some are crossed. -/
def crossedAlong (p : Point Rat) (es : List (Edge Rat)) : Bool := odd (es.map fun e => e.crosses p)

theorem crossedAlong_cons (p : Point Rat) (e : Edge Rat) (es : List (Edge Rat)) :
    crossedAlong p (e :: es) = (e.crosses p != crossedAlong p es) := rfl

theorem crossedAlong_singleton (p : Point Rat) (e : Edge Rat) :
    crossedAlong p [e] = e.crosses p := Bool.bne_false _

theorem crossedAlong_append (p : Point Rat) (es fs : List (Edge Rat)) :
    crossedAlong p (es ++ fs) = (crossedAlong p es != crossedAlong p fs) := by
  rw [crossedAlong, List.map_append, odd_append, crossedAlong, crossedAlong]

/-- A path that goes on by one vertex goes on by one edge. -/
theorem path_append_singleton {α : Type} {ring : List (Point α)} {last : Point α}
    (h : ring.getLast? = some last) (next : Point α) :
    path (ring ++ [next]) = path ring ++ [⟨last, next⟩] := by
  induction ring with
  | nil => cases h
  | cons a ring ih =>
    cases ring with
    | nil =>
      cases h
      rfl
    | cons b ring =>
      rw [List.getLast?_cons_cons] at h
      rw [List.cons_append, List.cons_append, path, ← List.cons_append, ih h, path,
        List.cons_append]

/-- **The edges of a ring**: that from the last vertex to the first, and those of its path. -/
theorem odd_edges {first last : Point Rat} {rest : List (Point Rat)} (hring : ring = first :: rest)
    (hlast : ring.getLast? = some last) (p : Point Rat) :
    crossedAlong p (edges ring) =
      ((⟨last, first⟩ : Edge Rat).crosses p != crossedAlong p (path ring)) := by
  have hedges : edges ring = (path (last :: ring)).map Edge.reverse := by
    rw [edges, hlast]
    rfl
  rw [crossedAlong, hedges, List.map_map,
    show ((fun e : Edge Rat => e.crosses p) ∘ Edge.reverse) = fun e => e.crosses p from
      funext fun _ => Edge.crosses_reverse, hring, path]
  rfl

/-- **The path of the closed ring** has the same parity: an edge that closing leaves out joins a
vertex to itself. -/
theorem odd_path_close (ring : List (Point Rat)) (p : Point Rat) :
    crossedAlong p (path (close ring)) = crossedAlong p (edges ring) := by
  cases ring with
  | nil => rfl
  | cons first rest =>
    obtain ⟨last, hlast⟩ : ∃ last, (first :: rest).getLast? = some last :=
      ⟨_, List.getLast?_eq_some_getLast (List.cons_ne_nil first rest)⟩
    have hclose : close (first :: rest) =
        if meets first last then first :: rest else first :: rest ++ [first] := by
      simp only [close, hlast]
    rw [odd_edges rfl hlast p, hclose]
    split
    · next hmeets =>
      simp only [meets, Bool.and_eq_true, beq_iff_eq] at hmeets
      rw [Edge.crosses_of_meridian hmeets.2.symm, Bool.false_bne]
    · rw [path_append_singleton hlast, crossedAlong_append, crossedAlong_singleton, bne_comm]

/-- A ring of fewer than three vertices is crossed an even number of times. -/
theorem odd_edges_of_short (h : ring.length < 3) (p : Point Rat) :
    crossedAlong p (edges ring) = false := by
  match ring, h with
  | [], _ => rfl
  | [a], _ =>
    have hlast : [a].getLast? = some a := rfl
    rw [odd_edges rfl hlast, Edge.crosses_of_meridian rfl]
    rfl
  | [a, b], _ =>
    have hlast : [a, b].getLast? = some b := rfl
    rw [odd_edges rfl hlast, Edge.crosses_swap a b, path, crossedAlong_cons]
    cases (⟨a, b⟩ : Edge Rat).crosses p <;> rfl

/-- **Containment is the parity of the crossings.** -/
theorem contains_eq_odd (ring : List (Point Rat)) (p : Point Rat) :
    contains ring p = crossedAlong p (edges ring) := by
  rw [contains]
  by_cases h : 3 ≤ ring.length
  · rw [decide_eq_true h, Bool.true_and]
    rfl
  · rw [odd_edges_of_short (Nat.not_le.1 h), decide_eq_false h, Bool.false_and]

/-- Containment counts the crossings of the path around the ring, back to its first vertex. -/
theorem contains_cons (first : Point Rat) (rest : List (Point Rat)) (p : Point Rat) :
    contains (first :: rest) p = crossedAlong p (path (first :: rest ++ [first])) := by
  obtain ⟨last, hlast⟩ : ∃ last, (first :: rest).getLast? = some last :=
    ⟨_, List.getLast?_eq_some_getLast (List.cons_ne_nil first rest)⟩
  rw [contains_eq_odd, odd_edges rfl hlast, path_append_singleton hlast, crossedAlong_append,
    crossedAlong_singleton, bne_comm]

end Ring

end Realty.Geo
