/-
# Sides of an edge

A place lies on the left of a directed edge, on its right, or on its line.  The ray from a place
crosses an edge that passes its meridian toward the east exactly when the place lies on the right,
and one that passes it toward the west when the place lies on the left.

* `Edge.turn` is positive on the left and negative on the right; `Edge.HasOn` tells a side.
* `crosses_iff_of_passesEast`, `crosses_iff_of_passesWest`: the edges that are crossed.
* `Edge.meetingTurn` is about the place where an edge meets a meridian.  The turns of two edges
  about each other balance there, and a place between them is a mean.
-/
import Mathlib.Tactic.Linarith
import Mathlib.Tactic.Ring
import Realty.Proofs.Geo.Ring

namespace Realty.Geo

/-! ## 1. Turns -/

/-- The sides of a directed edge. -/
inductive Side
  | left
  | right
deriving DecidableEq, Repr

/-- The opposite side. -/
def Side.other : Side → Side
  | .left => .right
  | .right => .left

namespace Edge

/-- Twice the area of the triangle of an edge and a place, positive when the place is on the left of
the edge on a map with the north at the top. -/
def turn (e : Edge Rat) (p : Point Rat) : Rat :=
  (e.stop.lng - e.start.lng) * (p.lat - e.start.lat) -
    (e.stop.lat - e.start.lat) * (p.lng - e.start.lng)

/-- Whether a place lies strictly on a side of the line through an edge. -/
def HasOn (e : Edge Rat) : Side → Point Rat → Prop
  | .left, p => 0 < e.turn p
  | .right, p => e.turn p < 0

instance (e : Edge Rat) (side : Side) (p : Point Rat) : Decidable (e.HasOn side p) :=
  match side with
  | .left => inferInstanceAs (Decidable (0 < e.turn p))
  | .right => inferInstanceAs (Decidable (e.turn p < 0))

theorem turn_start (e : Edge Rat) : e.turn e.start = 0 := by
  rw [turn]
  ring

theorem turn_stop (e : Edge Rat) : e.turn e.stop = 0 := by
  rw [turn]
  ring

theorem turn_reverse (e : Edge Rat) (p : Point Rat) : e.reverse.turn p = -e.turn p := by
  rw [turn, turn, reverse]
  ring

/-- What is on one side of an edge is on the other side of its reverse. -/
theorem hasOn_reverse (e : Edge Rat) (side : Side) (p : Point Rat) :
    e.reverse.HasOn side.other p ↔ e.HasOn side p := by
  cases side with
  | left => rw [Side.other, HasOn, HasOn, turn_reverse, neg_lt_zero]
  | right => rw [Side.other, HasOn, HasOn, turn_reverse, neg_pos]

/-! ## 2. Crossings -/

/-- Whether an edge passes the meridian of a place toward the east. -/
def PassesEast (e : Edge Rat) (p : Point Rat) : Prop :=
  p.lng < e.stop.lng ∧ ¬ p.lng < e.start.lng

instance (e : Edge Rat) (p : Point Rat) : Decidable (e.PassesEast p) :=
  inferInstanceAs (Decidable (p.lng < e.stop.lng ∧ ¬ p.lng < e.start.lng))

variable {e f : Edge Rat} {p : Point Rat}

theorem PassesEast.lng_lt (h : e.PassesEast p) : e.start.lng < e.stop.lng :=
  (not_lt.1 h.2).trans_lt h.1

/-- An edge straddles the meridians that it passes, in either direction. -/
theorem straddles_iff : e.straddles p = true ↔ e.PassesEast p ∨ e.reverse.PassesEast p := by
  rw [straddles, bne_iff_ne, PassesEast, PassesEast, reverse, ne_eq, decide_eq_decide]
  tauto

/-- **The ray crosses an eastward edge exactly when its point is on the right.** -/
theorem crosses_iff_of_passesEast (h : e.PassesEast p) :
    e.crosses p = true ↔ e.HasOn .right p := by
  have hdivisor : 0 < e.stop.lng - e.start.lng := sub_pos.2 h.lng_lt
  have hmeeting : p.lat < e.latitudeAt p ↔
      (p.lat - e.start.lat) * (e.stop.lng - e.start.lng) <
        (e.stop.lat - e.start.lat) * (p.lng - e.start.lng) := by
    rw [latitudeAt, ← sub_lt_iff_lt_add, lt_div_iff₀ hdivisor]
  rw [crosses, straddles_iff.2 (.inl h), Bool.true_and, decide_eq_true_iff, hmeeting, HasOn, turn,
    sub_neg, mul_comm (p.lat - e.start.lat)]

/-- **It crosses a westward edge exactly when its point is on the left.** -/
theorem crosses_iff_of_passesWest (h : e.reverse.PassesEast p) :
    e.crosses p = true ↔ e.HasOn .left p := by
  rw [← crosses_reverse, crosses_iff_of_passesEast h]
  exact hasOn_reverse e .left p

/-! ## 3. Meetings -/

/-- The turn about an edge of the place where another one meets a meridian, times how far that other
one goes east. -/
def meetingTurn (e f : Edge Rat) (p : Point Rat) : Rat :=
  (f.stop.lng - p.lng) * e.turn f.start + (p.lng - f.start.lng) * e.turn f.stop

theorem meetingTurn_nonneg (h : f.PassesEast p) (hstart : 0 ≤ e.turn f.start)
    (hstop : 0 ≤ e.turn f.stop) : 0 ≤ e.meetingTurn f p :=
  add_nonneg (mul_nonneg (sub_pos.2 h.1).le hstart)
    (mul_nonneg (sub_nonneg.2 (not_lt.1 h.2)) hstop)

theorem meetingTurn_pos (h : f.PassesEast p) (hstart : 0 < e.turn f.start)
    (hstop : 0 ≤ e.turn f.stop) : 0 < e.meetingTurn f p :=
  add_pos_of_pos_of_nonneg (mul_pos (sub_pos.2 h.1) hstart)
    (mul_nonneg (sub_nonneg.2 (not_lt.1 h.2)) hstop)

/-- Where two edges meet a meridian, one is as far on the left of the other as that is on the right
of it. -/
theorem meetingTurn_add_meetingTurn (e f : Edge Rat) (p : Point Rat) :
    e.meetingTurn f p + f.meetingTurn e p = 0 := by
  simp only [meetingTurn, turn]
  ring

/-- How far the places of a meridian are from two edges tells how far these are from each other
there. -/
theorem meetingTurn_reverse (e f : Edge Rat) (p : Point Rat) :
    e.meetingTurn f.reverse p =
      (f.start.lng - f.stop.lng) * e.turn p + (e.stop.lng - e.start.lng) * f.turn p := by
  simp only [meetingTurn, reverse, turn]
  ring

/-- A place is a mean of those where two edges meet its meridian, and so is its turn about a third
edge. -/
theorem meetingTurn_mean (e f g : Edge Rat) (p : Point Rat) :
    f.turn p * g.meetingTurn e p + e.turn p * g.meetingTurn f.reverse p =
      (e.turn p * (f.start.lng - f.stop.lng) + f.turn p * (e.stop.lng - e.start.lng)) *
        g.turn p := by
  simp only [meetingTurn, reverse, turn]
  ring

end Edge

end Realty.Geo
