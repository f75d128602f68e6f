/-
# Convex rings

In a convex ring the vertices lie on one side of every edge that does not end at them.  It passes a
meridian at most once toward the east and at most once toward the west, so the parity of the
crossings tells whether a point lies on that side of every edge.

* `Circuit`: places in a cyclic order.  `passesEast_unique`: a convex one passes a meridian at most
  once toward the east, and `card_eastward` as often toward the west.
* `eastward_nonempty`: it passes the meridian of each place that it surrounds.
* `card_crossed_of_surrounds`, `even_card_crossed`: how many of its edges are crossed.
* `contains_of_convex`: what a convex ring contains.
-/
import Mathlib.Data.Finset.Max
import Mathlib.Data.Fintype.Basic
import Mathlib.Data.List.FinRange
import Mathlib.Data.List.Rotate
import Mathlib.Logic.Equiv.Fin.Rotate
import Realty.Proofs.Geo.Polygon
import Realty.Proofs.Geo.Turn

namespace Realty.Geo

/-! ## 1. Circuits -/

/-- Places in a cyclic order: those at some positions, with the position that comes next. -/
structure Circuit (ι : Type) where
  place : ι → Point Rat
  next : Equiv.Perm ι

namespace Circuit

section Sides

variable {ι : Type}

/-- The edge from a position to the next. -/
def edge (c : Circuit ι) (i : ι) : Edge Rat := ⟨c.place i, c.place (c.next i)⟩

/-- Whether every edge has the places at all positions but its ends on a side.  Of three or more
places none is then given twice. -/
def IsConvex (c : Circuit ι) (side : Side) : Prop :=
  ∀ i j, j ≠ i → j ≠ c.next i → (c.edge i).HasOn side (c.place j)

/-- Whether a place lies on a side of every edge. -/
def Surrounds (c : Circuit ι) (side : Side) (p : Point Rat) : Prop :=
  ∀ i, (c.edge i).HasOn side p

instance [Fintype ι] [DecidableEq ι] (c : Circuit ι) (side : Side) :
    Decidable (c.IsConvex side) :=
  inferInstanceAs (Decidable (∀ i j, j ≠ i → j ≠ c.next i → (c.edge i).HasOn side (c.place j)))

instance [Fintype ι] (c : Circuit ι) (side : Side) (p : Point Rat) :
    Decidable (c.Surrounds side p) :=
  inferInstanceAs (Decidable (∀ i, (c.edge i).HasOn side p))

/-- The circuit in the opposite order. -/
def reverse (c : Circuit ι) : Circuit ι := ⟨c.place, c.next.symm⟩

variable {c : Circuit ι} {side : Side} {p : Point Rat} {i j : ι}

theorem edge_reverse (c : Circuit ι) (i : ι) :
    c.reverse.edge i = (c.edge (c.next.symm i)).reverse := by
  rw [edge, edge, reverse, Edge.reverse, Equiv.apply_symm_apply]

theorem hasOn_edge_reverse (c : Circuit ι) (side : Side) (p : Point Rat) (i : ι) :
    (c.reverse.edge i).HasOn side.other p ↔ (c.edge (c.next.symm i)).HasOn side p := by
  rw [edge_reverse, Edge.hasOn_reverse]

/-- **In the opposite order a convex circuit is so on the other side.** -/
theorem IsConvex.reverse (h : c.IsConvex side) : c.reverse.IsConvex side.other := by
  intro i j hstart hstop
  refine (hasOn_edge_reverse c side _ i).2 (h (c.next.symm i) j hstop ?_)
  rwa [Equiv.apply_symm_apply]

theorem Surrounds.reverse (h : c.Surrounds side p) : c.reverse.Surrounds side.other p :=
  fun i => (hasOn_edge_reverse c side p i).2 (h (c.next.symm i))

/-- Seen from a corner, every place is a mean of its neighbours. -/
theorem turn_balance_corner (c : Circuit ι) (i : ι) (p : Point Rat) :
    (c.edge i).turn (c.place (c.next (c.next i))) * (p.lng - (c.place (c.next i)).lng) =
      (c.edge i).turn p * ((c.place (c.next (c.next i))).lng - (c.place (c.next i)).lng) +
        (c.edge (c.next i)).turn p * ((c.place i).lng - (c.place (c.next i)).lng) := by
  simp only [edge, Edge.turn]
  ring

variable (hconvex : c.IsConvex .left)
include hconvex

/-- No place of a convex circuit is on the other side of an edge. -/
theorem turn_place_nonneg (i j : ι) : 0 ≤ (c.edge i).turn (c.place j) := by
  by_cases hstart : j = i
  · rw [hstart]
    exact (Edge.turn_start (c.edge i)).ge
  by_cases hstop : j = c.next i
  · rw [hstop]
    exact (Edge.turn_stop (c.edge i)).ge
  · have hleft : 0 < (c.edge i).turn (c.place j) := hconvex i j hstart hstop
    exact hleft.le

/-- **A convex circuit passes a meridian at most once toward the east.**  Of two such edges one
would have an end on the right of the other. -/
theorem passesEast_unique (hi : (c.edge i).PassesEast p) (hj : (c.edge j).PassesEast p) :
    i = j := by
  by_contra hne
  have hnext : j ≠ c.next i := by
    rintro rfl
    exact hj.2 hi.1
  have hforth : 0 < (c.edge i).meetingTurn (c.edge j) p :=
    Edge.meetingTurn_pos hj (hconvex i j (Ne.symm hne) hnext)
      (turn_place_nonneg hconvex i (c.next j))
  have hback : 0 ≤ (c.edge j).meetingTurn (c.edge i) p :=
    Edge.meetingTurn_nonneg hi (turn_place_nonneg hconvex j i)
      (turn_place_nonneg hconvex j (c.next i))
  exact (add_pos_of_pos_of_nonneg hforth hback).ne' (Edge.meetingTurn_add_meetingTurn _ _ p)

section Strip

variable (hi : (c.edge i).PassesEast p) (hj : (c.edge j).reverse.PassesEast p)
include hi hj

/-- A place on the right of the eastward edge, the southern one, is on the left of the westward
edge. -/
theorem turn_pos_of_south (hsouth : (c.edge i).turn p < 0) : 0 < (c.edge j).turn p := by
  by_contra hnorth
  have hapart : 0 ≤ (c.edge i).meetingTurn (c.edge j).reverse p :=
    Edge.meetingTurn_nonneg hj (turn_place_nonneg hconvex i (c.next j))
      (turn_place_nonneg hconvex i j)
  have hfar := mul_neg_of_pos_of_neg (sub_pos.2 hj.lng_lt) hsouth
  have hnear := mul_nonpos_of_nonneg_of_nonpos (sub_pos.2 hi.lng_lt).le (not_lt.1 hnorth)
  rw [Edge.meetingTurn_reverse] at hapart
  exact (add_neg_of_neg_of_nonpos hfar hnear).not_ge hapart

/-- **A place between the two edges is on the right of no edge.** -/
theorem turn_nonneg_of_between (hsouth : 0 ≤ (c.edge i).turn p) (hnorth : 0 < (c.edge j).turn p)
    (k : ι) : 0 ≤ (c.edge k).turn p := by
  have hlow : 0 ≤ (c.edge k).meetingTurn (c.edge i) p :=
    Edge.meetingTurn_nonneg hi (turn_place_nonneg hconvex k i)
      (turn_place_nonneg hconvex k (c.next i))
  have hhigh : 0 ≤ (c.edge k).meetingTurn (c.edge j).reverse p :=
    Edge.meetingTurn_nonneg hj (turn_place_nonneg hconvex k (c.next j))
      (turn_place_nonneg hconvex k j)
  have hmean := add_nonneg (mul_nonneg hnorth.le hlow) (mul_nonneg hsouth hhigh)
  have hweight := add_pos_of_nonneg_of_pos (mul_nonneg hsouth (sub_pos.2 hj.lng_lt).le)
    (mul_pos hnorth (sub_pos.2 hi.lng_lt))
  rw [Edge.meetingTurn_mean] at hmean
  exact nonneg_of_mul_nonneg_right hmean hweight

/-- **Outside, the ray crosses both edges or neither.** -/
theorem crosses_eq_of_outside {k : ι} (hk : (c.edge k).turn p < 0) :
    (c.edge i).crosses p = (c.edge j).crosses p := by
  rw [Bool.eq_iff_iff, Edge.crosses_iff_of_passesEast hi, Edge.crosses_iff_of_passesWest hj]
  constructor
  · exact turn_pos_of_south hconvex hi hj
  · intro hnorth
    by_contra hsouth
    exact hk.not_ge (turn_nonneg_of_between hconvex hi hj (not_lt.1 hsouth) hnorth k)

end Strip

variable (hp : c.Surrounds .left p)
include hp

/-- A corner turns left when a place is on the left of both its edges. -/
theorem turn_corner_pos (i : ι) : 0 < (c.edge i).turn (c.place (c.next (c.next i))) := by
  have hforth : 0 < (c.edge i).turn p := hp i
  refine hconvex i _ (fun hback => ?_) fun hstay => ?_
  · -- the two edges would be each other's reverse
    have hreverse : c.edge (c.next i) = (c.edge i).reverse := by
      rw [edge, hback]
      rfl
    have hafter : 0 < (c.edge (c.next i)).turn p := hp (c.next i)
    rw [hreverse, Edge.turn_reverse] at hafter
    linarith
  · have hfixed : c.next i = i := c.next.injective hstay
    rw [edge, hfixed, Edge.turn, sub_self, sub_self, zero_mul, zero_mul, sub_self] at hforth
    exact lt_irrefl 0 hforth

/-- A surrounded place is not on the west of a corner whose neighbours are not. -/
theorem not_west_of_corner (i : ι) (hbefore : (c.place (c.next i)).lng ≤ (c.place i).lng)
    (hafter : (c.place (c.next i)).lng ≤ (c.place (c.next (c.next i))).lng) :
    ¬ p.lng < (c.place (c.next i)).lng := by
  intro hwest
  have hin : 0 < (c.edge i).turn p := hp i
  have hout : 0 < (c.edge (c.next i)).turn p := hp (c.next i)
  have hbeyond := mul_neg_of_pos_of_neg (turn_corner_pos hconvex hp i) (sub_neg.2 hwest)
  have hmean := add_nonneg (mul_nonneg hin.le (sub_nonneg.2 hafter))
    (mul_nonneg hout.le (sub_nonneg.2 hbefore))
  exact hbeyond.not_ge (hmean.trans (turn_balance_corner c i p).ge)

/-- It is on the west of a corner whose neighbours are not on its east. -/
theorem west_of_corner (i : ι) (hbefore : (c.place i).lng ≤ (c.place (c.next i)).lng)
    (hafter : (c.place (c.next (c.next i))).lng ≤ (c.place (c.next i)).lng) :
    p.lng < (c.place (c.next i)).lng := by
  by_contra heast
  have hcorner := turn_corner_pos hconvex hp i
  have hin : 0 < (c.edge i).turn p := hp i
  have hout : 0 < (c.edge (c.next i)).turn p := hp (c.next i)
  have hbeyond := mul_nonneg hcorner.le (sub_nonneg.2 (not_lt.1 heast))
  have hmean : (c.edge i).turn p *
        ((c.place (c.next (c.next i))).lng - (c.place (c.next i)).lng) +
      (c.edge (c.next i)).turn p * ((c.place i).lng - (c.place (c.next i)).lng) < 0 := by
    rcases hbefore.lt_or_eq with hlt | heq
    · exact add_neg_of_nonpos_of_neg
        (mul_nonpos_of_nonneg_of_nonpos hin.le (sub_nonpos.2 hafter))
        (mul_neg_of_pos_of_neg hout (sub_neg.2 hlt))
    · -- a corner does not turn on one meridian
      have hlt : (c.place (c.next (c.next i))).lng < (c.place (c.next i)).lng := by
        refine hafter.lt_of_ne fun hstraight => hcorner.ne' ?_
        rw [Edge.turn, edge, heq, hstraight, sub_self, zero_mul, mul_zero, sub_self]
      rw [heq, sub_self, mul_zero, add_zero]
      exact mul_neg_of_pos_of_neg hin (sub_neg.2 hlt)
  exact hmean.not_ge (hbeyond.trans (turn_balance_corner c i p).le)

end Sides

/-! ## 2. Meridians -/

variable {ι : Type} [Fintype ι] {c : Circuit ι} {side : Side} {p : Point Rat} {i j : ι}

/-- The edges that the ray of a point crosses. -/
def crossed (c : Circuit ι) (p : Point Rat) : Finset ι := {i | (c.edge i).crosses p = true}

/-- The edges that pass the meridian of a point toward the east. -/
def eastward (c : Circuit ι) (p : Point Rat) : Finset ι := {i | (c.edge i).PassesEast p}

/-- The edges that pass the meridian of a point toward the west. -/
def westward (c : Circuit ι) (p : Point Rat) : Finset ι := {i | (c.edge i).reverse.PassesEast p}

theorem mem_crossed : i ∈ c.crossed p ↔ (c.edge i).crosses p = true := by
  rw [crossed, Finset.mem_filter_univ]

theorem mem_eastward : i ∈ c.eastward p ↔ (c.edge i).PassesEast p := by
  rw [eastward, Finset.mem_filter_univ]

theorem mem_westward : i ∈ c.westward p ↔ (c.edge i).reverse.PassesEast p := by
  rw [westward, Finset.mem_filter_univ]

/-- What is crossed passes the meridian in one of the directions. -/
theorem mem_of_mem_crossed (h : i ∈ c.crossed p) : i ∈ c.eastward p ∨ i ∈ c.westward p := by
  rw [mem_crossed, Edge.crosses, Bool.and_eq_true] at h
  rw [mem_eastward, mem_westward]
  exact Edge.straddles_iff.1 h.1

/-- **Circuits in opposite orders are crossed alike.** -/
theorem card_crossed_reverse (c : Circuit ι) (p : Point Rat) :
    (c.reverse.crossed p).card = (c.crossed p).card := by
  refine Finset.card_bijective c.next.symm c.next.symm.bijective fun i => ?_
  rw [mem_crossed, mem_crossed, edge_reverse, Edge.crosses_reverse]

/-- **A circuit passes a meridian in both directions equally often**: as many edges end on its east
as start there. -/
theorem card_eastward (c : Circuit ι) (p : Point Rat) :
    (c.eastward p).card = (c.westward p).card := by
  classical
  have hends : ({i | p.lng < (c.edge i).stop.lng} : Finset ι).card =
      ({i | p.lng < (c.edge i).start.lng} : Finset ι).card := by
    refine Finset.card_bijective c.next c.next.bijective fun i => ?_
    rw [Finset.mem_filter_univ, Finset.mem_filter_univ]
    rfl
  have heast : c.eastward p = ({i | p.lng < (c.edge i).stop.lng} : Finset ι) \
      ({i | p.lng < (c.edge i).start.lng} : Finset ι) := Finset.filter_and_not _ _ _
  have hwest : c.westward p = ({i | p.lng < (c.edge i).start.lng} : Finset ι) \
      ({i | p.lng < (c.edge i).stop.lng} : Finset ι) := Finset.filter_and_not _ _ _
  rw [heast, hwest, Finset.card_sdiff_comm hends]

/-- A convex circuit passes a meridian nowhere, or once in each direction. -/
theorem eastward_cases (hconvex : c.IsConvex .left) (p : Point Rat) :
    (c.eastward p = ∅ ∧ c.westward p = ∅) ∨
      ∃ i j, c.eastward p = {i} ∧ c.westward p = {j} := by
  have hcard := card_eastward c p
  rcases (c.eastward p).eq_empty_or_nonempty with hempty | ⟨i, hi⟩
  · rw [hempty, Finset.card_empty] at hcard
    exact .inl ⟨hempty, Finset.card_eq_zero.1 hcard.symm⟩
  · have hone : c.eastward p = {i} := Finset.eq_singleton_iff_unique_mem.2
      ⟨hi, fun k hk => passesEast_unique hconvex (mem_eastward.1 hk) (mem_eastward.1 hi)⟩
    rw [hone, Finset.card_singleton] at hcard
    obtain ⟨j, hj⟩ := Finset.card_eq_one.1 hcard.symm
    exact .inr ⟨i, j, hone, hj⟩

/-- **A convex circuit passes the meridian of every place that it surrounds.**  Otherwise it has a
corner nearest to the meridian on one side, where it turns back short of the surrounded place. -/
theorem eastward_nonempty [Nonempty ι] (hconvex : c.IsConvex .left)
    (hp : c.Surrounds .left p) : (c.eastward p).Nonempty := by
  by_contra hempty
  have heast : c.eastward p = ∅ := Finset.not_nonempty_iff_eq_empty.1 hempty
  have hwest : c.westward p = ∅ := by
    rw [← Finset.card_eq_zero, ← card_eastward, heast, Finset.card_empty]
  have hsame (i : ι) : p.lng < (c.place (c.next i)).lng ↔ p.lng < (c.place i).lng := by
    have hi : ¬ (c.edge i).PassesEast p := mem_eastward.not.1 (heast ▸ Finset.notMem_empty i)
    have hi' : ¬ (c.edge i).reverse.PassesEast p :=
      mem_westward.not.1 (hwest ▸ Finset.notMem_empty i)
    exact ⟨fun h => not_not.1 fun h' => hi ⟨h, h'⟩, fun h => not_not.1 fun h' => hi' ⟨h, h'⟩⟩
  by_cases hbeyond : ∃ k, p.lng < (c.place k).lng
  · -- the neighbours of a place on the east are there, too
    have hsome : ({k | p.lng < (c.place k).lng} : Finset ι).Nonempty :=
      Finset.filter_nonempty_iff.2 (hbeyond.imp fun k hk => ⟨Finset.mem_univ k, hk⟩)
    obtain ⟨k, hk, hmin⟩ := Finset.exists_min_image _ (fun k => (c.place k).lng) hsome
    obtain ⟨i, rfl⟩ := c.next.surjective k
    rw [Finset.mem_filter_univ] at hk
    have hbefore := hmin i ((Finset.mem_filter_univ i).2 ((hsame i).1 hk))
    have hafter := hmin (c.next (c.next i)) ((Finset.mem_filter_univ _).2 ((hsame _).2 hk))
    exact not_west_of_corner hconvex hp i hbefore hafter hk
  · obtain ⟨k, -, hmax⟩ :=
      Finset.exists_max_image Finset.univ (fun k => (c.place k).lng) Finset.univ_nonempty
    obtain ⟨i, rfl⟩ := c.next.surjective k
    exact hbeyond ⟨_, west_of_corner hconvex hp i (hmax i (Finset.mem_univ i))
      (hmax (c.next (c.next i)) (Finset.mem_univ _))⟩

/-! ## 3. Crossings -/

/-- The ray from a surrounded place crosses one edge, the westward one. -/
theorem card_crossed_of_surrounds_left [Nonempty ι] (hconvex : c.IsConvex .left)
    (hp : c.Surrounds .left p) : (c.crossed p).card = 1 := by
  have hcrossed : c.crossed p = c.westward p := by
    ext k
    constructor
    · intro hk
      refine (mem_of_mem_crossed hk).resolve_left fun heast => ?_
      have hright : (c.edge k).turn p < 0 :=
        (Edge.crosses_iff_of_passesEast (mem_eastward.1 heast)).1 (mem_crossed.1 hk)
      exact hright.not_gt (hp k)
    · intro hwest
      exact mem_crossed.2 ((Edge.crosses_iff_of_passesWest (mem_westward.1 hwest)).2 (hp k))
  rw [hcrossed]
  rcases eastward_cases hconvex p with ⟨heast, -⟩ | ⟨i, j, -, hj⟩
  · exact absurd heast (eastward_nonempty hconvex hp).ne_empty
  · rw [hj, Finset.card_singleton]

/-- The ray from a place on the right of an edge crosses no edge, or one in each direction. -/
theorem even_card_crossed_of_right (hconvex : c.IsConvex .left) {k : ι}
    (hk : (c.edge k).HasOn .right p) : Even (c.crossed p).card := by
  classical
  have hempty (h : ∀ i, i ∉ c.crossed p) : Even (c.crossed p).card := by
    rw [Finset.eq_empty_of_forall_notMem h, Finset.card_empty]
    exact Even.zero
  rcases eastward_cases hconvex p with ⟨heast, hwest⟩ | ⟨i, j, heast, hwest⟩
  · refine hempty fun l hl => ?_
    have hpasses := mem_of_mem_crossed hl
    rw [heast, hwest] at hpasses
    exact hpasses.elim (Finset.notMem_empty l) (Finset.notMem_empty l)
  · have hi := mem_eastward.1 (heast ▸ Finset.mem_singleton_self i)
    have hj := mem_westward.1 (hwest ▸ Finset.mem_singleton_self j)
    have hsame : (c.edge i).crosses p = (c.edge j).crosses p :=
      crosses_eq_of_outside hconvex hi hj hk
    have hpasses {l : ι} (hl : l ∈ c.crossed p) : l = i ∨ l = j := by
      have hpasses := mem_of_mem_crossed hl
      rwa [heast, hwest, Finset.mem_singleton, Finset.mem_singleton] at hpasses
    by_cases hcrosses : (c.edge j).crosses p = true
    · have hpair : c.crossed p = {i, j} := by
        ext l
        rw [Finset.mem_insert, Finset.mem_singleton]
        refine ⟨hpasses, ?_⟩
        rintro (rfl | rfl)
        · exact mem_crossed.2 (hsame.trans hcrosses)
        · exact mem_crossed.2 hcrosses
      have hne : i ≠ j := by
        rintro rfl
        exact hj.2 hi.1
      rw [hpair, Finset.card_pair hne]
      exact even_two
    · refine hempty fun l hl => ?_
      rcases hpasses hl with rfl | rfl
      · exact hcrosses (hsame.symm.trans (mem_crossed.1 hl))
      · exact hcrosses (mem_crossed.1 hl)

/-- **The ray from a surrounded place crosses a convex circuit once.** -/
theorem card_crossed_of_surrounds [Nonempty ι] (hconvex : c.IsConvex side)
    (hp : c.Surrounds side p) : (c.crossed p).card = 1 := by
  cases side with
  | left => exact card_crossed_of_surrounds_left hconvex hp
  | right =>
    rw [← card_crossed_reverse]
    exact card_crossed_of_surrounds_left hconvex.reverse hp.reverse

/-- **The ray from a place outside crosses it an even number of times.** -/
theorem even_card_crossed (hconvex : c.IsConvex side)
    (hp : ∃ k, (c.edge k).HasOn side.other p) : Even (c.crossed p).card := by
  obtain ⟨k, hk⟩ := hp
  cases side with
  | left => exact even_card_crossed_of_right hconvex hk
  | right =>
    have hback : (c.reverse.edge (c.next k)).HasOn .right p := by
      refine (hasOn_edge_reverse c .left p (c.next k)).2 ?_
      rwa [Equiv.symm_apply_apply]
    rw [← card_crossed_reverse]
    exact even_card_crossed_of_right hconvex.reverse hback

end Circuit

/-! ## 4. Rings -/

namespace Ring

/-- The circuit of the vertices of a ring, the first of which comes after the last. -/
def circuit (ring : List (Point Rat)) : Circuit (Fin ring.length) :=
  ⟨ring.get, finRotate ring.length⟩

theorem path_eq_zipWith {α : Type} (ring : List (Point α)) :
    path ring = List.zipWith Edge.mk ring ring.tail := by
  induction ring with
  | nil => rfl
  | cons a ring ih =>
    cases ring with
    | nil => rfl
    | cons b ring => rw [path, ih]; rfl

/-- The edges from each vertex to the next are those of its circuit. -/
theorem path_append_first (first : Point Rat) (rest : List (Point Rat)) :
    path (first :: rest ++ [first]) = List.ofFn (circuit (first :: rest)).edge := by
  rw [path_eq_zipWith]
  refine List.ext_getElem (by simp) fun i hi hi' => ?_
  have hlt : i < rest.length + 1 := by simpa using hi'
  have hnext : (finRotate (rest.length + 1) ⟨i, hlt⟩).val = (i + 1) % (rest.length + 1) := by
    rw [finRotate_apply, Fin.val_add, Fin.val_one', Nat.add_mod_mod]
  rw [List.getElem_zipWith, List.getElem_ofFn]
  refine congr_arg₂ Edge.mk (List.getElem_append_left hlt) ?_
  have hrotate : (first :: rest ++ [first]).tail = (first :: rest).rotate 1 := by simp
  simp only [hrotate, List.getElem_rotate]
  exact getElem_congr_idx hnext.symm

/-- **A ring contains a place when an odd number of the edges of its circuit are crossed.** -/
theorem contains_eq_card (ring : List (Point Rat)) (p : Point Rat) :
    contains ring p = decide (((circuit ring).crossed p).card % 2 = 1) := by
  have hcount : ((List.ofFn (circuit ring).edge).map fun e => e.crosses p).count true =
      ((circuit ring).crossed p).card := by
    rw [List.map_ofFn, List.ofFn_eq_map, List.count_eq_countP, List.countP_map,
      List.countP_eq_length_filter]
    rfl
  cases ring with
  | nil => rfl
  | cons first rest => rw [contains_cons, path_append_first, crossedAlong, odd_eq_count, hcount]

end Ring

/-- **What a convex ring contains.**  When every edge of a ring of three or more vertices
has all vertices but its two ends strictly on one side, the same for all edges, the ring contains
each place that lies strictly on that side of every edge, and no place that lies strictly on the
other side of some edge.  The loop that runs is that of the ring, with doubles for numbers. -/
theorem contains_of_convex (side : Side) (ring : List (Point Rat)) (hlong : 3 ≤ ring.length)
    (hconvex : (Ring.circuit ring).IsConvex side) (p : Point Rat) :
    (∀ polygon vs places place, polygon.items? = some vs → AreRead vs places →
        containsValue (.float place.lat) (.float place.lng) polygon =
          .ok (Ring.containsByNumber places place)) ∧
      ((Ring.circuit ring).Surrounds side p → Ring.contains ring p = true) ∧
      ((∃ i, ((Ring.circuit ring).edge i).HasOn side.other p) → Ring.contains ring p = false) := by
  refine ⟨fun polygon vs places place hvs hread => containsValue_eq hvs hread place,
    fun hinside => ?_, fun houtside => ?_⟩
  · have : Nonempty (Fin ring.length) := ⟨⟨0, by omega⟩⟩
    rw [Ring.contains_eq_card, Circuit.card_crossed_of_surrounds hconvex hinside]
    rfl
  · have heven := Nat.even_iff.1 (Circuit.even_card_crossed hconvex houtside)
    rw [Ring.contains_eq_card, heven]
    rfl

/-- A kite, clockwise, with two corners on the meridian of its axis. -/
def kite : List (Point Rat) := [⟨0, 1⟩, ⟨1, 0⟩, ⟨3, 1⟩, ⟨1, 2⟩]

/-- The rays from the places on the axis pass through corners. -/
theorem contains_of_convex_kite :
    3 ≤ kite.length ∧ (Ring.circuit kite).IsConvex .right ∧
      (Ring.circuit kite).Surrounds .right ⟨1, 1⟩ ∧ Ring.contains kite ⟨1, 1⟩ = true ∧
      (∃ i, ((Ring.circuit kite).edge i).HasOn .left ⟨-1, 1⟩) ∧
      Ring.contains kite ⟨-1, 1⟩ = false := by
  have hlong : 3 ≤ kite.length := by decide
  have hconvex : (Ring.circuit kite).IsConvex .right := by decide +kernel
  have hinside : (Ring.circuit kite).Surrounds .right ⟨1, 1⟩ := by decide +kernel
  have houtside : ∃ i, ((Ring.circuit kite).edge i).HasOn .left ⟨-1, 1⟩ := by decide +kernel
  exact ⟨hlong, hconvex, hinside,
    (contains_of_convex .right kite hlong hconvex ⟨1, 1⟩).2.1 hinside, houtside,
    (contains_of_convex .right kite hlong hconvex ⟨-1, 1⟩).2.2 houtside⟩

end Realty.Geo
