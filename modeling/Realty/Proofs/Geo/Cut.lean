/-
# Rings that are turned, closed and cut

What a ring contains depends on the cycle of its vertices alone, and a chord cuts a ring into two
rings that share no place.

* `path_append_cons`: a path is cut at any of its vertices.  `crossedAlong_path_reverse`: a path is
  crossed as often in the other direction.
* `contains_append_comm`: a ring may start at any of its vertices.  `contains_reverse`,
  `contains_close` and `contains_repeat`: it may go the other way around, be closed, and give a
  vertex twice.
* `contains_chord`: a chord belongs to the rings on both its sides, so its crossings cancel.
* `contains_tiles` puts these together.
-/
import Mathlib.Data.List.Rotate
import Realty.Proofs.Geo.Polygon
import Realty.Proofs.Geo.Ring

namespace Realty.Geo

namespace Ring

/-! ## 1. Paths -/

/-- A path is the path to one of its vertices and the path from there. -/
theorem path_append_cons {α : Type} (before after : List (Point α)) (v : Point α) :
    path (before ++ v :: after) = path (before ++ [v]) ++ path (v :: after) := by
  induction before with
  | nil => rfl
  | cons a before ih =>
    cases before with
    | nil => rfl
    | cons b before =>
      simp only [List.cons_append, path] at ih ⊢
      rw [ih]

theorem crossedAlong_path_append_cons (before after : List (Point Rat)) (v p : Point Rat) :
    crossedAlong p (path (before ++ v :: after)) =
      (crossedAlong p (path (before ++ [v])) != crossedAlong p (path (v :: after))) := by
  rw [path_append_cons, crossedAlong_append]

theorem crossedAlong_path_pair (a b p : Point Rat) :
    crossedAlong p (path [a, b]) = (⟨a, b⟩ : Edge Rat).crosses p :=
  crossedAlong_singleton p ⟨a, b⟩

/-- **A path is crossed as often in the other direction.** -/
theorem crossedAlong_path_reverse (vs : List (Point Rat)) (p : Point Rat) :
    crossedAlong p (path vs.reverse) = crossedAlong p (path vs) := by
  induction vs with
  | nil => rfl
  | cons a vs ih =>
    cases vs with
    | nil => rfl
    | cons b vs =>
      have hsplit : (a :: b :: vs).reverse = vs.reverse ++ b :: [a] := by simp
      rw [List.reverse_cons] at ih
      rw [hsplit, crossedAlong_path_append_cons, ih, crossedAlong_path_pair, Edge.crosses_swap a b,
        path, crossedAlong_cons, bne_comm]

/-! ## 2. One cycle -/

/-- **A ring may start at any of its vertices.** -/
theorem contains_append_comm (vs ws : List (Point Rat)) (p : Point Rat) :
    contains (vs ++ ws) p = contains (ws ++ vs) p := by
  cases vs with
  | nil => rw [List.nil_append, List.append_nil]
  | cons v vs =>
    cases ws with
    | nil => rw [List.nil_append, List.append_nil]
    | cons w ws =>
      have hforth : v :: (vs ++ w :: ws) ++ [v] = v :: vs ++ w :: (ws ++ [v]) := by simp
      have hback : w :: (ws ++ v :: vs) ++ [w] = w :: ws ++ v :: (vs ++ [w]) := by simp
      rw [List.cons_append, List.cons_append, contains_cons, contains_cons, hforth, hback,
        crossedAlong_path_append_cons, crossedAlong_path_append_cons (w :: ws), bne_comm]
      rfl

theorem contains_rotate (ring : List (Point Rat)) (k : Nat) (p : Point Rat) :
    contains (ring.rotate k) p = contains ring p := by
  rw [List.rotate_eq_drop_append_take_mod, contains_append_comm, List.take_append_drop]

/-- **A ring may go the other way around.** -/
theorem contains_reverse (ring : List (Point Rat)) (p : Point Rat) :
    contains ring.reverse p = contains ring p := by
  cases ring with
  | nil => rfl
  | cons first rest =>
    have hcycle : first :: rest.reverse ++ [first] = (first :: rest ++ [first]).reverse := by simp
    rw [List.reverse_cons, contains_append_comm, List.singleton_append, contains_cons,
      contains_cons, hcycle, crossedAlong_path_reverse]

/-- **A vertex may be given twice.** -/
theorem contains_repeat (before after : List (Point Rat)) (v p : Point Rat) :
    contains (before ++ v :: v :: after) p = contains (before ++ v :: after) p := by
  have htwice : contains (v :: v :: (after ++ before)) p = contains (v :: (after ++ before)) p := by
    rw [contains_cons, contains_cons, List.cons_append, List.cons_append, path, crossedAlong_cons,
      Edge.crosses_of_meridian rfl, Bool.false_bne]
  rw [contains_append_comm, contains_append_comm before]
  exact htwice

/-- **A ring may be closed.** -/
theorem contains_close (ring : List (Point Rat)) (p : Point Rat) :
    contains (close ring) p = contains ring p := by
  cases ring with
  | nil => rfl
  | cons first rest =>
    have hagain : contains (first :: rest ++ [first]) p = contains (first :: rest) p := by
      rw [contains_append_comm]
      exact contains_repeat [] rest first p
    simp only [close, List.getLast?_cons]
    split
    · rfl
    · exact hagain

/-! ## 3. Chords -/

/-- A ring with the vertex at a position repeated next to itself. -/
def repeatAt (i : Nat) (ring : List (Point Rat)) : List (Point Rat) :=
  ring.take (i + 1) ++ ring.drop i

/-- The part of a ring from a position to a later one. -/
def between (i j : Nat) (ring : List (Point Rat)) : List (Point Rat) := (ring.take (j + 1)).drop i

/-- The part of a ring from a position around the end to an earlier one. -/
def around (i j : Nat) (ring : List (Point Rat)) : List (Point Rat) :=
  ring.drop j ++ ring.take (i + 1)

theorem contains_repeatAt (i : Nat) (ring : List (Point Rat)) (p : Point Rat) :
    contains (repeatAt i ring) p = contains ring p := by
  rcases lt_or_ge i ring.length with h | h
  · have htake : ring.take (i + 1) = ring.take i ++ [ring[i]] :=
      (List.take_concat_get' ring i h).symm
    have hdrop : ring.drop i = ring[i] :: ring.drop (i + 1) := List.drop_eq_getElem_cons h
    have hrepeat := contains_repeat (ring.take i) (ring.drop (i + 1)) ring[i] p
    rw [repeatAt, htake, List.append_assoc, List.singleton_append, hdrop, hrepeat, ← hdrop,
      List.take_append_drop]
  · rw [repeatAt, List.take_of_length_le (Nat.le_succ_of_le h), List.drop_eq_nil_of_le h,
      List.append_nil]

/-- **The rings on both sides of a chord**: a place is in the whole when it is in one of them, but
not in both. -/
theorem contains_chord (a b : Point Rat) (vs ws : List (Point Rat)) (p : Point Rat) :
    contains (a :: vs ++ b :: ws) p =
      (contains (a :: vs ++ [b]) p != contains (b :: ws ++ [a]) p) := by
  have hone : a :: (vs ++ [b]) ++ [a] = a :: vs ++ b :: [a] := by simp
  have htwo : b :: (ws ++ [a]) ++ [b] = b :: ws ++ a :: [b] := by simp
  have hwhole : a :: (vs ++ b :: ws) ++ [a] = a :: vs ++ b :: (ws ++ [a]) := by simp
  have hrest : b :: ws ++ [a] = b :: (ws ++ [a]) := rfl
  rw [List.cons_append, List.cons_append, List.cons_append, contains_cons, contains_cons,
    contains_cons, hwhole, hone, htwo, crossedAlong_path_append_cons,
    crossedAlong_path_append_cons (a :: vs) [a], crossedAlong_path_append_cons (b :: ws) [b],
    crossedAlong_path_pair, crossedAlong_path_pair, Edge.crosses_swap a b, ← hrest]
  cases (⟨a, b⟩ : Edge Rat).crosses p <;>
    cases crossedAlong p (path (a :: vs ++ [b])) <;>
      cases crossedAlong p (path (b :: ws ++ [a])) <;> rfl

/-- What stands around two positions of a list. -/
theorem exists_parts {α : Type} {xs : List α} {i j : Nat} (hij : i < j) (hj : j < xs.length) :
    ∃ before a inside b after, xs = before ++ a :: inside ++ b :: after ∧ before.length = i ∧
      inside.length + (i + 1) = j := by
  have hi : i < xs.length := hij.trans hj
  have hinside : j - (i + 1) < (xs.drop (i + 1)).length := by
    rw [List.length_drop]
    omega
  refine ⟨xs.take i, xs[i], (xs.drop (i + 1)).take (j - (i + 1)),
    (xs.drop (i + 1))[j - (i + 1)], (xs.drop (i + 1)).drop (j - (i + 1) + 1), ?_, ?_, ?_⟩
  · rw [List.append_assoc, List.cons_append, List.cons_getElem_drop_succ, List.take_append_drop,
      List.cons_getElem_drop_succ, List.take_append_drop]
  · rw [List.length_take_of_le hi.le]
  · rw [List.length_take_of_le hinside.le]
    omega

theorem contains_cut {ring : List (Point Rat)} {i j : Nat} (hij : i < j) (hj : j < ring.length)
    (p : Point Rat) :
    contains ring p = (contains (between i j ring) p != contains (around i j ring) p) := by
  obtain ⟨before, a, inside, b, after, rfl, rfl, rfl⟩ := exists_parts hij hj
  have hbetween : between before.length (inside.length + (before.length + 1))
      (before ++ a :: inside ++ b :: after) = a :: inside ++ [b] := by
    have hsplit : before ++ a :: inside ++ b :: after =
        (before ++ (a :: inside ++ [b])) ++ after := by simp
    rw [between, hsplit, List.take_left' (by simp; omega), List.drop_left]
  have haround : around before.length (inside.length + (before.length + 1))
      (before ++ a :: inside ++ b :: after) = b :: after ++ (before ++ [a]) := by
    have hsplit : before ++ a :: inside ++ b :: after =
        (before ++ [a]) ++ (inside ++ b :: after) := by simp
    rw [around, List.drop_left' (by simp; omega), hsplit, List.take_left' (by simp)]
  have hcycle : contains (before ++ a :: inside ++ b :: after) p =
      contains (a :: inside ++ b :: (after ++ before)) p := by
    rw [List.append_assoc, contains_append_comm]
    simp
  have hclosed : b :: after ++ (before ++ [a]) = b :: (after ++ before) ++ [a] := by simp
  rw [hbetween, haround, hclosed, hcycle, contains_chord]

end Ring

/-! ## 4. Containment and cycles -/

/-- **A ring contains what the cycle of its vertices contains, and chords tile it.**  With exact
arithmetic, containment of any place in any ring is the same when the ring starts at another vertex,
goes the other way around, is closed, or gives a vertex twice; and of the two rings on the sides of
a chord, exactly one contains a place of the whole, on the chord as elsewhere, and both or neither
contain any other place.  The loop that runs and the closing that runs are those of the ring, with
doubles for numbers. -/
theorem contains_tiles (ring : List (Point Rat)) (p : Point Rat) :
    (∀ polygon vs places, polygon.items? = some vs → AreRead vs places →
        (∀ place, containsValue (.float place.lat) (.float place.lng) polygon =
          .ok (Ring.containsByNumber places place)) ∧
        ∃ closed, closeValue polygon = .ok closed ∧ AreRead closed (Ring.close places)) ∧
      (∀ k, Ring.contains (ring.rotate k) p = Ring.contains ring p) ∧
      Ring.contains ring.reverse p = Ring.contains ring p ∧
      Ring.contains (Ring.close ring) p = Ring.contains ring p ∧
      (∀ i, Ring.contains (Ring.repeatAt i ring) p = Ring.contains ring p) ∧
      ∀ i j, i < j → j < ring.length →
        Ring.contains ring p =
          (Ring.contains (Ring.between i j ring) p != Ring.contains (Ring.around i j ring) p) := by
  refine ⟨fun polygon vs places hvs hread => ⟨containsValue_eq hvs hread, ?_⟩,
    fun k => Ring.contains_rotate ring k p, Ring.contains_reverse ring p,
    Ring.contains_close ring p, fun i => Ring.contains_repeatAt i ring p,
    fun i j hij hj => Ring.contains_cut hij hj p⟩
  exact closeValue_eq (elements?_of_items? hvs) hread

/-- A square with a gable. -/
def house : List (Point Rat) := [⟨0, 0⟩, ⟨0, 4⟩, ⟨4, 4⟩, ⟨6, 2⟩, ⟨4, 0⟩]

/-- The same house in doubles. -/
def houseOfDoubles : List (Point Float) := [⟨0, 0⟩, ⟨0, 4⟩, ⟨4, 4⟩, ⟨6, 2⟩, ⟨4, 0⟩]

/-- Its vertices as a caller gives them. -/
def houseVertices : List Value := houseOfDoubles.map fun p => .list [.float p.lat, .float p.lng]

/-- Of the two parts on the sides of a diagonal, one contains the middle of the diagonal. -/
theorem contains_tiles_house :
    containsValue (.float 2) (.float 2) (.list houseVertices) =
        .ok (Ring.containsByNumber houseOfDoubles ⟨2, 2⟩) ∧
      (0 < 2 ∧ 2 < house.length) ∧
      Ring.between 0 2 house = [⟨0, 0⟩, ⟨0, 4⟩, ⟨4, 4⟩] ∧
      Ring.around 0 2 house = [⟨4, 4⟩, ⟨6, 2⟩, ⟨4, 0⟩, ⟨0, 0⟩] ∧
      Ring.contains house ⟨2, 2⟩ = true ∧
      (Ring.contains (Ring.between 0 2 house) ⟨2, 2⟩ !=
        Ring.contains (Ring.around 0 2 house) ⟨2, 2⟩) = true := by
  have hread : AreRead houseVertices houseOfDoubles := rfl
  have hfirst : 0 < 2 := by decide
  have hlast : 2 < house.length := by decide
  have hinside : Ring.contains house ⟨2, 2⟩ = true := by decide +kernel
  obtain ⟨hloop, -, -, -, -, hcut⟩ := contains_tiles house ⟨2, 2⟩
  exact ⟨(hloop (.list houseVertices) houseVertices houseOfDoubles rfl hread).1 ⟨2, 2⟩,
    ⟨hfirst, hlast⟩, rfl, rfl, hinside, (hcut 0 2 hfirst hlast).symm.trans hinside⟩

end Realty.Geo
