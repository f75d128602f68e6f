/-
# The ray cast of the query

The condition that a ring writes into the query casts the ray of containment, in exact arithmetic.

* `Arm.number` is a term as an expression and `ringTest` the whole condition;
  `text_ringTest`: their text is what the condition says.
* `nodup_keys_armParams`: no two placeholders have one name, so each stands for its own coordinate.
* `value_number`: a term is one when the ray crosses its edge, else zero, and it always has a value.
* `rayCast_agrees`: on every row the condition holds exactly if the ring contains the row's place.
-/
import Realty.Proofs.Fields
import Realty.Proofs.Geo.Polygon
import Realty.Proofs.Geo.Ring
import Realty.Proofs.Sql.Arithmetic
import Realty.Proofs.Sql.Params

namespace Realty.Geo

open Sql.Arithmetic

/-! ## 1. The condition as an expression -/

section Text

variable {α : Type} (c : PlaceColumns)

/-- A placeholder of a term. -/
def Arm.slot (a : Arm α) (ending : String) : Number := .slot (a.name ++ ending)

/-- The latitude at which the line through the edge meets the row's meridian. -/
def Arm.meeting (a : Arm α) : Number :=
  .add
    (.div
      (.mul (.parens (.sub (a.slot "_lat2") (a.slot "_lat1")))
        (.parens (.sub (.column c.lng) (a.slot "_lng1"))))
      (.parens (.sub (a.slot "_lng2") (a.slot "_lng1"))))
    (a.slot "_lat1")

/-- Whether the ray from the row's place crosses the edge of a term. -/
def Arm.test (a : Arm α) : Test :=
  .both
    (.parens (.differ (.parens (.greater (a.slot "_lng1") (.column c.lng)))
      (.parens (.greater (a.slot "_lng2") (.column c.lng)))))
    (.parens (.less (.column c.lat) (a.meeting c)))

/-- A term. -/
def Arm.number (a : Arm α) : Number := .choice (a.test c) (.whole 1) (.whole 0)

/-- Terms added up, after a first one. -/
def sumFrom (first : Number) (as : List (Arm α)) : Number :=
  as.foldl (fun sum a => .add sum (a.number c)) first

/-- The condition with the given terms. -/
def ringTest (as : List (Arm α)) : Test :=
  match as with
  | [] => .equal (.whole 1) (.whole 0)
  | a :: as => .parens (.equal (.mod (sumFrom c (a.number c) as) (.whole 2)) (.whole 1))

/-- The text of the condition with the given terms. -/
def ringText (as : List (Arm α)) : String :=
  match as with
  | [] => "1 = 0"
  | as => "(MOD(" ++ Text.joined " + " (as.map (Arm.text c)) ++ ", 2) = 1)"

/-- What a ring of doubles writes into the query. -/
theorem withinRing_eq (columns : PlaceColumns) (ring : List (Point Float)) :
    withinRing columns ring =
      .raw (ringText columns.plain (arms ring)) (params ((arms ring).flatMap Arm.params)) := by
  unfold withinRing
  cases arms ring <;> rfl

variable {c}

theorem text_number (a : Arm α) : (a.number c).text = a.text c := by
  have hone : Nat.repr 1 = "1" := rfl
  have hzero : Nat.repr 0 = "0" := rfl
  refine String.toList_inj.1 ?_
  delta Arm.text Arm.number Arm.test Arm.meeting Arm.slot
  simp [Number.text, Test.text, choiceText, hone, hzero]

/-- Two parts may be joined first. -/
theorem joined_cons_cons (sep a b : String) (parts : List String) :
    Text.joined sep (a :: b :: parts) = Text.joined sep ((a ++ sep ++ b) :: parts) := by
  cases parts with
  | nil =>
    rw [Text.joined, Text.joined, String.intercalate_cons_cons, String.intercalate_singleton,
      String.intercalate_singleton]
  | cons d parts =>
    simp only [Text.joined, String.intercalate_cons_cons, String.append_assoc]

theorem text_sumFrom (first : Number) (as : List (Arm α)) :
    (sumFrom c first as).text = Text.joined " + " (first.text :: as.map (Arm.text c)) := by
  induction as generalizing first with
  | nil =>
    rw [Text.joined, List.map_nil, String.intercalate_singleton]
    rfl
  | cons a as ih =>
    have hstep := ih (.add first (a.number c))
    rw [Number.text, text_number, ← joined_cons_cons] at hstep
    exact hstep

/-- **The text of the expression is that of the condition.** -/
theorem text_ringTest (as : List (Arm α)) : (ringTest c as).text = ringText c as := by
  have hone : Nat.repr 1 = "1" := rfl
  have htwo : Nat.repr 2 = "2" := rfl
  cases as with
  | nil => rfl
  | cons a as =>
    have hsum := text_sumFrom (c := c) (a.number c) as
    rw [text_number] at hsum
    simp only [ringTest, ringText, Test.text, Number.text, hone, htwo, hsum, List.map_cons,
      String.append_assoc]
    rfl

theorem isPlaced_sumFrom {first : Number} (h : first.isPlaced = true) (as : List (Arm α)) :
    (sumFrom c first as).isPlaced = true := by
  induction as generalizing first with
  | nil => exact h
  | cons a as ih =>
    refine ih ?_
    rw [Number.isPlaced, h]
    rfl

/-- **Every operand of the condition stands where it can.** -/
theorem isPlaced_ringTest (as : List (Arm α)) : (ringTest c as).isPlaced = true := by
  cases as with
  | nil => rfl
  | cons a as =>
    have hsum : (sumFrom c (a.number c) as).isPlaced = true := isPlaced_sumFrom rfl as
    simp only [ringTest, Test.isPlaced, Number.isPlaced, hsum, Bool.and_self]

end Text

/-! ## 2. Placeholders -/

/-- The names of a term's placeholders tell the position of the edge and the coordinate. -/
theorem armName_injective {i j : Nat} {e f : List Char} (he : '_' ∉ e) (hf : '_' ∉ f)
    (h : "edge".toList ++ Text.natDigits i ++ '_' :: e =
      "edge".toList ++ Text.natDigits j ++ '_' :: f) : i = j ∧ e = f := by
  obtain ⟨hname, hending⟩ := Sql.append_mark_inj he hf h
  exact ⟨Text.natDigits_injective (List.append_cancel_left hname), hending⟩

section Names

variable {α : Type}

/-- The endings of the names of a term's placeholders, without the underscore. -/
def endings : List String := ["lat1", "lng1", "lat2", "lng2"]

theorem keys_params (a : Arm α) :
    a.params.map Prod.fst = endings.map fun ending => a.name ++ "_" ++ ending := by
  simp only [Arm.params, endings, List.map_cons, List.map_nil, String.append_assoc]
  rfl

theorem toList_name (a : Arm α) (ending : String) :
    (a.name ++ "_" ++ ending).toList =
      "edge".toList ++ Text.natDigits a.index ++ '_' :: ending.toList := by
  simp [Arm.name, Text.intText, Text.intDigits]

theorem placeholder_injective {a b : Arm α} {e f : String} (he : e ∈ endings) (hf : f ∈ endings)
    (h : a.name ++ "_" ++ e = b.name ++ "_" ++ f) : a.index = b.index ∧ e = f := by
  have hmark : ∀ ending ∈ endings, '_' ∉ ending.toList := by decide
  have hlist := congrArg String.toList h
  rw [toList_name, toList_name] at hlist
  obtain ⟨hindex, hending⟩ := armName_injective (hmark e he) (hmark f hf) hlist
  exact ⟨hindex, String.toList_inj.1 hending⟩

variable [BEq α]

/-- The terms of a ring are at different positions. -/
theorem arms_pairwise (ring : List (Point α)) :
    (arms ring).Pairwise fun a b => a.index ≠ b.index := by
  refine List.Pairwise.filter _ (List.pairwise_map.2 ?_)
  have hpositions : ((Ring.path ring).zipIdx.map Prod.snd).Nodup := by
    rw [List.zipIdx_map_snd]
    exact List.nodup_range'
  exact List.pairwise_map.1 hpositions

/-- **No two placeholders of the condition have one name.** -/
theorem nodup_keys_armParams (ring : List (Point α)) :
    (((arms ring).flatMap Arm.params).map Prod.fst).Nodup := by
  rw [List.map_flatMap, List.nodup_flatMap]
  constructor
  · intro a _
    have hendings : endings.Nodup := by decide
    rw [keys_params]
    exact List.Nodup.map_on (fun e he f hf h => (placeholder_injective he hf h).2) hendings
  · refine (arms_pairwise ring).imp fun {a b} hne name ha hb => ?_
    simp only [keys_params] at ha hb
    obtain ⟨e, he, rfl⟩ := List.mem_map.1 ha
    obtain ⟨f, hf, h⟩ := List.mem_map.1 hb
    exact hne (placeholder_injective he hf h.symm).1

end Names

/-! ## 3. Values -/

/-- What the remainder of two whole numbers is. -/
theorem remainder_natCast (n : Nat) {m : Nat} (h : m ≠ 0) :
    remainder n m = some ((n % m : Nat) : Rat) := by
  have hm : (m : Rat) ≠ 0 := Nat.cast_ne_zero.2 h
  have hfloor : truncated ((n : Rat) / m) = (n / m : Nat) := by
    have hnonneg : (0 : Rat) ≤ n / m := by positivity
    rw [truncated, if_pos hnonneg, Rat.floor_natCast_div_natCast]
    rfl
  have hdivision : (n : Rat) = m * (n / m : Nat) + (n % m : Nat) := by
    exact_mod_cast (Nat.div_add_mod n m).symm
  rw [remainder, quotient, if_neg hm, Option.map_some, hfloor]
  refine congrArg some ?_
  rw [Int.cast_natCast]
  linarith

section Values

variable {ring : List (Point Rat)} {row : String → Rat} {c : PlaceColumns}

/-- A row, with the placeholders bound to the coordinates of a ring. -/
def ringContext (ring : List (Point Rat)) (row : String → Rat) : Context :=
  ⟨row, (arms ring).flatMap Arm.params⟩

/-- The place of a row. -/
def PlaceColumns.placeIn (c : PlaceColumns) (row : String → Rat) : Point Rat :=
  ⟨row c.lat, row c.lng⟩

/-- The number of a truth. -/
def indicator (b : Bool) : Nat := if b then 1 else 0

/-- **A term has a value: one when the ray crosses its edge, else zero.**  Its divisor is not
zero, since edges along a meridian are left out. -/
theorem value_number {a : Arm Rat} (ha : a ∈ arms ring) :
    (a.number c).value (ringContext ring row) =
      some (indicator (a.edge.crosses (c.placeIn row))) := by
  have hslot (name : String) (x : Rat) (hmem : (name, x) ∈ a.params) :
      (ringContext ring row).params.lookup name = some x :=
    (lookup_eq_some_iff_mem (nodup_keys_armParams ring)).2 (List.mem_flatMap.2 ⟨a, ha, hmem⟩)
  have hlat1 := hslot (a.name ++ "_lat1") a.edge.start.lat (by simp [Arm.params])
  have hlng1 := hslot (a.name ++ "_lng1") a.edge.start.lng (by simp [Arm.params])
  have hlat2 := hslot (a.name ++ "_lat2") a.edge.stop.lat (by simp [Arm.params])
  have hlng2 := hslot (a.name ++ "_lng2") a.edge.stop.lng (by simp [Arm.params])
  have hdivisor : a.edge.stop.lng - a.edge.start.lng ≠ 0 := by
    refine Edge.divisor_ne_zero fun heq => ?_
    have hkept := (List.mem_filter.1 ha).2
    rw [heq, beq_self_eq_true] at hkept
    cases hkept
  have htest : (a.test c).truth (ringContext ring row) =
      some (a.edge.crosses (c.placeIn row)) := by
    simp only [Arm.test, Arm.meeting, Arm.slot, Test.truth, Number.value, hlat1, hlng1, hlat2,
      hlng2, quotient]
    simp only [Option.bind_eq_bind, Option.bind_some, hdivisor, if_false, pure]
    rfl
  rw [Arm.number, Number.value, htest]
  cases a.edge.crosses (c.placeIn row) <;> rfl

/-- The number of terms whose edges are crossed. -/
def crossed (p : Point Rat) (as : List (Arm Rat)) : Nat :=
  (as.map fun a => a.edge.crosses p).count true

theorem crossed_cons (p : Point Rat) (a : Arm Rat) (as : List (Arm Rat)) :
    crossed p (a :: as) = indicator (a.edge.crosses p) + crossed p as := by
  rw [crossed, List.map_cons, List.count_cons, Nat.add_comm, crossed, indicator]
  cases a.edge.crosses p <;> rfl

theorem odd_eq_crossed (p : Point Rat) (as : List (Arm Rat)) :
    Ring.odd (as.map fun a => a.edge.crosses p) = decide (crossed p as % 2 = 1) :=
  Ring.odd_eq_count _

/-- The sum of terms counts the crossings. -/
theorem value_sumFrom {as : List (Arm Rat)} (has : ∀ a ∈ as, a ∈ arms ring) {first : Number}
    {n : Nat} (hfirst : first.value (ringContext ring row) = some n) :
    (sumFrom c first as).value (ringContext ring row) =
      some ((n + crossed (c.placeIn row) as : Nat) : Rat) := by
  induction as generalizing first n with
  | nil => exact hfirst
  | cons a as ih =>
    obtain ⟨ha, has⟩ := List.forall_mem_cons.1 has
    have hnext : (Number.add first (a.number c)).value (ringContext ring row) =
        some ((n + indicator (a.edge.crosses (c.placeIn row)) : Nat) : Rat) := by
      rw [Number.value, hfirst, value_number ha, Nat.cast_add]
      rfl
    have hsum := ih has hnext
    rw [Nat.add_assoc, ← crossed_cons] at hsum
    exact hsum

/-- **The condition has a truth, the parity of the crossings.** -/
theorem truth_ringTest (ring : List (Point Rat)) (row : String → Rat) (c : PlaceColumns) :
    (ringTest c (arms ring)).truth (ringContext ring row) =
      some (Ring.odd ((arms ring).map fun a => a.edge.crosses (c.placeIn row))) := by
  suffices h : ∀ as ⊆ arms ring, (ringTest c as).truth (ringContext ring row) =
      some (Ring.odd (as.map fun a => a.edge.crosses (c.placeIn row))) from
    h (arms ring) (List.Subset.refl _)
  intro as has
  cases as with
  | nil => rfl
  | cons a as =>
    obtain ⟨ha, has⟩ := List.forall_mem_cons.1 has
    have hsum : (sumFrom c (a.number c) as).value (ringContext ring row) =
        some (crossed (c.placeIn row) (a :: as) : Rat) := by
      rw [value_sumFrom has (value_number ha), ← crossed_cons]
    have hmod := remainder_natCast (crossed (c.placeIn row) (a :: as)) (Nat.succ_ne_zero 1)
    have hparity : (((crossed (c.placeIn row) (a :: as) % 2 : Nat) : Rat) = (1 : Nat)) ↔
        crossed (c.placeIn row) (a :: as) % 2 = 1 := Nat.cast_inj
    rw [odd_eq_crossed, ← decide_eq_decide.2 hparity]
    simp only [ringTest, Test.truth, Number.value, hsum, Option.bind_eq_bind, Option.bind_some]
    rw [hmod]
    rfl

end Values

/-- The terms of a ring are crossed as often as the edges of its path. -/
theorem odd_arms (ring : List (Point Rat)) (p : Point Rat) :
    Ring.odd ((arms ring).map fun a => a.edge.crosses p) =
      Ring.crossedAlong p (Ring.path ring) := by
  have hmeridian : ∀ a ∈ (Ring.path ring).zipIdx.map (fun (e, i) => (⟨i, e⟩ : Arm Rat)),
      (!(a.edge.start.lng == a.edge.stop.lng)) = false → a.edge.crosses p = false := by
    intro a _ h
    refine Edge.crosses_of_meridian (beq_iff_eq.1 ?_)
    rwa [Bool.not_eq_false'] at h
  rw [arms, Ring.odd_filter hmeridian, List.map_map, Ring.crossedAlong]
  refine congrArg Ring.odd ?_
  calc (Ring.path ring).zipIdx.map ((fun a : Arm Rat => a.edge.crosses p) ∘ fun (e, i) => ⟨i, e⟩)
      = ((Ring.path ring).zipIdx.map Prod.fst).map fun e => e.crosses p := by
        rw [List.map_map]
        rfl
    _ = (Ring.path ring).map fun e => e.crosses p := by rw [List.zipIdx_map_fst]

/-! ## 4. Agreement -/

/-- **The condition of a polygon holds exactly where the polygon contains the place of the row**,
with exact arithmetic and any ring, closed or not.  The condition that is written and the loop that
runs are those of the ring, with doubles for numbers.  The condition has a truth on every row, so no
term divides by zero, and neither does the loop: it divides only for edges with their ends on
different sides of the point's meridian. -/
theorem rayCast_agrees (columns : PlaceColumns) (ring : List (Point Rat)) (row : String → Rat)
    (p : Point Rat) (hp : columns.plain.placeIn row = p) :
    (∀ polygon vs places, elements? polygon = some vs → AreRead vs places →
        withinRingValue polygon (.str columns.lat) (.str columns.lng) =
          .ok (.raw (ringTest columns.plain (arms (Ring.close places))).text
            (params ((arms (Ring.close places)).flatMap Arm.params)))) ∧
      (∀ polygon vs places place, polygon.items? = some vs → AreRead vs places →
        containsValue (.float place.lat) (.float place.lng) polygon =
          .ok (Ring.containsByNumber places place)) ∧
      (ringTest columns.plain (arms (Ring.close ring))).isPlaced = true ∧
      (ringTest columns.plain (arms (Ring.close ring))).truth (ringContext (Ring.close ring) row) =
        some (Ring.contains ring p) ∧
      ∀ e ∈ Ring.edges ring, e.straddles p = true → e.stop.lng - e.start.lng ≠ 0 := by
  refine ⟨fun polygon vs places hvs hread => ?_,
    fun polygon vs places place hvs hread => containsValue_eq hvs hread place,
    isPlaced_ringTest _, ?_, ?_⟩
  · rw [withinRingValue_eq hvs hread, withinRing_eq, text_ringTest]
  · rw [truth_ringTest, hp, odd_arms, Ring.odd_path_close, Ring.contains_eq_odd]
  · exact fun e _ hstraddles => Edge.divisor_ne_zero (Edge.lng_ne_of_straddles hstraddles)

/-- A square with two sides along meridians and one corner given twice. -/
def square : List (Point Rat) := [⟨0, 0⟩, ⟨0, 4⟩, ⟨4, 4⟩, ⟨4, 4⟩, ⟨4, 0⟩]

/-- The same square in doubles. -/
def squareOfDoubles : List (Point Float) := [⟨0, 0⟩, ⟨0, 4⟩, ⟨4, 4⟩, ⟨4, 4⟩, ⟨4, 0⟩]

/-- Its vertices as a caller gives them. -/
def squareVertices : List Value := squareOfDoubles.map fun p => .tuple [.float p.lat, .float p.lng]

/-- A row at a place. -/
def rowAt (p : Point Rat) (name : String) : Rat := if name = "latitude" then p.lat else p.lng

theorem rayCast_agrees_square :
    containsValue (.float 1) (.float 3) (.list squareVertices) =
        .ok (Ring.containsByNumber squareOfDoubles ⟨1, 3⟩) ∧
      (ringTest PlaceColumns.standard.plain (arms (Ring.close square))).truth
        (ringContext (Ring.close square) (rowAt ⟨1, 3⟩)) = some true := by
  have hp : PlaceColumns.standard.plain.placeIn (rowAt ⟨1, 3⟩) = ⟨1, 3⟩ := by decide +kernel
  have hinside : Ring.contains square ⟨1, 3⟩ = true := by decide +kernel
  have hread : AreRead squareVertices squareOfDoubles := rfl
  obtain ⟨-, hloop, -, htruth, -⟩ :=
    rayCast_agrees .standard square (rowAt ⟨1, 3⟩) ⟨1, 3⟩ hp
  exact ⟨hloop (.list squareVertices) squareVertices squareOfDoubles ⟨1, 3⟩ rfl hread,
    htruth.trans (congrArg some hinside)⟩

end Realty.Geo
