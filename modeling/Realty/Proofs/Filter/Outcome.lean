/-
# What compiling filters ends in

Compiling ends in a plan, in a rejection of `bounds` or `polygon`, or in a fault.  A fault is no
answer that a caller of the search expects, so this module says exactly when there is one.

* `areVertices_eq_error_iff`: the check on the vertices of a polygon is the only step that can
  fail on a list, and it fails at the first vertex that is not on the globe, when a coordinate of
  it is an integer beyond the doubles (`IsHugeVertex`).
* `polygonCondition_eq_fault_iff`: besides that, the text of a polygon may hold an integer that
  is too long to be read, or more open brackets than there is room for.
* `HasDeepText`: before the areas, taking a text fails where something is nested too deeply.
* `compile_isExpected_iff`: every other mapping compiles or is rejected.
* `compile_openBrackets`: a polygon text of opening brackets alone breaks off the reading, however
  much room there is, when there are more of them.
-/
import Realty.Filter.Compile
import Mathlib.Algebra.Group.Int.Defs

namespace Realty.Filter

open Geo

variable {room : Room}

/-! ## 1. Vertices -/

/-- A number as polygons from outside have them: an integer or a double. -/
def IsNumber (v : Value) : Prop := (polygonCoordinate? v).isSome

/-- An integer that no double comes near. -/
def IsHuge (v : Value) : Prop := ∃ n : Int, v = .int n ∧ Double.ofInt? n = none

/-- A list that starts with two numbers, one of which is beyond the doubles. -/
def IsHugeVertex (v : Value) : Prop :=
  ∃ lat lng rest, v.items? = some (lat :: lng :: rest) ∧ IsNumber lat ∧ IsNumber lng ∧
    (IsHuge lat ∨ IsHuge lng)

/-- A list that starts with the latitude and longitude of a place on the globe. -/
def IsPlace (v : Value) : Prop := ∃ p, polygonVertex? v = some (.ok p) ∧ p.onGlobe

/-- A number either has a double or is huge. -/
theorem polygonCoordinate?_cases {v : Value} (h : IsNumber v) :
    (∃ x, polygonCoordinate? v = some (.ok x) ∧ ¬ IsHuge v) ∨
      (polygonCoordinate? v = some (.error .integerTooLarge) ∧ IsHuge v) := by
  cases v with
  | int n =>
    cases hn : Double.ofInt? n with
    | none => exact Or.inr ⟨by simp [polygonCoordinate?, doubleOfInt, hn], n, rfl, hn⟩
    | some x =>
      refine Or.inl ⟨x, by simp [polygonCoordinate?, doubleOfInt, hn], ?_⟩
      rintro ⟨m, hm, hnone⟩
      cases hm
      simp [hn] at hnone
  | float x =>
    refine Or.inl ⟨x, rfl, ?_⟩
    rintro ⟨m, hm, -⟩
    cases hm
  | _ => simp [IsNumber, polygonCoordinate?] at h

/-- **Reading a vertex fails exactly on a huge coordinate**, and always in the same way. -/
theorem polygonVertex?_eq_error_iff {v : Value} {f : Fault} :
    polygonVertex? v = some (.error f) ↔ IsHugeVertex v ∧ f = .integerTooLarge := by
  constructor
  · intro h
    unfold polygonVertex? at h
    split at h
    · rename_i lat lng rest hv
      split at h
      · rename_i x y hx hy
        have hlat : IsNumber lat := by simp [IsNumber, hx]
        have hlng : IsNumber lng := by simp [IsNumber, hy]
        rcases polygonCoordinate?_cases hlat with ⟨a, ha, -⟩ | ⟨ha, hhuge⟩
        · rcases polygonCoordinate?_cases hlng with ⟨b, hb, -⟩ | ⟨hb, hhuge⟩
          · rw [ha] at hx
            rw [hb] at hy
            cases hx
            cases hy
            cases h
          · rw [ha] at hx
            rw [hb] at hy
            cases hx
            cases hy
            cases h
            exact ⟨⟨lat, lng, rest, hv, hlat, hlng, Or.inr hhuge⟩, rfl⟩
        · rw [ha] at hx
          cases hx
          cases h
          exact ⟨⟨lat, lng, rest, hv, hlat, hlng, Or.inl hhuge⟩, rfl⟩
      · cases h
    · cases h
  · rintro ⟨⟨lat, lng, rest, hv, hlat, hlng, hhuge⟩, rfl⟩
    rcases polygonCoordinate?_cases hlat with ⟨a, ha, hna⟩ | ⟨ha, -⟩
    · rcases polygonCoordinate?_cases hlng with ⟨b, -, hnb⟩ | ⟨hb, -⟩
      · exact absurd hhuge (by simp [hna, hnb])
      · simp only [polygonVertex?, hv, ha, hb]
        rfl
    · obtain ⟨y, hy⟩ := Option.isSome_iff_exists.1 hlng
      simp only [polygonVertex?, hv, ha, hy]
      rfl

/-- **The check on vertices fails exactly at a huge vertex after places on the globe.** -/
theorem areVertices_eq_error_iff {vs : List Value} {f : Fault} :
    areVertices vs = .error f ↔
      f = .integerTooLarge ∧ ∃ places v rest, vs = places ++ v :: rest ∧
        (∀ u ∈ places, IsPlace u) ∧ IsHugeVertex v := by
  induction vs with
  | nil => simp [areVertices]
  | cons v vs ih =>
    constructor
    · intro h
      cases hv : polygonVertex? v with
      | none => simp [areVertices, hv] at h
      | some r =>
        cases r with
        | error g =>
          obtain ⟨hhuge, rfl⟩ := polygonVertex?_eq_error_iff.1 hv
          simp only [areVertices, hv, bind, Except.bind, Except.error.injEq] at h
          exact ⟨h.symm, [], v, vs, rfl, by simp, hhuge⟩
        | ok p =>
          by_cases hp : p.onGlobe
          · simp only [areVertices, hv, bind, Except.bind, hp, if_true] at h
            obtain ⟨hf, places, w, rest, rfl, hplaces, hhuge⟩ := ih.1 h
            refine ⟨hf, v :: places, w, rest, rfl, ?_, hhuge⟩
            intro u hu
            rcases List.mem_cons.1 hu with rfl | hu
            · exact ⟨p, hv, hp⟩
            · exact hplaces u hu
          · simp [areVertices, hv, bind, Except.bind, hp, pure, Except.pure] at h
    · rintro ⟨rfl, places, w, rest, hvs, hplaces, hhuge⟩
      cases places with
      | nil =>
        obtain ⟨rfl, rfl⟩ := List.cons.inj hvs
        have hw := polygonVertex?_eq_error_iff.2 ⟨hhuge, rfl⟩
        simp only [areVertices, hw, bind, Except.bind]
      | cons u places =>
        obtain ⟨rfl, rfl⟩ := List.cons.inj hvs
        obtain ⟨p, hu, hp⟩ := hplaces v (by simp)
        simp only [areVertices, hu, bind, Except.bind, hp, if_true]
        exact ih.2 ⟨rfl, places, w, rest, rfl, fun u hu => hplaces u (by simp [hu]), hhuge⟩

/-! ## 2. Polygons -/

/-- A list of at least three items in which a huge vertex follows places on the globe only. -/
def HasHugeVertex (v : Value) : Prop :=
  ∃ vs, v.items? = some vs ∧ 3 ≤ vs.length ∧ ∃ places w rest, vs = places ++ w :: rest ∧
    (∀ u ∈ places, IsPlace u) ∧ IsHugeVertex w

theorem isPolygon_eq_error_iff {v : Value} {f : Fault} :
    isPolygon v = .error f ↔ f = .integerTooLarge ∧ HasHugeVertex v := by
  unfold isPolygon HasHugeVertex
  cases v.items? with
  | none => simp
  | some vs =>
    by_cases hlen : vs.length < 3
    · simp only [hlen, if_true, reduceCtorEq, Option.some.injEq, exists_eq_left', false_iff]
      rintro ⟨-, hge, -⟩
      omega
    · simp only [hlen, if_false, areVertices_eq_error_iff, Option.some.injEq, exists_eq_left']
      constructor
      · rintro ⟨hf, h⟩
        exact ⟨hf, by omega, h⟩
      · rintro ⟨hf, -, h⟩
        exact ⟨hf, h⟩

/-- The list that a polygon filter describes, read from its text if it is one. -/
def Describes (room : Room) (v w : Value) : Prop :=
  match v with
  | .str s => Json.parse room.brackets s.toList = .ok w
  | v => v = w

/-- What is wrong with a text that is neither read nor rejected. -/
inductive BreaksOff : Json.Error → Fault → Prop
  | tooLong (digits : Nat) : BreaksOff (.integerTooLong digits) (.integerTooLong digits)
  | tooDeep : BreaksOff .nestedTooDeeply .nestedTooDeeply

/-- The polygon filters on which compiling fails: text with an integer too long to be read or with
brackets nested too deeply, and lists with an integer beyond the doubles where a coordinate is
looked for. -/
inductive IsUnreadable (room : Room) : Value → Fault → Prop
  | text {s : String} {e : Json.Error} {f : Fault} :
      Json.parse room.brackets s.toList = .error e → BreaksOff e f → IsUnreadable room (.str s) f
  | vertex {v w : Value} :
      Describes room v w → HasHugeVertex w → IsUnreadable room v .integerTooLarge

theorem polygonValue_eq_ok_iff {v w : Value} :
    Area.polygonValue room v = .ok w ↔ Describes room v w := by
  cases v with
  | str s =>
    simp only [Area.polygonValue, Describes]
    split <;> simp_all
  | _ => simp [Area.polygonValue, Describes]

theorem polygonValue_eq_fault_iff {v : Value} {f : Fault} :
    Area.polygonValue room v = .error (.fault f) ↔
      ∃ s e, v = .str s ∧ Json.parse room.brackets s.toList = .error e ∧ BreaksOff e f := by
  constructor
  · intro h
    cases v with
    | str s =>
      rw [Area.polygonValue] at h
      split at h
      · cases h
      · next digits herror =>
        cases h
        exact ⟨s, _, rfl, herror, .tooLong digits⟩
      · next herror =>
        cases h
        exact ⟨s, _, rfl, herror, .tooDeep⟩
      · cases h
    | _ => cases h
  · rintro ⟨s, e, rfl, herror, hbreaks⟩
    rw [Area.polygonValue, herror]
    cases hbreaks <;> rfl

theorem polygonOfValue_eq_fault_iff {w : Value} {f : Fault} :
    Area.polygonOfValue w = .error (.fault f) ↔ f = .integerTooLarge ∧ HasHugeVertex w := by
  rw [← isPolygon_eq_error_iff, Area.polygonOfValue]
  cases h : isPolygon w with
  | error g => simp
  | ok b => cases b <;> simp

theorem polygon_eq_fault_iff {v : Value} {f : Fault} :
    Area.polygon room v = .error (.fault f) ↔ IsUnreadable room v f := by
  constructor
  · intro h
    cases hv : Area.polygonValue room v with
    | error e =>
      simp only [Area.polygon, hv, bind, Except.bind, Except.error.injEq] at h
      subst h
      obtain ⟨s, e, rfl, hs, hbreaks⟩ := polygonValue_eq_fault_iff.1 hv
      exact .text hs hbreaks
    | ok w =>
      simp only [Area.polygon, hv, bind, Except.bind] at h
      obtain ⟨rfl, hw⟩ := polygonOfValue_eq_fault_iff.1 h
      exact .vertex (polygonValue_eq_ok_iff.1 hv) hw
  · intro h
    cases h with
    | @text s e _ hs hbreaks =>
      have hv := polygonValue_eq_fault_iff.2 ⟨s, e, rfl, hs, hbreaks⟩
      simp only [Area.polygon, hv, bind, Except.bind]
    | @vertex _ w hw hhuge =>
      have hv := polygonValue_eq_ok_iff.2 hw
      simp only [Area.polygon, hv, bind, Except.bind]
      exact polygonOfValue_eq_fault_iff.2 ⟨rfl, hhuge⟩

theorem not_isBlank_of_ne {s : String} (h : s ≠ "") : (Value.str s).isBlank = false := by
  simpa [Value.isBlank] using h

theorem not_isBlank_of_items {v : Value} {vs : List Value} (hvs : v.items? = some vs)
    (hne : vs ≠ []) : v.isBlank = false := by
  cases v <;> cases hvs
  all_goals exact List.isEmpty_eq_false_iff.2 hne

/-- A filter that was left empty is readable: it describes no list of three items. -/
theorem IsUnreadable.not_isBlank {v : Value} {f : Fault} (h : IsUnreadable room v f) :
    v.isBlank = false := by
  cases h with
  | @text s e _ hs hbreaks =>
    refine not_isBlank_of_ne ?_
    rintro rfl
    cases hs
    cases hbreaks
  | @vertex _ w hw hhuge =>
    obtain ⟨vs, hvs, hlen, -⟩ := hhuge
    have hne : vs ≠ [] := List.ne_nil_of_length_pos (by omega)
    cases v with
    | str s =>
      -- an empty text describes nothing
      refine not_isBlank_of_ne ?_
      rintro rfl
      cases hw
    | _ =>
      cases hw
      exact not_isBlank_of_items hvs hne

theorem polygonCondition_eq_fault_iff {v : Value} {f : Fault} :
    Area.polygonCondition room v = .error (.fault f) ↔ IsUnreadable room v f := by
  rw [← polygon_eq_fault_iff]
  cases hb : v.isBlank with
  | false =>
    simp only [Area.polygonCondition, hb, Bool.false_eq_true, if_false]
    cases Area.polygon room v <;> simp [Except.map]
  | true =>
    simp only [Area.polygonCondition, hb, if_true, reduceCtorEq, false_iff]
    intro h
    have := (polygon_eq_fault_iff.1 h).not_isBlank
    simp [hb] at this

/-- Bounds are accepted or rejected. -/
theorem boundsCondition_ne_fault (v : Value) (f : Fault) :
    Area.boundsCondition v ≠ .error (.fault f) := by
  unfold Area.boundsCondition
  split
  · simp
  · split <;> simp

/-! ## 3. Compiling -/

/-- Whether a text is taken for the status or a facet of a value that is nested more deeply than
there is room for. -/
def HasDeepText (room : Room) (raw : Filters) : Prop :=
  (∃ v ∈ Status.listed (get raw "status"), room.text "status" < v.depth) ∨
    ∃ f ∈ facets, ∃ v ∈ f.rule.listed (get raw f.key), room.text f.key < v.depth

/-- The filters on which compiling fails with this fault: no listing is looked up, and a text that
is taken is nested too deeply; or else the bounds are accepted, and the polygon cannot be read. -/
def Fails (room : Room) (raw : Filters) (f : Fault) : Prop :=
  lookupConditions raw = [] ∧
    (HasDeepText room raw ∧ f = .nestedTooDeeply ∨
      ¬ HasDeepText room raw ∧ (∃ cs, Area.boundsCondition (get raw "bounds") = .ok cs) ∧
        IsUnreadable room (get raw "polygon") f)

theorem holds_eq_false_iff {key : String} {vs : List Value} :
    room.holds key vs = false ↔ ∃ v ∈ vs, room.text key < v.depth := by
  rw [← Bool.not_eq_true, Room.holds_iff]
  simp

theorem textsFit_eq_false_iff {raw : Filters} :
    textsFit room raw = false ↔ HasDeepText room raw := by
  rw [textsFit, Bool.and_eq_false_iff, List.all_eq_false, statusFits, holds_eq_false_iff]
  simp only [Bool.not_eq_true, Facet.fits, holds_eq_false_iff, HasDeepText]

/-- The areas fail exactly on a polygon that cannot be read behind bounds that are accepted. -/
theorem areaConditions_eq_fault_iff {raw : Filters} {f : Fault} :
    areaConditions room raw = .error (.fault f) ↔
      (∃ cs, Area.boundsCondition (get raw "bounds") = .ok cs) ∧
        IsUnreadable room (get raw "polygon") f := by
  rw [areaConditions, ← polygonCondition_eq_fault_iff]
  cases hb : Area.boundsCondition (get raw "bounds") with
  | error e =>
    have hne := boundsCondition_ne_fault (get raw "bounds") f
    rw [hb] at hne
    simpa [bind, Except.bind] using hne
  | ok cs =>
    cases Area.polygonCondition room (get raw "polygon") <;>
      simp [bind, Except.bind, pure, Except.pure]

/-- **Compiling fails exactly on a text that is nested too deeply and on a polygon that cannot be
read.** -/
theorem compile_eq_fault_iff {raw : Filters} {f : Fault} :
    compile room raw = .error (.fault f) ↔ Fails room raw f := by
  rw [Fails]
  by_cases hlookup : lookupConditions raw = []
  · rw [compile_of_facets hlookup, compileFacets, ← areaConditions_eq_fault_iff,
      ← textsFit_eq_false_iff]
    cases textsFit room raw with
    | false => simp [hlookup, eq_comm]
    | true => cases areaConditions room raw <;> simp [hlookup, Except.map]
  · rw [compile_of_lookup hlookup]
    simp [hlookup]

/-- A rejection concerns one of the two area filters. -/
theorem Rejection.key_eq (r : Rejection) : r.key = "bounds" ∨ r.key = "polygon" := by
  cases r <;> simp [Rejection.key]

/-- The outcomes that a caller of the search expects: a plan, or a rejection of an area filter
whose message starts with the key of the filter. -/
def IsExpected : Except Error Plan → Prop
  | .ok _ => True
  | .error e => ∃ r, e = .rejected r ∧ (r.key = "bounds" ∨ r.key = "polygon") ∧
      e.message = r.key ++ ": " ++ r.reason

/-- **Compiling ends as expected unless a text is nested too deeply or the polygon cannot be read.**
Of polygons these are a text with an integer of too many digits or with too many open brackets, and
an integer beyond the doubles where a coordinate of the first vertex that is not on the globe should
be. -/
theorem compile_isExpected_iff (room : Room) (raw : Filters) :
    IsExpected (compile room raw) ↔ ¬ ∃ f, Fails room raw f := by
  simp only [← compile_eq_fault_iff, not_exists]
  cases h : compile room raw with
  | ok plan => simp [IsExpected]
  | error e =>
    cases e with
    | fault f =>
      simp only [IsExpected, reduceCtorEq, false_and, exists_false, false_iff]
      exact fun hnone => hnone f rfl
    | rejected r =>
      refine ⟨fun _ f => by simp, fun _ => ⟨r, rfl, r.key_eq, rfl⟩⟩

/-- Opening brackets alone are nested too deeply when there are more of them than there is room
for. -/
theorem value_openBrackets (fuel : Nat) {room n : Nat} (h : room < n) (hfuel : 2 * room < fuel) :
    Json.value fuel room (List.replicate n '[') = .error .nestedTooDeeply := by
  obtain ⟨n, rfl⟩ := Nat.exists_eq_add_one.2 (Nat.zero_lt_of_lt h)
  obtain ⟨fuel, rfl⟩ := Nat.exists_eq_add_one.2 (Nat.zero_lt_of_lt hfuel)
  rw [List.replicate_succ]
  induction room generalizing fuel n with
  | zero => rfl
  | succ room ih =>
    -- two steps lead from a bracket to the next one: into its list, and to the first item
    obtain ⟨n, rfl⟩ := Nat.exists_eq_add_one.2 (show 0 < n by omega)
    obtain ⟨fuel, rfl⟩ := Nat.exists_eq_add_one.2 (show 0 < fuel by omega)
    obtain ⟨fuel, rfl⟩ := Nat.exists_eq_add_one.2 (show 0 < fuel by omega)
    have hstep : Json.value (fuel + 3) (room + 1) ('[' :: '[' :: List.replicate n '[') =
        (Json.items (fuel + 2) room ('[' :: List.replicate n '[')).bind fun r =>
          .ok (.list r.1, r.2) := rfl
    rw [List.replicate_succ, hstep, Json.items, ih n (by omega) fuel (by omega)]
    rfl

theorem parse_openBrackets {room n : Nat} (h : room < n) :
    Json.parse room (List.replicate n '[') = .error .nestedTooDeeply := by
  have hvalue := value_openBrackets (2 * n + 2) h (by omega)
  obtain ⟨n, rfl⟩ := Nat.exists_eq_add_one.2 (Nat.zero_lt_of_lt h)
  have hmark : ¬ ('['.toNat = 0xFEFF) := by decide
  have hskip : Json.skipSpace (List.replicate (n + 1) '[') = List.replicate (n + 1) '[' := rfl
  have hlength : ('[' :: List.replicate n '[').length = n + 1 := by
    rw [List.length_cons, List.length_replicate]
  rw [List.replicate_succ] at hvalue hskip ⊢
  simp only [Json.parse, if_neg hmark, hskip, hlength, hvalue, bind, Except.bind]

/-- **A polygon text of opening brackets alone is no rejection**, however much room there is, when
there are more of them: it breaks off the reading. -/
theorem compile_openBrackets {raw : Filters} {n : Nat} (hlookup : lookupConditions raw = [])
    (htexts : textsFit room raw = true) (hbounds : (get raw "bounds").isBlank = true)
    (hpolygon : get raw "polygon" = .str (String.ofList (List.replicate n '[')))
    (h : room.brackets < n) : compile room raw = .error (.fault .nestedTooDeeply) := by
  have hparse : Json.parse room.brackets (String.ofList (List.replicate n '[')).toList =
      .error .nestedTooDeeply := by
    rw [String.toList_ofList]
    exact parse_openBrackets h
  have hdeep : ¬ HasDeepText room raw := by
    rw [← textsFit_eq_false_iff, htexts]
    exact Bool.noConfusion
  refine compile_eq_fault_iff.2 ⟨hlookup, .inr ⟨hdeep, ⟨[], ?_⟩, ?_⟩⟩
  · rw [Area.boundsCondition, hbounds]
    rfl
  · rw [hpolygon]
    exact .text hparse .tooDeep

/-- A triangle whose first latitude has a hundred digits more than any double. -/
def hugeTriangle : Filters :=
  [("polygon", .list [.list [.int (10 ^ 409), .int 0], .list [.int 0, .int 1],
    .list [.int 1, .int 1]])]

/-- **An integer beyond the doubles is no rejection.** -/
theorem compile_hugeTriangle :
    compile .standard hugeTriangle = .error (.fault .integerTooLarge) ∧
      ¬ IsExpected (compile .standard hugeTriangle) := by
  have hhuge : Double.ofInt? (10 ^ 409) = none := by decide +kernel
  have hflat : ¬ HasDeepText .standard hugeTriangle := by
    rw [← textsFit_eq_false_iff, Bool.not_eq_false]
    decide +kernel
  have hfails : Fails .standard hugeTriangle .integerTooLarge := by
    refine ⟨rfl, .inr ⟨hflat, ⟨[], rfl⟩, .vertex rfl ⟨_, rfl, by decide, [], _, _, rfl, by simp,
      ?_⟩⟩⟩
    exact ⟨_, _, _, rfl, rfl, rfl, Or.inl ⟨_, rfl, hhuge⟩⟩
  have hcompile := compile_eq_fault_iff.2 hfails
  refine ⟨hcompile, ?_⟩
  rw [hcompile]
  rintro ⟨r, hr, -⟩
  cases hr

end Realty.Filter
