/-
# Conditions on the place of a listing are single operands

* `trace` follows the parentheses of a fragment, segment by segment: what the caller names the
  columns has no effect, because they stand between parentheses.
* `IsPlaceCondition` are the conditions that the fragments of `Realty.Geo.Fragment` make, for any
  columns and values, and `IsPlaceCondition.isOperandNode` says that each is a single operand.
-/
import Realty.Geo.Fragment
import Realty.Proofs.Sql.Comparison
import Realty.Proofs.Sql.Template
import Realty.Proofs.Text.Digits

namespace Realty.Sql.Template

/-! ## 1. The text of a fragment -/

/-- The text of a segment with its value. -/
def Segment.symbols (value : List Char → Piece) : Segment → List Symbol
  | .text cs => cs.map .char
  | .column cs => cs.map .char
  | .slot name => [.slot (value name)]

/-- The text of segments with their values. -/
def filled (value : List Char → Piece) (segments : List Segment) : List Symbol :=
  segments.flatMap (Segment.symbols value)

/-- The piece that a placeholder becomes. -/
def valuePiece (params : List (String × Value)) (name : List Char) : Piece :=
  .named (String.ofList name) (placeholderValue params (String.ofList name))

/-- **A fragment is rendered to its segments with their values.** -/
theorem symbols_fragment {sql : String} {params : List (String × Value)} {ps : List Piece}
    {segments : List Segment} (hsql : sql.toList = source segments)
    (hsegments : segments.all Segment.isWellFormed = true) (hfits : fits none segments = true)
    (h : fragment sql params = .ok (.leaf ps)) :
    symbols ps = filled (valuePiece params) segments := by
  unfold fragment at h
  simp only at h
  split at h
  · cases h
  · cases h
    have hscan : scan sql = segments.flatMap Segment.scanned := by
      rw [scan, hsql, scanFrom_source hsegments hfits]
    rw [hscan, symbols, filled, List.flatMap_map, List.flatMap_assoc]
    refine congrArg (fun f => segments.flatMap f) (funext fun s => ?_)
    have hliteral {piece : Token → Piece} (hpiece : ∀ cs, piece (.text cs) = .text (.ofList cs))
        (cs : List Char) : ((cs.map fun c => Token.text [c]).flatMap fun t => (piece t).symbols) =
          cs.map .char := by
      induction cs with
      | nil => rfl
      | cons c cs ih =>
        rw [List.map_cons, List.flatMap_cons, ih, hpiece]
        simp [Piece.symbols, chars]
    cases s with
    | text cs => exact hliteral (fun _ => rfl) cs
    | column cs => exact hliteral (fun _ => rfl) cs
    | slot name => rfl

/-! ## 2. Parentheses -/

/-- Whether what follows ends any word. -/
def startsBreak : List Segment → Bool
  | [] => true
  | .text (c :: _) :: _ => isBreak c
  | _ => false

/-- Whether a text ends its last token, or what follows does. -/
def endsToken (s : List Symbol) (r : List Segment) : Bool :=
  match after .idle s with
  | .idle => true
  | m => m.isOpen && startsBreak r

/-- The level that segments lead to.  Columns have to stand between parentheses. -/
def trace (l : Level) : List Segment → Option Level
  | [] => some l
  | .text cs :: r =>
    if endsToken (cs.map .char) r then
      (l.walk? Sql.Token.isConnective (lex (cs.map .char))).bind fun m => trace m r
    else none
  | .column _ :: r => if 0 < l.depth ∧ startsBreak r then trace l r else none
  | .slot _ :: r => trace l r

variable (value : List Char → Piece)

/-- The next text ends the token in front of it. -/
theorem filled_of_startsBreak {r : List Segment} (h : startsBreak r = true) :
    filled value r = [] ∨ ∃ c s, filled value r = .char c :: s ∧ isBreak c = true := by
  cases r with
  | nil => exact Or.inl rfl
  | cons s r =>
    cases s with
    | text cs =>
      cases cs with
      | nil => cases h
      | cons c cs => exact Or.inr ⟨c, _, rfl, h⟩
    | column cs => cases h
    | slot name => cases h

/-- A text is cut on its own in front of segments that it does not run into. -/
theorem lex_append_filled {a : List Symbol} {r : List Segment}
    (hopen : (after .idle a).isOpen = true) (h : after .idle a = .idle ∨ startsBreak r = true) :
    lex (a ++ filled value r) = lex a ++ lex (filled value r) ∧
      ((after .idle (filled value r)).isOpen = true →
        (after .idle (a ++ filled value r)).isOpen = true) := by
  have hjoins (hj : Joins a (filled value r)) :
      lex (a ++ filled value r) = lex a ++ lex (filled value r) ∧
        ((after .idle (filled value r)).isOpen = true →
          (after .idle (a ++ filled value r)).isOpen = true) := by
    refine ⟨lex_append hopen hj, fun hr => ?_⟩
    rwa [after_idle_append hopen hj]
  rcases h with hidle | hbreak
  · exact hjoins (Or.inl hidle)
  · rcases filled_of_startsBreak value hbreak with hnil | hbreak
    · rw [hnil, List.append_nil]
      exact ⟨(List.append_nil _).symm, fun _ => hopen⟩
    · exact hjoins (Or.inr hbreak)

theorem append_filled {l m k : Level} {a : List Symbol} {r : List Segment}
    (ha : Passes l a m) (hr : Passes m (filled value r) k)
    (h : after .idle a = .idle ∨ startsBreak r = true) : Passes l (a ++ filled value r) k := by
  obtain ⟨hlex, hopen⟩ := lex_append_filled value ha.isOpen h
  refine ⟨hopen hr.isOpen, ?_⟩
  rw [hlex, Level.walk?_append _ ha.walk]
  exact hr.walk

theorem endsToken_cases {s : List Symbol} {r : List Segment} (h : endsToken s r = true) :
    (after .idle s).isOpen = true ∧ (after .idle s = .idle ∨ startsBreak r = true) := by
  unfold endsToken at h
  split at h
  · next hidle => exact ⟨by rw [hidle]; rfl, Or.inl hidle⟩
  · simp only [Bool.and_eq_true] at h
    exact ⟨h.1, Or.inr h.2⟩

/-- Between parentheses, tokens that are none have no effect. -/
theorem walk?_inside {l : Level} (hl : 0 < l.depth) {ts : List Sql.Token}
    (h : ∀ t ∈ ts, t.isMark '(' = false ∧ t.isMark ')' = false) :
    l.walk? Sql.Token.isConnective ts = some l := by
  have hdepth : l.depth ≠ 0 := by omega
  induction ts with
  | nil => rfl
  | cons t ts ih =>
    obtain ⟨hopen, hclose⟩ := h t List.mem_cons_self
    refine Level.walk?_cons_eq_some.2 ⟨by simp [Level.cuts, hdepth], l, ?_, ?_⟩
    · simp [Level.next?, hopen, hclose, hdepth]
    · exact ih fun u hu => h u (List.mem_cons_of_mem t hu)

/-- The name of a column is read as words and points. -/
theorem lexFrom_column {m : Mode} {cs : List Char} (h : cs.all isColumnChar = true)
    (hm : m = .idle ∨ ∃ ds, m = .word ds) :
    (∀ t ∈ lexFrom m (cs.map .char), t.isMark '(' = false ∧ t.isMark ')' = false) ∧
      (after m (cs.map .char)).isOpen = true := by
  induction cs generalizing m with
  | nil =>
    rcases hm with rfl | ⟨ds, rfl⟩ <;>
      simp [lexFrom, Mode.pending, Mode.isOpen, Sql.Token.isMark]
  | cons c cs ih =>
    simp only [List.all_cons, Bool.and_eq_true] at h
    obtain ⟨hc, hcs⟩ := h
    have hstep : ((lexStep m (.char c)).2 = .idle ∨ ∃ ds, (lexStep m (.char c)).2 = .word ds) ∧
        ∀ t ∈ (lexStep m (.char c)).1, t.isMark '(' = false ∧ t.isMark ')' = false := by
      cases hname : isNameChar c with
      | true => rcases hm with rfl | ⟨ds, rfl⟩ <;> simp [lexStep, start, hname]
      | false =>
        have hpoint : c = '.' := by
          simp only [isColumnChar, Bool.or_eq_true, beq_iff_eq] at hc
          simp only [isNameChar, Bool.or_eq_false_iff] at hname
          rcases hc with (halpha | hscore) | hpoint
          · simp [halpha] at hname
          · simp [hscore] at hname
          · exact hpoint
        subst hpoint
        have hstart : start '.' = ([.mark '.'], .idle) := rfl
        rcases hm with rfl | ⟨ds, rfl⟩ <;>
          simp [lexStep, hname, hstart, Sql.Token.isMark]
    obtain ⟨hrest, hopen⟩ := ih hcs hstep.1
    rw [List.map_cons, lexFrom, after_cons]
    refine ⟨fun t ht => ?_, hopen⟩
    rcases List.mem_append.1 ht with ht | ht
    · exact hstep.2 t ht
    · exact hrest t ht

/-- **Segments lead where their trace says**, with any values and column names. -/
theorem passes_of_trace {l m : Level} {segments : List Segment}
    (hsegments : segments.all Segment.isWellFormed = true) (h : trace l segments = some m) :
    Passes l (filled value segments) m := by
  induction segments generalizing l with
  | nil =>
    cases h
    exact ⟨rfl, rfl⟩
  | cons s r ih =>
    simp only [List.all_cons, Bool.and_eq_true] at hsegments
    obtain ⟨hs, hr⟩ := hsegments
    cases s with
    | text cs =>
      simp only [trace] at h
      split at h
      · next hends =>
        obtain ⟨hopen, hjoin⟩ := endsToken_cases hends
        obtain ⟨k, hk, h⟩ := Option.bind_eq_some_iff.1 h
        exact append_filled value ⟨hopen, hk⟩ (ih hr h) hjoin
      · cases h
    | column cs =>
      simp only [trace] at h
      split at h
      · next hinside =>
        obtain ⟨htokens, hopen⟩ := lexFrom_column hs (Or.inl rfl)
        exact append_filled value ⟨hopen, walk?_inside hinside.1 htokens⟩ (ih hr h)
          (Or.inr hinside.2)
      · cases h
    | slot name =>
      have hslot : Passes l [.slot (value name)] l := ⟨rfl, l.walk?_plain rfl⟩
      exact append_filled value hslot (ih hr h) (Or.inl rfl)

/-- **A fragment that comes back outside all parentheses is a single operand.** -/
theorem isOperandNode_of_trace {sql : String} {params : List (String × Value)} (cs : List Char)
    (r : List Segment) (hsql : sql.toList = source (.text cs :: r))
    (hsegments : (.text cs :: r).all Segment.isWellFormed = true)
    (hfits : fits none (.text cs :: r) = true)
    (htrace : trace .outside (.text cs :: r) = some .outside) (hne : lex (cs.map .char) ≠ []) :
    IsOperandNode (.raw sql params) := by
  intro today ps h
  rw [symbols_fragment hsql hsegments hfits h]
  have hpasses : Passes .outside _ .outside :=
    passes_of_trace (valuePiece params) hsegments htrace
  refine ⟨hpasses.isOpen, ?_, hpasses.walk⟩
  simp only [trace] at htrace
  split at htrace
  · next hends =>
    obtain ⟨hopen, hjoin⟩ := endsToken_cases hends
    have hlex : lex (filled (valuePiece params) (.text cs :: r)) = _ :=
      (lex_append_filled (valuePiece params) hopen hjoin).1
    rw [hlex]
    simp [hne]
  · cases htrace

end Realty.Sql.Template

namespace Realty.Geo

open Sql Sql.Template

/-! ## 3. Fragments -/

theorem isColumnChar_of_isIdentifierChar {c : Char} (h : isIdentifierChar c = true) :
    isColumnChar c = true := by
  simp only [isIdentifierChar, Bool.or_eq_true, Bool.and_eq_true, decide_eq_true_eq] at h
  have hisUpper (hc : 'A' ≤ c ∧ c ≤ 'Z') : c.isUpper = true := decide_eq_true hc
  have hisLower (hc : 'a' ≤ c ∧ c ≤ 'z') : c.isLower = true :=
    Bool.and_eq_true_iff.2 ⟨decide_eq_true hc.1, decide_eq_true hc.2⟩
  have hisDigit (hc : '0' ≤ c ∧ c ≤ '9') : c.isDigit = true :=
    Bool.and_eq_true_iff.2 ⟨decide_eq_true hc.1, decide_eq_true hc.2⟩
  have halphanum : c.isAlphanum = ((c.isUpper || c.isLower) || c.isDigit) := rfl
  simp only [isColumnChar, halphanum, Bool.or_eq_true, beq_iff_eq]
  rcases h with (((hlower | hupper) | hdigit) | hscore) | hpoint
  · exact Or.inl (Or.inl (Or.inl (Or.inr (hisLower hlower))))
  · exact Or.inl (Or.inl (Or.inl (Or.inl (hisUpper hupper))))
  · exact Or.inl (Or.inl (Or.inr (hisDigit hdigit)))
  · exact Or.inl (Or.inr hscore)
  · exact Or.inr hpoint

theorem plainIdentifier_isWellFormed (name : String) :
    (Segment.column (plainIdentifier name).toList).isWellFormed = true := by
  rw [Segment.isWellFormed, plainIdentifier, String.toList_ofList]
  refine List.all_eq_true.2 fun c hc => ?_
  exact isColumnChar_of_isIdentifierChar (List.mem_filter.1 hc).2

/-- The segments of a circle. -/
def radiusSegments (c : PlaceColumns) : List Segment :=
  [.text "(3959 * ACOS(COS(RADIANS(".toList, .slot "radius_lat".toList,
    .text ")) * COS(RADIANS(".toList, .column c.lat.toList, .text ")) * COS(RADIANS(".toList,
    .column c.lng.toList, .text ") - RADIANS(".toList, .slot "radius_lng".toList,
    .text ")) + SIN(RADIANS(".toList, .slot "radius_lat".toList, .text ")) * SIN(RADIANS(".toList,
    .column c.lat.toList, .text ")))) <= ".toList, .slot "radius_miles".toList]

/-- The segments of a rectangle of latitudes and longitudes. -/
def boundsSegments (c : PlaceColumns) : List Segment :=
  [.text "(".toList, .column c.lat.toList, .text " BETWEEN ".toList, .slot "bounds_south".toList,
    .text " AND ".toList, .slot "bounds_north".toList, .text " AND ".toList,
    .column c.lng.toList, .text " BETWEEN ".toList, .slot "bounds_west".toList,
    .text " AND ".toList, .slot "bounds_east".toList, .text ")".toList]

/-- The segments of an envelope. -/
def envelopeSegments (column : String) : List Segment :=
  [.text "ST_Intersects(".toList, .column column.toList, .text ", ST_MakeEnvelope(".toList,
    .slot "bounds_min_lng".toList, .text ", ".toList, .slot "bounds_min_lat".toList,
    .text ", ".toList, .slot "bounds_max_lng".toList, .text ", ".toList,
    .slot "bounds_max_lat".toList, .text ", 4326))".toList]

/-- The segments of a polygon by its well-known text. -/
def polygonSegments (column : String) : List Segment :=
  [.text "ST_Contains(ST_GeomFromText(".toList, .slot "polygon_wkt".toList,
    .text ", 4326), ".toList, .column column.toList, .text ")".toList]

theorem withinRadius_eq (columns : PlaceColumns) (place : Point Float) (miles : Float) :
    ∃ sql, sql.toList = source (radiusSegments columns.plain) ∧
      withinRadius columns place miles = .raw sql (params [("radius_lat", place.lat),
        ("radius_lng", place.lng), ("radius_miles", miles)]) := by
  refine ⟨_, ?_, rfl⟩
  simp [radiusSegments, source, Segment.source, earthRadiusText]

theorem withinBounds_eq (columns : PlaceColumns) (b : Bounds Float) :
    ∃ sql, sql.toList = source (boundsSegments columns.plain) ∧
      withinBounds columns b = .raw sql (params [("bounds_south", b.south),
        ("bounds_north", b.north), ("bounds_west", b.west), ("bounds_east", b.east)]) := by
  refine ⟨_, ?_, rfl⟩
  simp [boundsSegments, source, Segment.source]

theorem inEnvelope_eq (column : String) (b : Bounds Float) :
    ∃ sql, sql.toList = source (envelopeSegments (plainIdentifier column)) ∧
      inEnvelope column b = .raw sql (params [("bounds_min_lng", b.west),
        ("bounds_min_lat", b.south), ("bounds_max_lng", b.east), ("bounds_max_lat", b.north)]) := by
  refine ⟨_, ?_, rfl⟩
  simp [envelopeSegments, source, Segment.source, referenceSystem]

theorem inPolygonText_eq (column wkt : String) :
    ∃ sql, sql.toList = source (polygonSegments (plainIdentifier column)) ∧
      inPolygonText column wkt = .raw sql [("polygon_wkt", .str wkt)] := by
  refine ⟨_, ?_, rfl⟩
  simp [polygonSegments, source, Segment.source, referenceSystem]

theorem withinRadius_isOperandNode (columns : PlaceColumns) (place : Point Float) (miles : Float) :
    IsOperandNode (withinRadius columns place miles) := by
  have hlat : (Segment.column columns.plain.lat.toList).isWellFormed = true :=
    plainIdentifier_isWellFormed columns.lat
  have hlng : (Segment.column columns.plain.lng.toList).isWellFormed = true :=
    plainIdentifier_isWellFormed columns.lng
  obtain ⟨sql, hsql, heq⟩ := withinRadius_eq columns place miles
  rw [heq]
  refine isOperandNode_of_trace _ _ hsql ?_ rfl rfl (List.cons_ne_nil _ _)
  simp only [List.all_cons, hlat, hlng]
  rfl

theorem withinBounds_isOperandNode (columns : PlaceColumns) (b : Bounds Float) :
    IsOperandNode (withinBounds columns b) := by
  have hlat : (Segment.column columns.plain.lat.toList).isWellFormed = true :=
    plainIdentifier_isWellFormed columns.lat
  have hlng : (Segment.column columns.plain.lng.toList).isWellFormed = true :=
    plainIdentifier_isWellFormed columns.lng
  obtain ⟨sql, hsql, heq⟩ := withinBounds_eq columns b
  rw [heq]
  refine isOperandNode_of_trace _ _ hsql ?_ rfl rfl (List.cons_ne_nil _ _)
  simp only [List.all_cons, hlat, hlng]
  rfl

theorem inEnvelope_isOperandNode (column : String) (b : Bounds Float) :
    IsOperandNode (inEnvelope column b) := by
  obtain ⟨sql, hsql, heq⟩ := inEnvelope_eq column b
  rw [heq]
  refine isOperandNode_of_trace _ _ hsql ?_ rfl rfl (List.cons_ne_nil _ _)
  simp only [List.all_cons, plainIdentifier_isWellFormed column]
  rfl

theorem inPolygonText_isOperandNode (column wkt : String) :
    IsOperandNode (inPolygonText column wkt) := by
  obtain ⟨sql, hsql, heq⟩ := inPolygonText_eq column wkt
  rw [heq]
  refine isOperandNode_of_trace _ _ hsql ?_ rfl rfl (List.cons_ne_nil _ _)
  simp only [List.all_cons, plainIdentifier_isWellFormed column]
  rfl

/-! ## 4. Rings -/

theorem isWordChar_of_mem_natDigits {n : Nat} {c : Char} (h : c ∈ Text.natDigits n) :
    Text.isWordChar c = true := by
  have hdigit := Text.areDigits_natDigits n c h
  have hrange : 48 ≤ c.toNat ∧ c.toNat ≤ 57 := by
    simpa [Char.isDigit, UInt32.le_iff_toNat_le] using hdigit
  rw [Text.isWordChar_ascii (by omega)]
  simp [hrange]

/-- The placeholders of a term have names. -/
theorem slot_isWellFormed {α : Type} (a : Arm α) (ending : String)
    (h : ending.toList.all Text.isWordChar = true) :
    (Segment.slot (a.name ++ ending).toList).isWellFormed = true := by
  have hedge : "edge".toList.all Text.isWordChar = true := by rfl
  have hindex : (Text.intText a.index).toList.all Text.isWordChar = true := by
    rw [Text.intText, String.toList_ofList]
    exact List.all_eq_true.2 fun c hc => isWordChar_of_mem_natDigits hc
  simp only [Segment.isWellFormed, Arm.name, String.toList_append, List.all_append, hedge, hindex,
    h]
  rfl

/-- The segments of a term. -/
def armSegments (c : PlaceColumns) (name : String) : List Segment :=
  let slot (suffix : String) : Segment := .slot (name ++ suffix).toList
  [.text "CASE WHEN ((".toList, slot "_lng1", .text " > ".toList, .column c.lng.toList,
    .text ") <> (".toList, slot "_lng2", .text " > ".toList, .column c.lng.toList,
    .text ")) AND (".toList, .column c.lat.toList, .text " < (".toList, slot "_lat2",
    .text " - ".toList, slot "_lat1", .text ") * (".toList, .column c.lng.toList,
    .text " - ".toList, slot "_lng1", .text ") / (".toList, slot "_lng2", .text " - ".toList,
    slot "_lng1", .text ") + ".toList, slot "_lat1", .text ") THEN 1 ELSE 0 END".toList]

theorem source_armSegments {α : Type} (c : PlaceColumns) (a : Arm α) :
    (a.text c).toList = source (armSegments c a.name) := by
  delta Arm.text armSegments
  simp [source, Segment.source]

theorem armSegments_isWellFormed {α : Type} (columns : PlaceColumns) (a : Arm α) :
    (armSegments columns.plain a.name).all Segment.isWellFormed = true := by
  have hlat : (Segment.column columns.plain.lat.toList).isWellFormed = true :=
    plainIdentifier_isWellFormed columns.lat
  have hlng : (Segment.column columns.plain.lng.toList).isWellFormed = true :=
    plainIdentifier_isWellFormed columns.lng
  have hlat1 := slot_isWellFormed a "_lat1" (by rfl)
  have hlng1 := slot_isWellFormed a "_lng1" (by rfl)
  have hlat2 := slot_isWellFormed a "_lat2" (by rfl)
  have hlng2 := slot_isWellFormed a "_lng2" (by rfl)
  simp only [armSegments, List.all_cons, hlat, hlng, hlat1, hlng1, hlat2, hlng2]
  rfl

/-- The segments of a sum after its first term, with what follows it. -/
def sumSegments (c : PlaceColumns) : List String → List Segment
  | [] => [.text ", 2) = 1)".toList]
  | name :: names => .text " + ".toList :: armSegments c name ++ sumSegments c names

theorem fits_armSegments (c : PlaceColumns) (name : String) (before : Option Char)
    (r : List Segment) : fits before (armSegments c name ++ r) = fits (some 'D') r := rfl

theorem fits_sumSegments (c : PlaceColumns) (names : List String) (before : Option Char) :
    fits before (sumSegments c names) = true := by
  induction names generalizing before with
  | nil => rfl
  | cons name names ih =>
    rw [sumSegments, List.cons_append, fits, fits_armSegments, ih]

theorem startsBreak_sumSegments (c : PlaceColumns) (names : List String) :
    startsBreak (sumSegments c names) = true := by
  cases names <;> rfl

/-- A text that ends all its tokens leads to the level its tokens lead to. -/
theorem trace_text {l m : Level} {cs : List Char} (r : List Segment)
    (hidle : after .idle (cs.map .char) = .idle)
    (hwalk : l.walk? Sql.Token.isConnective (lex (cs.map .char)) = some m) :
    trace l (.text cs :: r) = trace m r := by
  have hends : endsToken (cs.map .char) r = true := by rw [endsToken, hidle]
  rw [trace, if_pos hends, hwalk]
  rfl

/-- A term changes no level. -/
theorem trace_armSegments (c : PlaceColumns) (name : String) {r : List Segment}
    (hr : startsBreak r = true) :
    trace ⟨2, false⟩ (armSegments c name ++ r) = trace ⟨2, false⟩ r := by
  have hstep : trace ⟨2, false⟩ (armSegments c name ++ r) =
      if startsBreak r then trace ⟨2, false⟩ r else none := rfl
  rw [hstep, if_pos hr]

theorem trace_sumSegments (c : PlaceColumns) (names : List String) :
    trace ⟨2, false⟩ (sumSegments c names) = some .outside := by
  induction names with
  | nil => rfl
  | cons name names ih =>
    rw [sumSegments, List.cons_append, trace_text _ rfl rfl,
      trace_armSegments c name (startsBreak_sumSegments c names), ih]

theorem source_append (a b : List Segment) : source (a ++ b) = source a ++ source b :=
  List.flatMap_append

theorem source_sumSegments {α : Type} (c : PlaceColumns) (a : Arm α) (as : List (Arm α)) :
    (Text.joined " + " ((a :: as).map (Arm.text c)) ++ ", 2) = 1)").toList =
      source (armSegments c a.name ++ sumSegments c (as.map Arm.name)) := by
  rw [source_append, ← source_armSegments]
  induction as generalizing a with
  | nil =>
    simp only [Text.joined, List.map_cons, List.map_nil, String.intercalate_singleton,
      String.toList_append]
    rfl
  | cons b as ih =>
    have hrest : source (sumSegments c ((b :: as).map Arm.name)) =
        " + ".toList ++ source (armSegments c b.name ++ sumSegments c (as.map Arm.name)) := rfl
    rw [hrest, source_append, ← source_armSegments, ← ih b]
    simp only [Text.joined, List.map_cons, String.intercalate_cons_cons, String.toList_append,
      List.append_assoc]

theorem sumSegments_isWellFormed {α : Type} (columns : PlaceColumns) (as : List (Arm α)) :
    (sumSegments columns.plain (as.map Arm.name)).all Segment.isWellFormed = true := by
  induction as with
  | nil =>
    simp only [List.map_nil, sumSegments]
    rfl
  | cons a as ih =>
    rw [List.map_cons, sumSegments, List.all_append, List.all_cons,
      armSegments_isWellFormed columns a, ih]
    rfl

/-- The segments of a ring whose terms have these names. -/
def ringSegments (c : PlaceColumns) : List String → List Segment
  | [] => [.text "1 = 0".toList]
  | name :: names => .text "(MOD(".toList :: (armSegments c name ++ sumSegments c names)

theorem fits_ringSegments (c : PlaceColumns) (names : List String) :
    fits none (ringSegments c names) = true := by
  cases names with
  | nil => rfl
  | cons name names => rw [ringSegments, fits, fits_armSegments, fits_sumSegments]

theorem ringSegments_isWellFormed {α : Type} (columns : PlaceColumns) (as : List (Arm α)) :
    (ringSegments columns.plain (as.map Arm.name)).all Segment.isWellFormed = true := by
  cases as with
  | nil => rfl
  | cons a as =>
    rw [List.map_cons, ringSegments, List.all_cons, List.all_append,
      armSegments_isWellFormed columns a, sumSegments_isWellFormed]
    rfl

theorem withinRing_written (columns : PlaceColumns) (ring : List (Point Float)) :
    ∃ sql, sql.toList = source (ringSegments columns.plain ((arms ring).map Arm.name)) ∧
      withinRing columns ring = .raw sql (params ((arms ring).flatMap Arm.params)) := by
  unfold withinRing
  cases arms ring with
  | nil => exact ⟨"1 = 0", rfl, rfl⟩
  | cons a as =>
    refine ⟨_, ?_, rfl⟩
    rw [String.append_assoc, String.toList_append, source_sumSegments columns.plain a as]
    rfl

theorem withinRing_isOperandNode (columns : PlaceColumns) (ring : List (Point Float)) :
    IsOperandNode (withinRing columns ring) := by
  obtain ⟨sql, hsql, heq⟩ := withinRing_written columns ring
  have hsegments := ringSegments_isWellFormed columns (arms ring)
  have hfits := fits_ringSegments columns.plain ((arms ring).map Arm.name)
  rw [heq]
  cases has : (arms ring).map Arm.name with
  | nil =>
    rw [has] at hsql hsegments hfits
    exact isOperandNode_of_trace _ _ hsql hsegments hfits rfl (List.cons_ne_nil _ _)
  | cons name names =>
    rw [has] at hsql hsegments hfits
    refine isOperandNode_of_trace _ _ hsql hsegments hfits ?_ (List.cons_ne_nil _ _)
    have hopening : Level.outside.walk? Sql.Token.isConnective
        (lex ("(MOD(".toList.map .char)) = some ⟨2, false⟩ := rfl
    rw [trace_text _ rfl hopening, trace_armSegments _ _ (startsBreak_sumSegments _ _),
      trace_sumSegments]

/-! ## 5. All conditions on the place -/

/-- The conditions on the place of a listing. -/
inductive IsPlaceCondition : Predicate → Prop where
  | radius (columns : PlaceColumns) (place : Point Float) (miles : Float) :
      IsPlaceCondition (withinRadius columns place miles)
  | bounds (columns : PlaceColumns) (b : Bounds Float) : IsPlaceCondition (withinBounds columns b)
  | ring (columns : PlaceColumns) (vertices : List (Point Float)) :
      IsPlaceCondition (withinRing columns vertices)
  | envelope (column : String) (b : Bounds Float) : IsPlaceCondition (inEnvelope column b)
  | polygon (column wkt : String) : IsPlaceCondition (inPolygonText column wkt)

/-- **Every condition on the place is a single operand.** -/
theorem IsPlaceCondition.isOperandNode {p : Predicate} (h : IsPlaceCondition p) :
    IsOperandNode p := by
  cases h with
  | radius columns place miles => exact withinRadius_isOperandNode columns place miles
  | bounds columns b => exact withinBounds_isOperandNode columns b
  | ring columns vertices => exact withinRing_isOperandNode columns vertices
  | envelope column b => exact inEnvelope_isOperandNode column b
  | polygon column wkt => exact inPolygonText_isOperandNode column wkt

end Realty.Geo
