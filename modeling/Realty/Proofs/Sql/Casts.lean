/-
# Integers and the types they are cast to

A placeholder casts its value to the type that its text names.  The database refuses an integer
that the type does not hold.

* `Piece.Fits` says that the integers of a place are held by the type of its cast.
* `compared_fits_iff`: an integer that is compared with a column has to fit the column if this holds
  integers, and 64 bits if it holds fractions; by itself an integer has to fit 64 bits
  (`ofValue_fits_iff`).
* `fitsIn_of_carried` and `fitsIn_range_iff` say it of leaves: one without integers fits, and a
  range does when its bound does.
-/
import Mathlib.Algebra.Group.Int.Defs
import Realty.Proofs.Sql.Leaves

namespace Realty.Sql

/-! ## 1. Casts -/

/-- Whether an integer fits in so many bits, one of them for the sign. -/
def FitsBits (bits : Nat) (n : Int) : Prop := -2 ^ (bits - 1) ≤ n ∧ n < 2 ^ (bits - 1)

instance (bits : Nat) (n : Int) : Decidable (FitsBits bits n) :=
  inferInstanceAs (Decidable (_ ∧ _))

/-- The bits of the integers that a cast accepts. -/
def castBits? : String → Option Nat
  | "INTEGER" => some 32
  | "BIGINT" => some 64
  | _ => none

/-- The bits of the integers that a placeholder of a type accepts. -/
def BindType.bits? (t : BindType) : Option Nat := t.castName?.bind castBits?

/-- The integers that are bound with a value. -/
def integers : Value → List Int
  | .int n => [n]
  | .list vs => vs.flatMap fun
      | .int n => [n]
      | _ => []
  | _ => []

/-- The type that the value of a place is bound with. -/
def Piece.type? : Piece → Option BindType
  | .bind b => some b.type
  | .list b _ => some b.type
  | .named _ v => some (.ofValue v)
  | _ => none

/-- The integers of a place are held by the type of its cast. -/
def Piece.Fits (piece : Piece) : Prop :=
  ∀ v, piece.value? = some v → ∀ bits, piece.type?.bind BindType.bits? = some bits →
    ∀ n ∈ integers v, FitsBits bits n

theorem fits_of_not_isValue {piece : Piece} (h : piece.value? = none) : piece.Fits := by
  intro v hv
  rw [h] at hv
  cases hv

/-- A value without integers always fits. -/
theorem fits_of_integers {piece : Piece} (h : ∀ v, piece.value? = some v → integers v = []) :
    piece.Fits := by
  intro v hv bits _ n hn
  rw [h v hv] at hn
  cases hn

/-- A place for one integer. -/
theorem bind_fits_iff (label : String) {n : Int} {t : BindType} :
    (Piece.bind ⟨label, .int n, t⟩).Fits ↔ ∀ bits, t.bits? = some bits → FitsBits bits n := by
  constructor
  · exact fun h bits hbits => h _ rfl bits hbits n (List.mem_singleton_self n)
  · intro h v hv bits hbits m hm
    cases hv
    obtain rfl : m = n := List.mem_singleton.1 hm
    exact h bits hbits

theorem fitsBits_of_not_isWide {n : Int} (h : BindType.isWide n = false) : FitsBits 32 n := by
  have hmagnitude : ¬ 0x80000000 ≤ n.natAbs := of_decide_eq_false h
  simp only [FitsBits]
  omega

theorem FitsBits.mono {n : Int} (h : FitsBits 32 n) : FitsBits 64 n := by
  simp only [FitsBits] at *
  omega

/-- An integer by itself is cast to the type of its size, and fits unless it needs more than 64
bits. -/
theorem ofValue_fits_iff (label : String) {n : Int} :
    (Piece.bind ⟨label, .int n, .ofValue (.int n)⟩).Fits ↔ FitsBits 64 n := by
  rw [bind_fits_iff, BindType.ofValue]
  cases hwide : BindType.isWide n with
  | true =>
    have hbits : BindType.bigInteger.bits? = some 64 := by decide
    simp [hbits]
  | false =>
    have hbits : BindType.integer.bits? = some 32 := by decide
    have hfits := fitsBits_of_not_isWide hwide
    simp [hbits, hfits, hfits.mono]

/-- The bits of the integers that a column can be compared with. -/
def ColumnType.bits? : ColumnType → Option Nat
  | .integer => some 32
  | .numeric _ _ => some 64
  | _ => none

/-- **An integer that is compared with a column** is cast to the type of the column when this holds
integers, and to that of its size when the column holds fractions. -/
theorem compared_fits_iff (label : String) {c : Column} {n : Int} {bits : Nat}
    (hc : c.type.bits? = some bits) :
    (Piece.bind ⟨label, .int n, .compared c (.int n)⟩).Fits ↔ FitsBits bits n := by
  cases htype : c.type with
  | integer =>
    rw [htype] at hc
    cases hc
    have hcompared : BindType.compared c (.int n) = .column .integer := by
      cases hwide : BindType.isWide n <;>
        simp [BindType.compared, htype, BindType.ofValue, hwide, BindType.family, ColumnType.family]
    have hbits : (BindType.column .integer).bits? = some 32 := by decide
    rw [hcompared, bind_fits_iff]
    simp [hbits]
  | numeric precision scale =>
    rw [htype] at hc
    cases hc
    have hcompared : BindType.compared c (.int n) = .ofValue (.int n) := by
      cases hwide : BindType.isWide n <;>
        simp [BindType.compared, htype, BindType.ofValue, hwide, BindType.family, ColumnType.family]
    rw [hcompared]
    exact ofValue_fits_iff label
  | _ =>
    rw [htype] at hc
    cases hc

/-! ## 2. Leaves -/

variable {today : Date}

/-- Whether all places of a node fit. -/
def FitsIn (today : Date) (p : Predicate) : Prop :=
  ∀ c, clause today p = .ok c → ∀ piece ∈ c.slots, piece.Fits

/-- Places fit when those of each tree do. -/
theorem SlotsOf.fits_iff {ps : List Predicate} {slots : List Piece} (h : SlotsOf today ps slots) :
    (∀ piece ∈ slots, piece.Fits) ↔ ∀ p ∈ ps, FitsIn today p := by
  constructor
  · exact fun hfits p hp c hc piece hpiece => hfits piece (h.mem_iff.2 ⟨p, hp, c, hc, hpiece⟩)
  · intro hfits piece hpiece
    obtain ⟨p, hp, c, hc, hpiece⟩ := h.mem_iff.1 hpiece
    exact hfits p hp c hc piece hpiece

/-- A leaf that carries no integers fits. -/
theorem fitsIn_of_carried {p : Predicate} (hjoining : isJoining p = false)
    (hraw : ∀ sql params, p = .raw sql params → IsBoundInOrder sql params)
    (h : ∀ v ∈ carried today p, integers v = []) : FitsIn today p := by
  intro c hc piece hpiece
  refine fits_of_integers fun v hv => h v ?_
  rw [← values_slots hc hjoining hraw]
  exact List.mem_filterMap.2 ⟨piece, hpiece, hv⟩

/-- A leaf that is not the caller's text fits when it carries no integers. -/
theorem fitsIn_of_integers {p : Predicate} (hjoining : isJoining p = false)
    (hraw : isRaw p = false) (h : ∀ v ∈ carried today p, integers v = []) : FitsIn today p := by
  refine fitsIn_of_carried hjoining (fun sql params hp => ?_) h
  rw [hp] at hraw
  cases hraw

/-- The bits of the integers that a column can be compared with, by its name. -/
def columnBits? (name : String) : Option Nat :=
  (columnOf name).toOption.bind fun c => c.type.bits?

theorem columnBits?_eq_some {name : String} {bits : Nat} (h : columnBits? name = some bits) :
    ∃ c, columnOf name = .ok c ∧ c.type.bits? = some bits := by
  unfold columnBits? at h
  cases hname : columnOf name with
  | error e =>
    rw [hname] at h
    cases h
  | ok c =>
    rw [hname] at h
    exact ⟨c, rfl, h⟩

/-- An integer that is the one bound of a range. -/
theorem fitsIn_range_iff {name : String} {a b : Value} {n : Int} {bits : Nat}
    (hbits : columnBits? name = some bits) (hgiven : givenBound a ++ givenBound b = [.int n])
    (hrenders : renders today (.range name a b) = true) :
    FitsIn today (.range name a b) ↔ FitsBits bits n := by
  obtain ⟨d, hname, hd⟩ := columnBits?_eq_some hbits
  obtain ⟨c, hc⟩ := exists_clause_iff.2 hrenders
  obtain ⟨d', hname', hslots⟩ := slots_range hc
  obtain rfl : d = d' := Except.ok.inj (hname.symm.trans hname')
  rw [hgiven] at hslots
  rw [← compared_fits_iff d.name hd]
  constructor
  · exact fun h => h c hc _ (hslots ▸ List.mem_singleton_self _)
  · intro h c' hc' piece hpiece
    obtain rfl : c = c' := Except.ok.inj (hc.symm.trans hc')
    rw [hslots] at hpiece
    rw [List.mem_singleton.1 hpiece]
    exact h

/-- A comparison with an integer fits when the column can be compared with it. -/
theorem fitsIn_greaterThan {name : String} {n : Int} {bits : Nat}
    (hbits : columnBits? name = some bits) (hn : FitsBits bits n) :
    FitsIn today (.greaterThan name (.int n)) := by
  obtain ⟨d, hname, hd⟩ := columnBits?_eq_some hbits
  intro c hc piece hpiece
  obtain ⟨d', hname', hc⟩ := bind_eq_ok_iff.1 hc
  obtain rfl : d = d' := Except.ok.inj (hname.symm.trans hname')
  cases hc
  rw [Clause.slots, slots_comparison] at hpiece
  rw [List.mem_singleton.1 hpiece]
  exact (compared_fits_iff d.name hd).2 hn

/-- The watermark of in-house listings fits. -/
theorem fitsIn_exclusiveListing (name : String) : FitsIn today (.exclusiveListing name) := by
  intro c hc piece hpiece
  obtain ⟨d, -, hc⟩ := bind_eq_ok_iff.1 hc
  cases hc
  rw [slots_exclusiveness] at hpiece
  rcases List.mem_cons.1 hpiece with rfl | hpiece
  · refine fits_of_integers fun v hv => ?_
    cases hv
    rfl
  · rw [List.mem_singleton.1 hpiece, bind_fits_iff]
    decide

end Realty.Sql
