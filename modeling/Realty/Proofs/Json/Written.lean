/-
# What the text of a value keeps

The text of a value does not tell all of it: decimal numbers and dates are written as strings,
tuples as lists, and mappings in order of their keys.  `Value.written` is the value that is left.

* `encode_written`, `isWritten_written`: it has the same text, and it is written as it is.
* `encode_eq_iff`: so two values have one text exactly when the same is left of both.
* `counterpart`, `lookup_writtenFields`: what is left of a mapping tells what is left of each of
  its values.
* `same_of_written_eq`: values without decimals, dates and tuples are equal when the same is left
  of them.
-/
import Realty.Proofs.Fields
import Realty.Proofs.Json.Key

namespace Realty

/-! ## 1. The value that is left -/

namespace Value

mutual

/-- What is left of a value in its text. -/
def written : Value → Value
  | .null => .null
  | .bool b => .bool b
  | .int n => .int n
  | .float x => .float x
  | .str s => .str s
  | .decimal d => .str d.text
  | .date d => .str d.iso
  | .datetime t => .str (t.isoWith ' ')
  | .list xs => .list (writtenItems xs)
  | .tuple xs => .list (writtenItems xs)
  | .object fs => .object (Json.sortFields (writtenFields fs))

/-- What is left of each item. -/
def writtenItems : List Value → List Value
  | [] => []
  | x :: xs => x.written :: writtenItems xs

/-- The fields with what is left of each value. -/
def writtenFields : List (String × Value) → List (String × Value)
  | [] => []
  | (k, x) :: fs => (k, x.written) :: writtenFields fs

end

theorem writtenItems_eq_map (xs : List Value) : writtenItems xs = xs.map written := by
  induction xs with
  | nil => rfl
  | cons x xs ih => rw [writtenItems, ih, List.map_cons]

theorem writtenFields_eq_map (fs : List (String × Value)) :
    writtenFields fs = fs.map fun f => (f.1, f.2.written) := by
  induction fs with
  | nil => rfl
  | cons f fs ih => rw [writtenFields, ih, List.map_cons]

theorem written_of_isScalar {v : Value} (h : v.isScalar = true) : v.written = v := by
  cases v <;> first | rfl | cases h

/-- Plain values are left as they are. -/
theorem IsPlain.written_eq {v : Value} (h : IsPlain v) : v.written = v := by
  induction h with
  | scalar h => exact written_of_isScalar h
  | str s => rfl
  | @list xs _ ih =>
    rw [written, writtenItems_eq_map, List.map_congr_left ih, List.map_id']

end Value

namespace Json

/-! ## 2. Texts -/

variable {α : Type}

theorem sortFields_perm (fs : List (String × α)) : (sortFields fs).Perm fs :=
  List.mergeSort_perm _ _

/-- What is sorted stays as it is. -/
theorem sortFields_sortFields (fs : List (String × α)) :
    sortFields (sortFields fs) = sortFields fs := by
  refine List.mergeSort_of_pairwise (List.pairwise_mergeSort ?_ ?_ fs)
  · intro a b c hab hbc
    exact decide_eq_true (String.le_trans (of_decide_eq_true hab) (of_decide_eq_true hbc))
  · intro a b
    rw [← Bool.decide_or, decide_eq_true_eq]
    exact String.le_total a.1 b.1

theorem encodeFields_sortFields (fs : List (String × String)) :
    encodeFields (sortFields fs) = encodeFields fs := by
  rw [encodeFields, sortFields_sortFields, encodeFields]

theorem encodeEach_sortFields (fs : List (String × Value)) :
    encodeEach (sortFields fs) = sortFields (encodeEach fs) := by
  rw [encodeEach_eq_map, encodeEach_eq_map, sortFields_map]

mutual

/-- **What is left of a value has its text.** -/
theorem encode_written : (v : Value) → encode v.written = encode v
  | .null | .bool _ | .int _ | .float _ | .str _ | .decimal _ | .date _ | .datetime _ => rfl
  | .list xs => by rw [Value.written, encode, encode, encodeItems_written xs]
  | .tuple xs => by rw [Value.written, encode, encode, encodeItems_written xs]
  | .object fs => by
    rw [Value.written, encode, encode, encodeEach_sortFields, encodeFields_sortFields,
      encodeEach_written fs]

theorem encodeItems_written : (xs : List Value) →
    encodeItems (Value.writtenItems xs) = encodeItems xs
  | [] => rfl
  | x :: xs => by
    rw [Value.writtenItems, encodeItems, encodeItems, encode_written x, encodeItems_written xs]

theorem encodeEach_written : (fs : List (String × Value)) →
    encodeEach (Value.writtenFields fs) = encodeEach fs
  | [] => rfl
  | (k, x) :: fs => by
    rw [Value.writtenFields, encodeEach, encodeEach, encode_written x, encodeEach_written fs]

end

mutual

/-- What is left of a value is written as it is. -/
theorem isWritten_written : (v : Value) → IsWritten v.written
  | .null | .bool _ | .int _ | .float _ => .scalar rfl
  | .str _ | .decimal _ | .date _ | .datetime _ => .str _
  | .list xs => .list (isWritten_writtenItems xs)
  | .tuple xs => .list (isWritten_writtenItems xs)
  | .object fs => .object (sortFields_sortFields _) fun f hf =>
      isWritten_writtenFields fs f ((sortFields_perm _).mem_iff.1 hf)

theorem isWritten_writtenItems : (xs : List Value) →
    ∀ x ∈ Value.writtenItems xs, IsWritten x
  | [] => fun _ h => nomatch h
  | x :: xs => List.forall_mem_cons.2 ⟨isWritten_written x, isWritten_writtenItems xs⟩

theorem isWritten_writtenFields : (fs : List (String × Value)) →
    ∀ f ∈ Value.writtenFields fs, IsWritten f.2
  | [] => fun _ h => nomatch h
  | (_, x) :: fs => List.forall_mem_cons.2 ⟨isWritten_written x, isWritten_writtenFields fs⟩

end

/-- The text of a value tells what is left of it, whatever follows. -/
theorem written_of_encode_append {v w : Value} {r s : List Char} (hr : IsCut r) (hs : IsCut s)
    (h : (encode v).toList ++ r = (encode w).toList ++ s) : v.written = w.written ∧ r = s := by
  rw [← encode_written v, ← encode_written w] at h
  exact encode_append_injective (isWritten_written v) (isWritten_written w) hr hs h

/-- **Two values have one text exactly when the same is left of both.** -/
theorem encode_eq_iff {v w : Value} : encode v = encode w ↔ v.written = w.written := by
  constructor
  · intro h
    have hcut : IsCut [] := fun c hc => nomatch hc
    exact (written_of_encode_append hcut hcut (by rw [h])).1
  · intro h
    rw [← encode_written v, h, encode_written]

end Json

/-! ## 3. Mappings -/

namespace Value

variable {fs gs : List (String × Value)}

/-- What is left of a mapping, up to the order of its fields. -/
theorem writtenFields_perm (h : (Value.object fs).written = (Value.object gs).written) :
    (writtenFields fs).Perm (writtenFields gs) := by
  have hsorted : Json.sortFields (writtenFields fs) = Json.sortFields (writtenFields gs) := by
    simpa [written] using h
  exact (Json.sortFields_perm _).symm.trans (hsorted ▸ Json.sortFields_perm _)

/-- Each field has one of the same key in a mapping of which the same is left, and the same is
left of their values. -/
theorem counterpart (h : (Value.object fs).written = (Value.object gs).written)
    {f : String × Value} (hf : f ∈ fs) : ∃ g ∈ gs, g.1 = f.1 ∧ g.2.written = f.2.written := by
  have hmem : (f.1, f.2.written) ∈ writtenFields gs := by
    rw [← (writtenFields_perm h).mem_iff, writtenFields_eq_map]
    exact List.mem_map.2 ⟨f, hf, rfl⟩
  rw [writtenFields_eq_map] at hmem
  obtain ⟨g, hg, heq⟩ := List.mem_map.1 hmem
  exact ⟨g, hg, Prod.mk.inj heq⟩

theorem lookup_writtenFields (fs : List (String × Value)) (key : String) :
    (writtenFields fs).lookup key = (fs.lookup key).map written := by
  rw [writtenFields_eq_map, lookup_mapped]

theorem keys_writtenFields (fs : List (String × Value)) :
    (writtenFields fs).map Prod.fst = fs.map Prod.fst := by
  rw [writtenFields_eq_map, List.map_map]
  rfl

/-! ## 4. Equality -/

/-- The values that their texts keep: none is a decimal, a date, a tuple or not a number, and no
mapping gives a key twice. -/
inductive IsKept : Value → Prop
  | null : IsKept .null
  | bool (b : Bool) : IsKept (.bool b)
  | int (n : Int) : IsKept (.int n)
  | float {x : Float} (h : Double.isNaN x = false) : IsKept (.float x)
  | str (s : String) : IsKept (.str s)
  | list {xs : List Value} (h : ∀ x ∈ xs, IsKept x) : IsKept (.list xs)
  | object {fs : List (String × Value)} (hkeys : (fs.map Prod.fst).Nodup)
      (h : ∀ f ∈ fs, IsKept f.2) : IsKept (.object fs)

/-- A number other than not a number is equal to itself. -/
theorem same_float {x : Float} (h : Double.isNaN x = false) :
    (Value.float x).same (.float x) = true := by
  have hnumber : ∃ n, (Value.float x).toNumber? = some n := by
    unfold toNumber?
    cases hdecode : Double.decode x with
    | nan => simp [Double.isNaN, hdecode] at h
    | infinity negative => simp [hdecode]
    | finite negative m e => simp [Double.toRat?, hdecode]
  obtain ⟨n, hn⟩ := hnumber
  rw [same, hn]
  · exact beq_self_eq_true n
  all_goals simp

/-- Lists are equal whose items are, one by one. -/
theorem sameItems_of_map {xs ys : List Value} (h : xs.map written = ys.map written)
    (hsame : ∀ x ∈ xs, ∀ y ∈ ys, x.written = y.written → x.same y = true) :
    sameItems xs ys = true := by
  induction xs generalizing ys with
  | nil =>
    rw [List.map_eq_nil_iff.1 h.symm]
    rfl
  | cons x xs ih =>
    cases ys with
    | nil => cases h
    | cons y ys =>
      obtain ⟨hhead, htail⟩ := List.cons.inj h
      rw [sameItems, hsame x List.mem_cons_self y List.mem_cons_self hhead, Bool.true_and]
      exact ih htail fun z hz w hw =>
        hsame z (List.mem_cons_of_mem x hz) w (List.mem_cons_of_mem y hw)

theorem sameFields_of_lookup
    (h : ∀ f ∈ fs, ∃ y, gs.lookup f.1 = some y ∧ f.2.same y = true) :
    sameFields fs gs = true := by
  induction fs with
  | nil => rfl
  | cons f fs ih =>
    obtain ⟨⟨y, hlookup, hsame⟩, hrest⟩ := List.forall_mem_cons.1 h
    obtain ⟨k, x⟩ := f
    rw [sameFields, hlookup, ih hrest]
    exact Bool.and_eq_true_iff.2 ⟨hsame, rfl⟩

/-- Mappings of the same keys are equal when their values are. -/
theorem same_object (hfs : (fs.map Prod.fst).Nodup) (hgs : (gs.map Prod.fst).Nodup)
    (hsame : ∀ f ∈ fs, ∃ g ∈ gs, g.1 = f.1 ∧ f.2.same g.2 = true)
    (hkeys : ∀ g ∈ gs, ∃ f ∈ fs, f.1 = g.1) : (Value.object fs).same (.object gs) = true := by
  have hlength : fs.length = gs.length := by
    have hperm : (fs.map Prod.fst).Perm (gs.map Prod.fst) := by
      refine (List.perm_ext_iff_of_nodup hfs hgs).2 fun key => ⟨fun hkey => ?_, fun hkey => ?_⟩
      · obtain ⟨f, hf, rfl⟩ := List.mem_map.1 hkey
        obtain ⟨g, hg, heq, -⟩ := hsame f hf
        exact List.mem_map.2 ⟨g, hg, heq⟩
      · obtain ⟨g, hg, rfl⟩ := List.mem_map.1 hkey
        exact List.mem_map.2 (hkeys g hg)
    simpa using hperm.length_eq
  have hfields : sameFields fs gs = true := by
    refine sameFields_of_lookup fun f hf => ?_
    obtain ⟨g, hg, hkey, hvalue⟩ := hsame f hf
    exact ⟨g.2, (lookup_eq_some_iff_mem hgs).2 (hkey ▸ hg), hvalue⟩
  rw [same, hlength, hfields, beq_self_eq_true, Bool.and_self]

/-- **Values that their texts keep are equal when the same is left of them.** -/
theorem same_of_written_eq {v : Value} (hv : v.IsKept) {w : Value} (hw : w.IsKept)
    (h : v.written = w.written) : v.same w = true := by
  induction hv generalizing w with
  | null => cases hw <;> first | rfl | simp [written] at h
  | bool b =>
    cases hw with
    | bool c =>
      cases h
      cases b <;> rfl
    | _ => simp [written] at h
  | int n =>
    cases hw with
    | int m =>
      cases h
      exact beq_self_eq_true _
    | _ => simp [written] at h
  | float hx =>
    cases hw with
    | float hy =>
      cases h
      exact same_float hx
    | _ => simp [written] at h
  | str s =>
    cases hw with
    | str t =>
      cases h
      exact beq_self_eq_true s
    | _ => simp [written] at h
  | @list xs hxs ih =>
    cases hw with
    | @list ys hys =>
      rw [written, written, writtenItems_eq_map, writtenItems_eq_map] at h
      exact sameItems_of_map (Value.list.inj h) fun x hx y hy => ih x hx (hys y hy)
    | _ => simp [written] at h
  | @object fs hkeys hfs ih =>
    cases hw with
    | @object gs hkeys' hgs =>
      refine same_object hkeys hkeys' (fun f hf => ?_) fun g hg => ?_
      · obtain ⟨g, hg, hkey, hwritten⟩ := counterpart h hf
        exact ⟨g, hg, hkey, ih f hf (hgs g hg) hwritten.symm⟩
      · obtain ⟨f, hf, hkey, -⟩ := counterpart h.symm hg
        exact ⟨f, hf, hkey⟩
    | _ => simp [written] at h

end Value

end Realty
