/-
# Nesting

Lists and mappings may stand inside one another as deeply as a request likes, but what walks through
them takes a nested call for every level, and the calls of a program have limited room.  How much of
it is left depends on the calls that are open already, so it is a parameter of whatever may run out.

* `Value.depth` is the number of levels of values below a value: the text of a value needs so many
  nested calls and one more.
* `Value.nesting` is the number of brackets that are open at once in the JSON text of a value.
* `Room` is the room that is left: for the brackets of a JSON text, read or written, and for the
  text of a value.
-/
import Realty.Value.Basic

namespace Realty

namespace Value

mutual

/-- How many levels of values lie below a value. -/
def depth : Value → Nat
  | .list xs => depthItems xs
  | .tuple xs => depthItems xs
  | .object fs => depthFields fs
  | _ => 0

/-- How many levels some items add below the value that holds them. -/
def depthItems : List Value → Nat
  | [] => 0
  | x :: xs => max (x.depth + 1) (depthItems xs)

/-- How many levels some fields add below the value that holds them. -/
def depthFields : List (String × Value) → Nat
  | [] => 0
  | (_, x) :: fs => max (x.depth + 1) (depthFields fs)

end

theorem depthFields_le_iff {fs : List (String × Value)} {n : Nat} :
    depthFields fs ≤ n ↔ ∀ f ∈ fs, f.2.depth + 1 ≤ n := by
  induction fs with
  | nil => simp [depthFields]
  | cons f fs ih => rw [depthFields, Nat.max_le, ih, List.forall_mem_cons]

/-- The order of the fields does not matter. -/
theorem depthFields_perm {fs gs : List (String × Value)} (h : fs.Perm gs) :
    depthFields fs = depthFields gs :=
  Nat.le_antisymm
    (depthFields_le_iff.2 fun f hf => depthFields_le_iff.1 (Nat.le_refl _) f (h.mem_iff.1 hf))
    (depthFields_le_iff.2 fun f hf => depthFields_le_iff.1 (Nat.le_refl _) f (h.mem_iff.2 hf))

/-! ## Brackets -/

mutual

/-- The most brackets that are open at once in the JSON text of a value.  What has no JSON text of
its own is written as its text, by one more nested call. -/
def nesting : Value → Nat
  | .list xs => nestingItems xs + 1
  | .tuple xs => nestingItems xs + 1
  | .object fs => nestingFields fs + 1
  | .decimal _ => 1
  | .date _ => 1
  | .datetime _ => 1
  | _ => 0

/-- The most brackets that are open at once in the JSON text of some items. -/
def nestingItems : List Value → Nat
  | [] => 0
  | x :: xs => max (nesting x) (nestingItems xs)

/-- The most brackets that are open at once in the JSON text of some fields. -/
def nestingFields : List (String × Value) → Nat
  | [] => 0
  | (_, x) :: fs => max (nesting x) (nestingFields fs)

end

theorem nestingItems_le_iff {xs : List Value} {n : Nat} :
    nestingItems xs ≤ n ↔ ∀ x ∈ xs, nesting x ≤ n := by
  induction xs with
  | nil => simp [nestingItems]
  | cons x xs ih => rw [nestingItems, Nat.max_le, ih, List.forall_mem_cons]

theorem nestingFields_le_iff {fs : List (String × Value)} {n : Nat} :
    nestingFields fs ≤ n ↔ ∀ f ∈ fs, nesting f.2 ≤ n := by
  induction fs with
  | nil => simp [nestingFields]
  | cons f fs ih => rw [nestingFields, Nat.max_le, ih, List.forall_mem_cons]

end Value

/-- The room that is left for nested calls in a search. -/
structure Room where
  /-- How many brackets of a polygon's text may be open at once. -/
  brackets : Nat
  /-- How many levels may lie below a value whose text is taken for a filter, by the filter's key:
  the filters are not all read at the same depth. -/
  text : String → Nat
  /-- How many brackets of the filters in the key of a page may be open at once. -/
  key : Nat

namespace Room

/-- What a short chain of calls leaves of a limit of a thousand. -/
def standard : Room where
  brackets := 980
  text _ := 980
  key := 980

/-- Whether there is room for the texts of some values of a filter. -/
def holds (room : Room) (key : String) (vs : List Value) : Bool :=
  vs.all fun v => decide (v.depth ≤ room.text key)

theorem holds_iff {room : Room} {key : String} {vs : List Value} :
    room.holds key vs = true ↔ ∀ v ∈ vs, v.depth ≤ room.text key := by
  simp [holds]

/-- Only the depths of the values matter. -/
theorem holds_congr {room : Room} {key : String} {vs ws : List Value}
    (h : vs.map Value.depth = ws.map Value.depth) : room.holds key vs = room.holds key ws := by
  have hdepths : ∀ us : List Value,
      room.holds key us = (us.map Value.depth).all fun n => decide (n ≤ room.text key) := by
    intro us
    rw [List.all_map]
    rfl
  rw [hdepths, h, ← hdepths]

/-- Whether there is room to write some filters as the key of a page. -/
def holdsKey (room : Room) (raw : List (String × Value)) : Bool :=
  decide ((Value.object raw).nesting ≤ room.key)

/-- There is always room for values that hold no others. -/
theorem holds_flat {room : Room} {key : String} {vs : List Value} (h : ∀ v ∈ vs, v.depth = 0) :
    room.holds key vs = true :=
  holds_iff.2 fun v hv => h v hv ▸ Nat.zero_le _

end Room

end Realty
