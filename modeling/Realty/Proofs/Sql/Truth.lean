/-
# Three-valued truth

A condition on a row is true, false, or null when a value it needs is missing.

* `Truth.and` and `Truth.or` are the tables of the query language.
* `Truth.joinAll` joins a list by one of them: it does not matter how the list is bracketed
  (`joinAll_flatMap`), the unit may be dropped (`joinAll_filter`), and the other constant decides
  the whole (`joinAll_of_mem`).
* `Truth.all_eq_yes_iff` and `Truth.any_eq_yes_iff` say when the joined list is true.
-/

namespace Realty.Sql

/-- The truth of a condition on a row. -/
inductive Truth where
  | yes
  | no
  | null
deriving DecidableEq, Repr

namespace Truth

/-- A constant. -/
def ofBool (b : Bool) : Truth := bif b then .yes else .no

/-- The table of AND. -/
def and : Truth → Truth → Truth
  | .no, _ => .no
  | _, .no => .no
  | .yes, .yes => .yes
  | _, _ => .null

/-- The table of OR. -/
def or : Truth → Truth → Truth
  | .yes, _ => .yes
  | _, .yes => .yes
  | .no, .no => .no
  | _, _ => .null

/-- AND when its unit is true, OR when its unit is false. -/
def join (unit : Bool) : Truth → Truth → Truth := bif unit then and else or

/-- All of a list joined; an empty list is the unit. -/
def joinAll (unit : Bool) (ts : List Truth) : Truth := ts.foldr (join unit) (ofBool unit)

/-- Every one holds. -/
def all (ts : List Truth) : Truth := joinAll true ts

/-- Some one holds. -/
def any (ts : List Truth) : Truth := joinAll false ts

/-! ## Laws -/

theorem join_assoc (unit : Bool) (a b c : Truth) :
    join unit (join unit a b) c = join unit a (join unit b c) := by
  cases unit <;> cases a <;> cases b <;> cases c <;> rfl

@[simp] theorem unit_join (unit : Bool) (a : Truth) : join unit (ofBool unit) a = a := by
  cases unit <;> cases a <;> rfl

@[simp] theorem join_unit (unit : Bool) (a : Truth) : join unit a (ofBool unit) = a := by
  cases unit <;> cases a <;> rfl

@[simp] theorem other_join (unit : Bool) (a : Truth) :
    join unit (ofBool !unit) a = ofBool !unit := by
  cases unit <;> cases a <;> rfl

@[simp] theorem join_other (unit : Bool) (a : Truth) :
    join unit a (ofBool !unit) = ofBool !unit := by
  cases unit <;> cases a <;> rfl

@[simp] theorem joinAll_nil (unit : Bool) : joinAll unit [] = ofBool unit := rfl

@[simp] theorem joinAll_cons (unit : Bool) (t : Truth) (ts : List Truth) :
    joinAll unit (t :: ts) = join unit t (joinAll unit ts) := rfl

theorem joinAll_singleton (unit : Bool) (t : Truth) : joinAll unit [t] = t := by simp

theorem joinAll_append (unit : Bool) (ts us : List Truth) :
    joinAll unit (ts ++ us) = join unit (joinAll unit ts) (joinAll unit us) := by
  induction ts with
  | nil => simp
  | cons t ts ih => rw [List.cons_append, joinAll_cons, joinAll_cons, ih, join_assoc]

/-- **How a list is bracketed does not matter.** -/
theorem joinAll_flatMap {α : Type} (unit : Bool) (f : α → List Truth) (xs : List α) :
    joinAll unit (xs.flatMap f) = joinAll unit (xs.map fun x => joinAll unit (f x)) := by
  induction xs with
  | nil => rfl
  | cons x xs ih => rw [List.flatMap_cons, joinAll_append, ih, List.map_cons, joinAll_cons]

/-- **The constant that is not the unit decides.** -/
theorem joinAll_of_mem {unit : Bool} {ts : List Truth} (h : ofBool (!unit) ∈ ts) :
    joinAll unit ts = ofBool !unit := by
  induction ts with
  | nil => simp at h
  | cons t ts ih =>
    rcases List.mem_cons.1 h with rfl | h
    · simp
    · rw [joinAll_cons, ih h, join_other]

/-- **The unit may be dropped.** -/
theorem joinAll_filter {α : Type} {unit : Bool} {f : α → Truth} {keep : α → Bool} {xs : List α}
    (h : ∀ x ∈ xs, keep x = false → f x = ofBool unit) :
    joinAll unit ((xs.filter keep).map f) = joinAll unit (xs.map f) := by
  induction xs with
  | nil => rfl
  | cons x xs ih =>
    have hxs := ih fun y hy => h y (List.mem_cons_of_mem x hy)
    cases hk : keep x with
    | true => rw [List.filter_cons_of_pos hk, List.map_cons, List.map_cons, joinAll_cons, hxs,
        joinAll_cons]
    | false =>
      have hx : f x = ofBool unit := h x List.mem_cons_self hk
      rw [List.filter_cons_of_neg (by simp [hk]), List.map_cons, joinAll_cons, hx, unit_join, hxs]

theorem ofBool_eq_yes_iff {b : Bool} : ofBool b = .yes ↔ b = true := by
  cases b <;> decide

theorem and_eq_yes_iff {a b : Truth} : and a b = .yes ↔ a = .yes ∧ b = .yes := by
  cases a <;> cases b <;> decide

theorem or_eq_yes_iff {a b : Truth} : or a b = .yes ↔ a = .yes ∨ b = .yes := by
  cases a <;> cases b <;> decide

/-- A conjunction is true when all of it is. -/
theorem all_eq_yes_iff {ts : List Truth} : all ts = .yes ↔ ∀ t ∈ ts, t = .yes := by
  induction ts with
  | nil => exact iff_of_true rfl nofun
  | cons t ts ih =>
    rw [List.forall_mem_cons, ← ih, ← and_eq_yes_iff]
    rfl

/-- A choice is true when some of it is. -/
theorem any_eq_yes_iff {ts : List Truth} : any ts = .yes ↔ ∃ t ∈ ts, t = .yes := by
  induction ts with
  | nil => exact iff_of_false nofun nofun
  | cons t ts ih =>
    simp only [List.mem_cons, exists_eq_or_imp, ← ih, ← or_eq_yes_iff]
    rfl

end Truth

end Realty.Sql
