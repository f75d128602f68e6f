/-
# Lists without repetition

`distinct xs` keeps the first occurrence of each item: it has the same members (`mem_distinct`),
no item twice (`nodup_distinct`), leaves a list without repetition alone (`distinct_of_nodup`),
may be taken before or after some items are left out (`filter_distinct`), and keeps the order of
the first occurrences (`idxOf_distinct_lt_iff`).
-/

namespace Realty

/-- A list without the later occurrences of its items. -/
def distinct {α : Type} [DecidableEq α] : List α → List α
  | [] => []
  | x :: xs => x :: (distinct xs).filter (· ≠ x)

theorem mem_distinct {α : Type} [DecidableEq α] {x : α} {xs : List α} :
    x ∈ distinct xs ↔ x ∈ xs := by
  induction xs with
  | nil => simp [distinct]
  | cons y ys ih => by_cases h : x = y <;> simp [distinct, ih, h]

theorem nodup_distinct {α : Type} [DecidableEq α] (xs : List α) : (distinct xs).Nodup := by
  induction xs with
  | nil => simp [distinct]
  | cons y ys ih =>
    exact List.nodup_cons.2 ⟨by simp, ih.sublist List.filter_sublist⟩

theorem distinct_of_nodup {α : Type} [DecidableEq α] {xs : List α} (h : xs.Nodup) :
    distinct xs = xs := by
  induction xs with
  | nil => rfl
  | cons y ys ih =>
    obtain ⟨hy, hys⟩ := List.nodup_cons.1 h
    rw [distinct, ih hys, List.filter_eq_self.2]
    intro z hz
    simpa using fun e : z = y => hy (e ▸ hz)

/-- Items may be left out before or after repetitions are. -/
theorem filter_distinct {α : Type} [DecidableEq α] (keep : α → Bool) (xs : List α) :
    (distinct xs).filter keep = distinct (xs.filter keep) := by
  induction xs with
  | nil => rfl
  | cons y ys ih =>
    have hswap : ((distinct ys).filter (· ≠ y)).filter keep =
        (distinct (ys.filter keep)).filter (· ≠ y) := by
      rw [← ih, List.filter_filter, List.filter_filter]
      exact List.filter_congr fun z _ => Bool.and_comm _ _
    rw [distinct, List.filter_cons, List.filter_cons, hswap]
    split
    · rfl
    · next hy =>
      refine List.filter_eq_self.2 fun z hz => ?_
      have hkept := (List.mem_filter.1 (mem_distinct.1 hz)).2
      simpa using fun e : z = y => hy (e ▸ hkept)

/-- Of two items that are not left out, the one that first occurs earlier still does. -/
theorem idxOf_filter_lt_iff {α : Type} [DecidableEq α] (keep : α → Bool) {x y : α}
    (hx : keep x = true) (hy : keep y = true) (xs : List α) :
    (xs.filter keep).idxOf x < (xs.filter keep).idxOf y ↔ xs.idxOf x < xs.idxOf y := by
  induction xs with
  | nil => rfl
  | cons z zs ih =>
    cases hz : keep z with
    | true =>
      rw [List.filter_cons_of_pos hz, List.idxOf_cons, List.idxOf_cons, List.idxOf_cons,
        List.idxOf_cons]
      cases z == x <;> cases z == y <;> simp [ih]
    | false =>
      have hne {w : α} (hw : keep w = true) : (z == w) = false := by
        rw [beq_eq_false_iff_ne]
        rintro rfl
        rw [hz] at hw
        cases hw
      rw [List.filter_cons_of_neg (by simp [hz]), List.idxOf_cons, List.idxOf_cons, hne hx, hne hy,
        ih]
      simp

/-- The items stand in the order in which they first occur. -/
theorem idxOf_distinct_lt_iff {α : Type} [DecidableEq α] (x y : α) (xs : List α) :
    (distinct xs).idxOf x < (distinct xs).idxOf y ↔ xs.idxOf x < xs.idxOf y := by
  induction xs with
  | nil => rfl
  | cons z zs ih =>
    rw [distinct, List.idxOf_cons, List.idxOf_cons, List.idxOf_cons, List.idxOf_cons]
    by_cases hx : z = x
    · subst hx
      cases z == y <;> simp
    · by_cases hy : z = y
      · simp [hy]
      · have hrest : ((distinct zs).filter (· ≠ z)).idxOf x <
            ((distinct zs).filter (· ≠ z)).idxOf y ↔ zs.idxOf x < zs.idxOf y := by
          rw [idxOf_filter_lt_iff (· ≠ z) (by simp [Ne.symm hx]) (by simp [Ne.symm hy]), ih]
        simp only [beq_false_of_ne hx, beq_false_of_ne hy, cond_false, Nat.add_lt_add_iff_right,
          hrest]

end Realty
