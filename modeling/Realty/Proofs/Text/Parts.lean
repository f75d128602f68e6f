/-
# Parts of a joined text

Parts in which the separator does not occur are read back from the text that joins them.

* `splitOn_append`: a part ends where the separator first occurs.
* `splitOn_joined`: so all parts are read back, and `parts_joined` when there are any.
-/
import Realty.Text.Split

namespace Realty.Text

variable {c : Char}

/-- A text without the separator is one part. -/
theorem splitOn_of_not_mem {p : List Char} (h : c ∉ p) : splitOn c p = [p] := by
  induction p with
  | nil => rfl
  | cons d p ih =>
    rw [splitOn, if_neg (List.ne_of_not_mem_cons h).symm, ih (List.not_mem_of_not_mem_cons h)]

/-- **A part ends where the separator first occurs.** -/
theorem splitOn_append {p : List Char} (h : c ∉ p) (r : List Char) :
    splitOn c (p ++ c :: r) = p :: splitOn c r := by
  induction p with
  | nil => rw [List.nil_append, splitOn, if_pos rfl]
  | cons d p ih =>
    rw [List.cons_append, splitOn, if_neg (List.ne_of_not_mem_cons h).symm,
      ih (List.not_mem_of_not_mem_cons h)]

/-- What stands before the first part without a separator belongs to that part. -/
theorem splitOn_before {r s p : List Char} {ps : List (List Char)} (hr : c ∉ r)
    (hs : splitOn c s = p :: ps) : splitOn c (r ++ s) = (r ++ p) :: ps := by
  induction r with
  | nil => exact hs
  | cons d r ih =>
    rw [List.cons_append, splitOn, if_neg (List.ne_of_not_mem_cons hr).symm,
      ih (List.not_mem_of_not_mem_cons hr)]
    rfl

/-- **Parts without the separator are read back from the text that joins them**, with what follows
the separator before all but the first. -/
theorem splitOn_joined {sep : String} {r : List Char} (hsep : sep.toList = c :: r) (hr : c ∉ r)
    (p : String) (ps : List String) (h : ∀ q ∈ p :: ps, c ∉ q.toList) :
    splitOn c (joined sep (p :: ps)).toList = p.toList :: ps.map fun q => r ++ q.toList := by
  induction ps generalizing p with
  | nil =>
    rw [joined, String.intercalate_singleton, splitOn_of_not_mem (h p List.mem_cons_self),
      List.map_nil]
  | cons q ps ih =>
    obtain ⟨hp, hps⟩ := List.forall_mem_cons.1 h
    have hrest := splitOn_before hr (ih q hps)
    rw [joined, String.intercalate_cons_cons, String.toList_append, String.toList_append, hsep,
      List.append_assoc, List.cons_append, splitOn_append hp]
    exact congrArg (p.toList :: ·) hrest

/-- Parts are read back as they are when the separator is one character. -/
theorem parts_joined {sep : String} (hsep : sep.toList = [c]) {ps : List String} (hne : ps ≠ [])
    (h : ∀ p ∈ ps, c ∉ p.toList) : parts c (joined sep ps) = ps := by
  obtain ⟨p, ps, rfl⟩ := List.exists_cons_of_ne_nil hne
  rw [parts, splitOn_joined hsep List.not_mem_nil p ps h, List.map_cons, List.map_map,
    String.ofList_toList]
  exact congrArg (p :: ·) (List.map_id'' (fun q => String.ofList_toList) ps)

end Realty.Text
