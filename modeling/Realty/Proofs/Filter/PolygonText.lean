/-
# A polygon and its text

* `polygonValue_document`: the text of a list is read as the list.
* `readsAlike_polygonText`: so a polygon filter is read alike as a list and as its text.
* `compile_polygonText`: filters compile to one plan with either, or fail alike.

A text is read when there is room for its brackets.
-/
import Realty.Proofs.Filter.Replaced
import Realty.Proofs.Json.Document

namespace Realty.Filter

open Json (IsDocument document)
open Value (nesting)

variable {room : Room}

/-- The text of a list is read as the list. -/
theorem polygonValue_document {vs : List Value} (h : ∀ v ∈ vs, IsDocument v)
    (hroom : nesting (.list vs) ≤ room.brackets) :
    Area.polygonValue room (.str (document (.list vs))) = .ok (.list vs) := by
  rw [Area.polygonValue, Json.parse_document (.list h) hroom]

/-- The condition on a polygon is the same for a list and its text.  Only an empty list differs
from its text: it counts as not given. -/
theorem polygonCondition_document {vs : List Value} (hne : vs ≠ [])
    (h : ∀ v ∈ vs, IsDocument v) (hroom : nesting (.list vs) ≤ room.brackets) :
    Area.polygonCondition room (.str (document (.list vs))) =
      Area.polygonCondition room (.list vs) := by
  have htext : (Value.str (document (.list vs))).isBlank = false := by
    obtain ⟨c, t, htext, -⟩ := (IsDocument.list h).isReadBack.starts
    refine Bool.eq_false_iff.2 fun hempty => ?_
    have hnil : document (.list vs) = "" := String.isEmpty_iff.1 hempty
    rw [hnil] at htext
    cases htext
  have hlist : (Value.list vs).isBlank = false := by
    rw [Value.isBlank, List.isEmpty_eq_false_iff]
    exact hne
  have hpolygon : Area.polygon room (.str (document (.list vs))) =
      Area.polygon room (.list vs) := by
    rw [Area.polygon, polygonValue_document h hroom]
    rfl
  rw [Area.polygonCondition, Area.polygonCondition, htext, hlist, hpolygon]

/-- Nothing but the polygon reads a polygon filter. -/
theorem readsAlike_polygonText {vs : List Value} (hne : vs ≠ [])
    (h : ∀ v ∈ vs, IsDocument v) (hroom : nesting (.list vs) ≤ room.brackets) :
    ReadsAlike room [("polygon", .str (document (.list vs)))] [("polygon", .list vs)] := by
  have hfacets : ∀ f ∈ lookupFacets ++ facets, "polygon" ≠ f.key := by decide
  exact readsAlike_single (fun f hf hk => absurd hk (hfacets f hf))
    (fun f hf hk => absurd hk (hfacets f (List.mem_append_right lookupFacets hf)))
    (fun hk => absurd hk (by decide)) (fun hk => absurd hk (by decide))
    (fun hk => absurd hk (by decide)) (fun _ => polygonCondition_document hne h hroom)

/-- **A polygon and its text are one filter.**  Whatever the other filters are and whatever stands
in a list, vertices or anything else that a document can hold, nested as deeply as there is room
for, the plan is the same with the list as it is and with its document, or the filters fail
alike. -/
theorem compile_polygonText {vs : List Value} (hne : vs ≠ []) (h : ∀ v ∈ vs, IsDocument v)
    (hroom : nesting (.list vs) ≤ room.brackets) (before after : Filters) :
    compile room (before ++ ("polygon", .str (document (.list vs))) :: after) =
      compile room (before ++ ("polygon", .list vs) :: after) :=
  compile_replaced (readsAlike_polygonText hne h hroom) (by decide) before after

/-- A triangle, and a mapping that is no vertex. -/
def taggedTriangle : List Value :=
  [.list [.int 0, .int 0], .list [.int 0, .int 4], .list [.int 4, .int (-4)],
    .object [("b", .null), ("a", .str "\"")]]

theorem compile_polygonText_taggedTriangle :
    compile .standard [("city", .str "Boston"),
        ("polygon", .str "[[0, 0], [0, 4], [4, -4], \x7b\"b\": null, \"a\": \"\\\"\"\x7d]")] =
      compile .standard [("city", .str "Boston"), ("polygon", .list taggedTriangle)] := by
  have hne : taggedTriangle ≠ [] := List.cons_ne_nil _ _
  have hint {n : Int} (hn : n.natAbs < 10) : IsDocument (.int n) :=
    .int (hn.trans_le (Nat.le_self_pow (by decide) 10))
  have hvertex {m n : Int} (hm : m.natAbs < 10) (hn : n.natAbs < 10) :
      IsDocument (.list [.int m, .int n]) :=
    .list (List.forall_mem_cons.2 ⟨hint hm, List.forall_mem_singleton.2 (hint hn)⟩)
  have hmapping : IsDocument (.object [("b", .null), ("a", .str "\"")]) :=
    .object (by decide)
      (List.forall_mem_cons.2 ⟨.null, List.forall_mem_singleton.2 (.str "\"")⟩)
  have hdocument : ∀ v ∈ taggedTriangle, IsDocument v := by
    simp only [taggedTriangle, List.forall_mem_cons]
    exact ⟨hvertex (by decide) (by decide), hvertex (by decide) (by decide),
      hvertex (by decide) (by decide), hmapping, nofun⟩
  have htext : document (.list taggedTriangle) =
      "[[0, 0], [0, 4], [4, -4], \x7b\"b\": null, \"a\": \"\\\"\"\x7d]" := by decide +kernel
  have hroom : nesting (.list taggedTriangle) ≤ Room.standard.brackets := by decide
  have hsame := compile_polygonText hne hdocument hroom [("city", .str "Boston")] []
  rw [htext] at hsame
  exact hsame

end Realty.Filter
