/-
# Names of parameters

A bound value is named after a label and numbered; a value that the caller names keeps its name.

* `numberedName_injective`: a numbered name tells its label and its number.
* `IsNumbered` says of a rendering that the numbers of a label have been given out in turn and that
  all other names are no numbered ones.  `step_isOk` keeps it, piece by piece.
* `ofPieces_isOk`: so a statement is written whenever none of its own names is a numbered one.
* `values_pieces`: the text of a clause holds the values of its leaves in their order, and joining
  clauses brings in no others (`slots_all_subset`, `slots_any_subset`).
-/
import Realty.Proofs.Sql.Clause
import Realty.Proofs.Sql.Written
import Realty.Proofs.Text.Digits

namespace Realty.Sql

/-! ## 1. Names -/

/-- The name of the parameter of a label with a number. -/
def numberedName (label : String) (k : Nat) : String := label ++ "_" ++ Text.intText k

/-- The characters of a numbered name. -/
theorem toList_numberedName (label : String) (k : Nat) :
    (numberedName label k).toList = label.toList ++ '_' :: Text.natDigits k := by
  simp [numberedName, Text.intText, Text.intDigits]

/-- What stands before the last mark of a text tells the text. -/
theorem append_mark_inj {c : Char} {as bs cs ds : List Char} (hcs : c ∉ cs) (hds : c ∉ ds)
    (h : as ++ c :: cs = bs ++ c :: ds) : as = bs ∧ cs = ds := by
  rcases List.append_eq_append_iff.1 h with ⟨es, rfl, hes⟩ | ⟨es, rfl, hes⟩
  · cases es with
    | nil => exact ⟨(List.append_nil as).symm, (List.cons.inj hes).2⟩
    | cons e es =>
      obtain ⟨-, rfl⟩ := List.cons.inj hes
      exact absurd (List.mem_append_right es List.mem_cons_self) hcs
  · cases es with
    | nil => exact ⟨List.append_nil bs, (List.cons.inj hes).2.symm⟩
    | cons e es =>
      obtain ⟨-, rfl⟩ := List.cons.inj hes
      exact absurd (List.mem_append_right es List.mem_cons_self) hds

/-- **A numbered name tells its label and its number**: no number holds an underscore. -/
theorem numberedName_injective {label label' : String} {k k' : Nat}
    (h : numberedName label k = numberedName label' k') : label = label' ∧ k = k' := by
  have hmark (n : Nat) : '_' ∉ Text.natDigits n := fun hmem =>
    (Text.areDigits_natDigits n).ne hmem rfl rfl
  have hlist := congrArg String.toList h
  rw [toList_numberedName, toList_numberedName] at hlist
  obtain ⟨hlabel, hdigits⟩ := append_mark_inj (hmark k) (hmark k') hlist
  exact ⟨String.toList_inj.1 hlabel, Text.natDigits_injective hdigits⟩

/-- Whether a name is that of no numbered parameter. -/
def IsOwnName (name : String) : Prop := ∀ label k, name ≠ numberedName label k

/-- A name that ends in something other than a digit is no numbered one. -/
theorem isOwnName_of_getLast? {name : String} {c : Char} (h : name.toList.getLast? = some c)
    (hc : c.isDigit = false) : IsOwnName name := by
  rintro label k rfl
  have hlast : c ∈ Text.natDigits k := by
    cases hdigits : Text.natDigits k with
    | nil => exact absurd hdigits (Text.natDigits_ne_nil k)
    | cons d ds =>
      rw [toList_numberedName, hdigits, List.getLast?_append, List.getLast?_cons_cons] at h
      rw [List.getLast?_eq_some_getLast (List.cons_ne_nil d ds), Option.some_or] at h
      rw [← Option.some.inj h]
      exact List.getLast_mem _
  exact (Text.areDigits_natDigits k).ne hlast hc rfl

namespace Rendering

/-! ## 2. Writing succeeds -/

/-- The numbered parameters have numbers up to the count of their label, and every other parameter
has a name of its own. -/
structure IsNumbered (r : Rendering) : Prop where
  numbered : ∀ name ∈ r.numbered, ∃ label k, name = numberedName label k ∧ k ≤ r.labels.count label
  params : ∀ q ∈ r.params, q.1 ∈ r.numbered ∨ IsOwnName q.1

variable {r : Rendering}

/-- The next number of a label is not taken. -/
theorem IsNumbered.nextName_ne (h : r.IsNumbered) (label : String) :
    ∀ q ∈ r.params, q.1 ≠ r.nextName label := by
  intro q hq hname
  rcases h.params q hq with hmem | hown
  · obtain ⟨label', k, hname', hk⟩ := h.numbered _ hmem
    obtain ⟨rfl, rfl⟩ := numberedName_injective (hname'.symm.trans hname)
    omega
  · exact hown _ _ hname

theorem bindNumbered_isOk (h : r.IsNumbered) (label : String) (v : Value)
    (text : String → String) : ∃ r', r.bindNumbered label v text = .ok r' ∧ r'.IsNumbered := by
  have hfree : (r.params.any fun q => q.1 == r.nextName label) = false := by
    refine List.any_eq_false.2 fun q hq => ?_
    simpa using h.nextName_ne label q hq
  refine ⟨_, if_neg (Bool.not_eq_true _ ▸ hfree), ?_, ?_⟩
  · intro name hname
    rcases List.mem_cons.1 hname with rfl | hname
    · exact ⟨label, _, rfl, by simp⟩
    · obtain ⟨label', k, rfl, hk⟩ := h.numbered name hname
      exact ⟨label', k, rfl, Nat.le_trans hk List.count_le_count_cons⟩
  · intro q hq
    rcases List.mem_append.1 hq with hq | hq
    · exact (h.params q hq).imp_left (List.mem_cons_of_mem _)
    · rw [List.mem_singleton.1 hq]
      exact Or.inl List.mem_cons_self

theorem mem_setParam {name : String} {v : Value} {ps : List (String × Value)} {q : String × Value}
    (h : q ∈ setParam name v ps) : q.1 = name ∨ q ∈ ps := by
  induction ps with
  | nil => exact Or.inl (congrArg Prod.fst (List.mem_singleton.1 h))
  | cons p ps ih =>
    rw [setParam] at h
    split at h
    · next hname =>
      rcases List.mem_cons.1 h with rfl | h
      · exact Or.inl hname
      · exact Or.inr (List.mem_cons_of_mem _ h)
    · rcases List.mem_cons.1 h with rfl | h
      · exact Or.inr List.mem_cons_self
      · exact (ih h).imp_right (List.mem_cons_of_mem _)

theorem bindNamed_isOk (h : r.IsNumbered) {name : String} (hname : IsOwnName name) (v : Value) :
    ∃ r', r.bindNamed name v = .ok r' ∧ r'.IsNumbered := by
  have hfree : r.numbered.contains name = false := by
    refine Bool.eq_false_iff.2 fun hmem => ?_
    obtain ⟨label, k, hnumbered, -⟩ := h.numbered name (by simpa using hmem)
    exact hname label k hnumbered
  refine ⟨_, if_neg (Bool.not_eq_true _ ▸ hfree), h.numbered, fun q hq => ?_⟩
  rcases mem_setParam hq with hq | hq
  · exact Or.inr (hq ▸ hname)
  · exact h.params q hq

/-- **One more piece can be written**, unless it is named like a numbered one. -/
theorem step_isOk (h : r.IsNumbered) {p : Piece}
    (hp : ∀ name v, p = .named name v → IsOwnName name) :
    ∃ r', r.step p = .ok r' ∧ r'.IsNumbered := by
  cases p with
  | bind b => exact bindNumbered_isOk h b.label b.value fun name => placeholder name b.type
  | list b vs => exact bindNumbered_isOk h b.label b.value (listPlaceholder b.type)
  | named name v => exact bindNamed_isOk h (hp name v rfl) v
  | _ => exact ⟨_, rfl, h.numbered, h.params⟩

theorem run_isOk {ps : List Piece} (h : r.IsNumbered)
    (hps : ∀ name v, Piece.named name v ∈ ps → IsOwnName name) : ∃ r', r.run ps = .ok r' := by
  induction ps generalizing r with
  | nil => exact ⟨r, rfl⟩
  | cons p ps ih =>
    obtain ⟨r₁, hstep, hr₁⟩ := step_isOk h fun name v hp => hps name v (hp ▸ List.mem_cons_self)
    obtain ⟨r₂, hrun⟩ := ih hr₁ fun name v hmem => hps name v (List.mem_cons_of_mem p hmem)
    exact ⟨r₂, bind_eq_ok_iff.2 ⟨r₁, hstep, hrun⟩⟩

/-- **Pieces are written** when none of the caller's names is a numbered one. -/
theorem ofPieces_isOk {ps : List Piece}
    (h : ∀ name v, Piece.named name v ∈ ps → IsOwnName name) : ∃ r, ofPieces ps = .ok r :=
  run_isOk ⟨nofun, nofun⟩ h

end Rendering

/-! ## 3. The values of a clause -/

/-- Whether a piece is the place of a value. -/
def Piece.isValue : Piece → Bool
  | .bind _ | .list .. | .named .. => true
  | _ => false

/-- The places of values among pieces. -/
def values (ps : List Piece) : List Piece := ps.filter Piece.isValue

@[simp] theorem values_append (ps qs : List Piece) :
    values (ps ++ qs) = values ps ++ values qs := List.filter_append ..

theorem mem_values_named {name : String} {v : Value} {ps : List Piece} :
    .named name v ∈ values ps ↔ .named name v ∈ ps := by
  simp [values, Piece.isValue]

/-- Pieces without text hold no values. -/
theorem values_of_isEmpty {ps : List Piece} (h : ps.all Piece.isEmpty = true) : values ps = [] := by
  refine List.filter_eq_nil_iff.2 fun p hp => ?_
  have hempty := List.all_eq_true.1 h p hp
  cases p with
  | text s => exact Bool.false_ne_true
  | _ => cases hempty

theorem values_intersperse {sep : Piece} (hsep : sep.isValue = false) (parts : List (List Piece)) :
    values (parts.intersperse [sep]).flatten = parts.flatMap values := by
  induction parts with
  | nil => rfl
  | cons p parts ih =>
    cases parts with
    | nil => simp [values]
    | cons q parts =>
      rw [List.intersperse_cons_cons, List.flatten_cons, List.flatten_cons, values_append,
        values_append, ih, List.flatMap_cons]
      simp [values, hsep]

/-- **A joining holds the values of its parts**, in their order. -/
theorem values_joinPieces {sep : Piece} (hsep : sep.isValue = false) (parts : List (List Piece)) :
    values (Clause.joinPieces sep parts) = parts.flatMap values := by
  rw [Clause.joinPieces, values_intersperse hsep]
  induction parts with
  | nil => rfl
  | cons p parts ih =>
    rw [List.filter_cons, List.flatMap_cons, ← ih]
    split
    · rfl
    · next hempty =>
      rw [values_of_isEmpty (by simpa using hempty), List.nil_append]

namespace Clause

mutual

/-- The places of the values in a clause, in the order of its text. -/
def slots : Clause → List Piece
  | .constant .. => []
  | .leaf ps => values ps
  | .conj cs => slotsOfAll cs
  | .disj cs => slotsOfAll cs

/-- The places of the values in each clause of a list. -/
def slotsOfAll : List Clause → List Piece
  | [] => []
  | c :: cs => c.slots ++ slotsOfAll cs

end

theorem slotsOfAll_eq_flatMap (cs : List Clause) : slotsOfAll cs = cs.flatMap slots := by
  induction cs with
  | nil => rfl
  | cons c cs ih => rw [slotsOfAll, ih, List.flatMap_cons]

theorem values_operand (c : Clause) : values c.operand = values c.pieces := by
  unfold operand
  split
  · simp [values, grouped, Piece.isValue]
  · rfl

mutual

/-- **The text of a clause holds the values of its leaves**, in their order. -/
theorem values_pieces : ∀ c : Clause, values c.pieces = c.slots
  | .constant .. => rfl
  | .leaf _ => rfl
  | .conj cs => by
    rw [pieces, values_joinPieces rfl, operands_eq_map, List.flatMap_map]
    simp only [values_operand]
    rw [slots, values_flatMap_pieces cs]
  | .disj cs => by
    rw [pieces, values_joinPieces rfl, alternatives_eq_map, List.flatMap_map, slots,
      values_flatMap_pieces cs]

theorem values_flatMap_pieces : ∀ cs : List Clause,
    (cs.flatMap fun c => values c.pieces) = slotsOfAll cs
  | [] => rfl
  | c :: cs => by
    rw [List.flatMap_cons, values_pieces c, values_flatMap_pieces cs, slotsOfAll]

end

/-- Merging joinings changes no values. -/
theorem slotsOfAll_flatMap {parts : Clause → List Clause}
    (hparts : ∀ c, slotsOfAll (parts c) = c.slots) (cs : List Clause) :
    slotsOfAll (cs.flatMap parts) = slotsOfAll cs := by
  rw [slotsOfAll_eq_flatMap, List.flatMap_assoc]
  simp only [← slotsOfAll_eq_flatMap, hparts]

theorem slotsOfAll_conjuncts (c : Clause) : slotsOfAll c.conjuncts = c.slots := by
  cases c with
  | conj cs => rfl
  | _ => exact List.append_nil _

theorem slotsOfAll_disjuncts (c : Clause) : slotsOfAll c.disjuncts = c.slots := by
  cases c with
  | disj cs => rfl
  | _ => exact List.append_nil _

/-- What is left out of a joining takes its values with it, and none is new. -/
theorem slots_combine_subset {unit : Bool} {join : List Clause → Clause}
    (hjoin : ∀ cs, (join cs).slots = slotsOfAll cs) (cs : List Clause) :
    (combine unit join cs).slots ⊆ slotsOfAll cs := by
  have hkept : slotsOfAll (cs.filter fun c => !c.isFresh unit) ⊆ slotsOfAll cs := by
    rw [slotsOfAll_eq_flatMap, slotsOfAll_eq_flatMap]
    intro p hp
    obtain ⟨c, hc, hp⟩ := List.mem_flatMap.1 hp
    exact List.mem_flatMap.2 ⟨c, List.filter_sublist.subset hc, hp⟩
  unfold combine
  split
  · exact List.nil_subset _
  · split
    · exact List.nil_subset _
    · split
      · exact List.nil_subset _
      · next c hone =>
        rwa [hone, slotsOfAll, slotsOfAll, List.append_nil] at hkept
      · rw [hjoin]
        exact hkept

theorem slots_all_subset (cs : List Clause) : (all cs).slots ⊆ slotsOfAll cs :=
  slots_combine_subset (fun cs => by rw [slots, slotsOfAll_flatMap slotsOfAll_conjuncts]) cs

theorem slots_any_subset (cs : List Clause) : (any cs).slots ⊆ slotsOfAll cs :=
  slots_combine_subset (fun cs => by rw [slots, slotsOfAll_flatMap slotsOfAll_disjuncts]) cs

end Clause

end Realty.Sql
