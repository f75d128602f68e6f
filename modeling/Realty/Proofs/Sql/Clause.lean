/-
# Clauses read as they are

The text of a clause, read with no regard to the clause, has the truth of the clause.

* `Clause.truth` evaluates a clause; `truth_all` and `truth_any` say that joining clauses joins
  their truths, whatever constants are dropped and whatever is merged.
* `Clause.IsFlat` is what joining keeps: no joining is empty or directly inside one of its own
  kind, and what else is written is a single operand.
* `IsFlat.reads`: a flat clause is read with its own truth.  The parentheses that are left out
  change nothing.
-/
import Realty.Proofs.Sql.Joining

namespace Realty.Sql

/-! ## 1. Clauses -/

namespace Clause

mutual

/-- The truth of a clause; `leaf` has that of what is written as it stands. -/
def truth (leaf : List Piece → Truth) : Clause → Truth
  | .constant b _ => .ofBool b
  | .leaf ps => leaf ps
  | .conj cs => .all (truths leaf cs)
  | .disj cs => .any (truths leaf cs)

/-- The truth of each clause of a list. -/
def truths (leaf : List Piece → Truth) : List Clause → List Truth
  | [] => []
  | c :: cs => c.truth leaf :: truths leaf cs

end

variable {leaf : List Piece → Truth}

theorem truths_eq_map (cs : List Clause) : truths leaf cs = cs.map (truth leaf) := by
  induction cs with
  | nil => rfl
  | cons c cs ih => rw [truths, ih, List.map_cons]

theorem truth_conj (cs : List Clause) : (conj cs).truth leaf = .all (cs.map (truth leaf)) := by
  rw [truth, truths_eq_map]

theorem truth_disj (cs : List Clause) : (disj cs).truth leaf = .any (cs.map (truth leaf)) := by
  rw [truth, truths_eq_map]

theorem truth_of_isFresh {b : Bool} {c : Clause} (h : c.isFresh b = true) :
    c.truth leaf = .ofBool b := by
  cases c with
  | constant d isFresh =>
    cases isFresh with
    | true =>
      obtain rfl : d = b := by simpa [Clause.isFresh] using h
      rw [truth]
    | false => cases h
  | _ => cases h

/-- **Dropping constants changes no truth.** -/
theorem truth_combine {unit : Bool} {join : List Clause → Clause}
    (hjoin : ∀ cs, (join cs).truth leaf = .joinAll unit (cs.map (truth leaf))) (cs : List Clause) :
    (combine unit join cs).truth leaf = .joinAll unit (cs.map (truth leaf)) := by
  have hkept : Truth.joinAll unit ((cs.filter fun c => !c.isFresh unit).map (truth leaf)) =
      .joinAll unit (cs.map (truth leaf)) :=
    Truth.joinAll_filter fun c _ hc => truth_of_isFresh (by simpa using hc)
  unfold combine
  split
  · next hnil =>
    obtain rfl : cs = [] := by simpa using hnil
    rw [truth]
    rfl
  · split
    · next hother =>
      obtain ⟨c, hc, hfresh⟩ := List.any_eq_true.1 hother
      have hmem : Truth.ofBool (!unit) ∈ cs.map (truth leaf) :=
        List.mem_map.2 ⟨c, hc, truth_of_isFresh hfresh⟩
      rw [truth, Truth.joinAll_of_mem hmem]
    · rw [← hkept]
      split
      · next hnone =>
        rw [hnone, truth]
        rfl
      · next c hone => rw [hone, List.map_singleton, Truth.joinAll_singleton]
      · exact hjoin _

theorem all_conjuncts (c : Clause) :
    Truth.joinAll true (c.conjuncts.map (truth leaf)) = c.truth leaf := by
  cases c with
  | conj cs => exact (truth_conj cs).symm
  | _ => exact Truth.joinAll_singleton true _

theorem any_disjuncts (c : Clause) :
    Truth.joinAll false (c.disjuncts.map (truth leaf)) = c.truth leaf := by
  cases c with
  | disj cs => exact (truth_disj cs).symm
  | _ => exact Truth.joinAll_singleton false _

/-- **Joining by AND joins the truths**, whatever is dropped and merged. -/
theorem truth_all (cs : List Clause) : (all cs).truth leaf = .all (cs.map (truth leaf)) := by
  refine truth_combine (fun cs => ?_) cs
  rw [truth_conj, List.map_flatMap]
  refine (Truth.joinAll_flatMap true _ cs).trans ?_
  simp only [all_conjuncts]

/-- **Joining by OR joins the truths**, whatever is dropped and merged. -/
theorem truth_any (cs : List Clause) : (any cs).truth leaf = .any (cs.map (truth leaf)) := by
  refine truth_combine (fun cs => ?_) cs
  rw [truth_disj, List.map_flatMap]
  refine (Truth.joinAll_flatMap false _ cs).trans ?_
  simp only [any_disjuncts]

/-! ## 2. Flat clauses -/

/-- Whether a clause is a joining by AND. -/
def isConjunction : Clause → Bool
  | .conj _ => true
  | _ => false

/-- No joining is empty or directly inside one of its own kind, and what else is written is a
single operand. -/
inductive IsFlat : Clause → Prop where
  | constant (b isFresh : Bool) : IsFlat (.constant b isFresh)
  | leaf {ps : List Piece} : IsOperand (symbols ps) → IsFlat (.leaf ps)
  | conj {cs : List Clause} : cs ≠ [] → (∀ c ∈ cs, IsFlat c) →
      (∀ c ∈ cs, c.isConjunction = false) → IsFlat (.conj cs)
  | disj {cs : List Clause} : cs ≠ [] → (∀ c ∈ cs, IsFlat c) →
      (∀ c ∈ cs, c.isDisjunction = false) → IsFlat (.disj cs)

/-- Dropping constants keeps clauses flat. -/
theorem isFlat_combine {unit : Bool} {join : List Clause → Clause}
    (hjoin : ∀ cs, cs ≠ [] → (∀ c ∈ cs, c.IsFlat) → (join cs).IsFlat) {cs : List Clause}
    (h : ∀ c ∈ cs, c.IsFlat) : (combine unit join cs).IsFlat := by
  have hkept : ∀ c ∈ cs.filter fun c => !c.isFresh unit, c.IsFlat :=
    fun c hc => h c (List.mem_filter.1 hc).1
  unfold combine
  split
  · exact .constant ..
  · split
    · exact .constant ..
    · split
      · exact .constant ..
      · next c hone => exact hkept c (by simp [hone])
      · next hnone _ => exact hjoin _ hnone hkept

theorem IsFlat.conjuncts {c : Clause} (h : c.IsFlat) :
    c.conjuncts ≠ [] ∧ ∀ d ∈ c.conjuncts, d.IsFlat ∧ d.isConjunction = false := by
  cases h with
  | conj hne hflat hkind => exact ⟨hne, fun d hd => ⟨hflat d hd, hkind d hd⟩⟩
  | constant b isFresh => simp [Clause.conjuncts, IsFlat.constant, isConjunction]
  | leaf hps => simp [Clause.conjuncts, IsFlat.leaf hps, isConjunction]
  | disj hne hflat hkind => simp [Clause.conjuncts, IsFlat.disj hne hflat hkind, isConjunction]

theorem IsFlat.disjuncts {c : Clause} (h : c.IsFlat) :
    c.disjuncts ≠ [] ∧ ∀ d ∈ c.disjuncts, d.IsFlat ∧ d.isDisjunction = false := by
  cases h with
  | disj hne hflat hkind => exact ⟨hne, fun d hd => ⟨hflat d hd, hkind d hd⟩⟩
  | constant b isFresh => simp [Clause.disjuncts, IsFlat.constant, isDisjunction]
  | leaf hps => simp [Clause.disjuncts, IsFlat.leaf hps, isDisjunction]
  | conj hne hflat hkind => simp [Clause.disjuncts, IsFlat.conj hne hflat hkind, isDisjunction]

/-- Merging what clauses bring gives clauses when there are some. -/
theorem flatMap_ne_nil {f : Clause → List Clause} {cs : List Clause} (hne : cs ≠ [])
    (h : ∀ c ∈ cs, f c ≠ []) : cs.flatMap f ≠ [] := by
  cases cs with
  | nil => exact absurd rfl hne
  | cons c cs => simp [h c List.mem_cons_self]

theorem isFlat_all {cs : List Clause} (h : ∀ c ∈ cs, c.IsFlat) : (all cs).IsFlat := by
  refine isFlat_combine (fun cs hne h => ?_) h
  have hparts : ∀ d ∈ cs.flatMap Clause.conjuncts, d.IsFlat ∧ d.isConjunction = false := by
    intro d hd
    obtain ⟨c, hc, hd⟩ := List.mem_flatMap.1 hd
    exact (h c hc).conjuncts.2 d hd
  exact .conj (flatMap_ne_nil hne fun c hc => (h c hc).conjuncts.1) (fun d hd => (hparts d hd).1)
    fun d hd => (hparts d hd).2

theorem isFlat_any {cs : List Clause} (h : ∀ c ∈ cs, c.IsFlat) : (any cs).IsFlat := by
  refine isFlat_combine (fun cs hne h => ?_) h
  have hparts : ∀ d ∈ cs.flatMap Clause.disjuncts, d.IsFlat ∧ d.isDisjunction = false := by
    intro d hd
    obtain ⟨c, hc, hd⟩ := List.mem_flatMap.1 hd
    exact (h c hc).disjuncts.2 d hd
  exact .disj (flatMap_ne_nil hne fun c hc => (h c hc).disjuncts.1) (fun d hd => (hparts d hd).1)
    fun d hd => (hparts d hd).2

/-! ## 3. Flat clauses are read with their own truth -/

/-- What does not stand outside the parentheses of a flat clause. -/
def absent : Clause → Token → Bool
  | .constant .. | .leaf _ => Token.isConnective
  | .conj _ => Token.isOr
  | .disj _ => fun _ => false

/-- The text of a clause inside a conjunction. -/
def operand (c : Clause) : List Piece := if c.isDisjunction then grouped c.pieces else c.pieces

theorem operands_eq_map (cs : List Clause) : operands cs = cs.map operand := by
  induction cs with
  | nil => rfl
  | cons c cs ih =>
    rw [operands, ih, List.map_cons]
    rfl

theorem alternatives_eq_map (cs : List Clause) : alternatives cs = cs.map pieces := by
  induction cs with
  | nil => rfl
  | cons c cs ih => rw [alternatives, ih, List.map_cons]

/-- The text of a clause can stand beside others and has the clause's truth. -/
structure Reads (row : List Token → Truth) (c : Clause) : Prop where
  closed : IsClosed c.absent (symbols c.pieces)
  truth : read row (tokens c.pieces) = c.truth fun ps => read row (tokens ps)

variable {row : List Token → Truth}

/-- A constant is the keyword of its truth value. -/
theorem reads_constant (b isFresh : Bool) : Reads row (.constant b isFresh) := by
  have hclosed : IsOperand (symbols (constant b isFresh).pieces) := by
    cases b <;> exact ⟨rfl, List.cons_ne_nil _ _, rfl⟩
  refine ⟨hclosed, ?_⟩
  rw [tokens, hclosed.read_eq_operandTruth, Clause.truth]
  cases b <;> rfl

/-- Inside a conjunction a clause is a single operand with its own truth. -/
theorem Reads.operand {c : Clause} (h : Reads row c) (hkind : c.isConjunction = false) :
    IsOperand (symbols c.operand) ∧
      operandTruth row (tokens c.operand) = c.truth fun ps => read row (tokens ps) := by
  have hplain (hc : c.isDisjunction = false) (habsent : c.absent = Token.isConnective) :
      IsOperand (symbols c.operand) ∧
        operandTruth row (tokens c.operand) = c.truth fun ps => read row (tokens ps) := by
    have hclosed := h.closed
    rw [habsent] at hclosed
    rw [Clause.operand, hc]
    exact ⟨hclosed, hclosed.read_eq_operandTruth.symm.trans h.truth⟩
  cases c with
  | constant b isFresh => exact hplain rfl rfl
  | leaf ps => exact hplain rfl rfl
  | conj cs => cases hkind
  | disj cs =>
    exact ⟨grouped_isOperand h.closed, (operandTruth_grouped h.closed).trans h.truth⟩

/-- Inside a disjunction a clause is a single alternative. -/
theorem Reads.alternative {c : Clause} (h : Reads row c) (hkind : c.isDisjunction = false) :
    IsClosed Token.isOr (symbols c.pieces) := by
  cases c with
  | constant b isFresh => exact IsClosed.isOr h.closed
  | leaf ps => exact IsClosed.isOr h.closed
  | conj cs => exact h.closed
  | disj cs => cases hkind

theorem reads_conj {cs : List Clause} (hne : cs ≠ []) (h : ∀ c ∈ cs, Reads row c)
    (hkind : ∀ c ∈ cs, c.isConjunction = false) : Reads row (.conj cs) := by
  have hparts : ∀ p ∈ cs.map operand, IsOperand (symbols p) := by
    intro p hp
    obtain ⟨c, hc, rfl⟩ := List.mem_map.1 hp
    exact ((h c hc).operand (hkind c hc)).1
  have hsome : cs.map operand ≠ [] := by simpa using hne
  have hpieces : (conj cs).pieces = joined .conj (cs.map operand) := by
    rw [pieces, operands_eq_map, joinPieces_eq fun p hp => (hparts p hp).nonempty]
  have hclosed : IsClosed Token.isOr (symbols (conj cs).pieces) := by
    rw [hpieces]
    exact joined_isClosed conj_separates rfl hsome fun p hp => IsClosed.isOr (hparts p hp)
  refine ⟨hclosed, ?_⟩
  rw [tokens, read_of_nested hclosed.nested, truth_conj, hpieces]
  refine (alternativeTruth_joined hsome hparts).trans ?_
  rw [List.map_map]
  congr 1
  exact List.map_congr_left fun c hc => ((h c hc).operand (hkind c hc)).2

theorem reads_disj {cs : List Clause} (hne : cs ≠ []) (h : ∀ c ∈ cs, Reads row c)
    (hkind : ∀ c ∈ cs, c.isDisjunction = false) : Reads row (.disj cs) := by
  have hparts : ∀ p ∈ cs.map pieces, IsClosed Token.isOr (symbols p) := by
    intro p hp
    obtain ⟨c, hc, rfl⟩ := List.mem_map.1 hp
    exact (h c hc).alternative (hkind c hc)
  have hsome : cs.map pieces ≠ [] := by simpa using hne
  have hpieces : (disj cs).pieces = joined .disj (cs.map pieces) := by
    rw [pieces, alternatives_eq_map, joinPieces_eq fun p hp => (hparts p hp).nonempty]
  refine ⟨?_, ?_⟩
  · rw [hpieces]
    exact joined_isClosed disj_separates rfl hsome fun p hp => (hparts p hp).mono nofun
  · rw [truth_disj, hpieces, read_joined hsome hparts, List.map_map]
    congr 1
    exact List.map_congr_left fun c hc => (h c hc).truth

/-- **A flat clause is read with its own truth.** -/
theorem IsFlat.reads {c : Clause} (h : c.IsFlat) : Reads row c := by
  induction h with
  | constant b isFresh => exact reads_constant b isFresh
  | leaf hps =>
    refine ⟨hps, ?_⟩
    rw [pieces, Clause.truth]
  | conj hne _ hkind ih => exact reads_conj hne ih hkind
  | disj hne _ hkind ih => exact reads_disj hne ih hkind

end Clause

end Realty.Sql
