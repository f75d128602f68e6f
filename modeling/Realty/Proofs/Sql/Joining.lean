/-
# Texts with a connective between them

* `split_joined`: what is written with a connective between its parts is cut into these parts
  again, when none of them is cut itself.
* `alternativeTruth_joined` and `read_joined` evaluate what is joined by AND and by OR.
* `operandTruth_grouped`: parentheses change nothing by themselves, and `grouped_isOperand`: they
  make a single operand of any text that leaves nothing open.
-/
import Realty.Proofs.Sql.Reading

namespace Realty.Sql

/-! ## 1. Joining -/

/-- Pieces written one after the other with a separator. -/
def joined (sep : Piece) (parts : List (List Piece)) : List Piece :=
  (parts.intersperse [sep]).flatten

/-- The text of some pieces as tokens. -/
def tokens (ps : List Piece) : List Token := lex (symbols ps)

/-- The separator is read as this token, and stands between gaps. -/
structure Separates (sep : Piece) (t : Token) : Prop where
  gap : ∃ s, sep.symbols = .char ' ' :: s
  idle : after .idle sep.symbols = .idle
  token : lex sep.symbols = [t]
  outside : Level.outside.next? t = some .outside

theorem conj_separates : Separates .conj (.word ['A', 'N', 'D']) :=
  ⟨⟨_, rfl⟩, rfl, rfl, rfl⟩

theorem disj_separates : Separates .disj (.word ['O', 'R']) :=
  ⟨⟨_, rfl⟩, rfl, rfl, rfl⟩

/-- No part is left out of a joining for want of text. -/
theorem joinPieces_eq {sep : Piece} {parts : List (List Piece)} (h : ∀ p ∈ parts, tokens p ≠ []) :
    Clause.joinPieces sep parts = joined sep parts := by
  have hkept : (parts.filter fun ps => !ps.all Piece.isEmpty) = parts := by
    refine List.filter_eq_self.2 fun p hp => ?_
    cases hempty : p.all Piece.isEmpty with
    | false => rfl
    | true =>
      have hblank : symbols p = [] := by
        refine List.flatMap_eq_nil_iff.2 fun x hx => ?_
        have hx := List.all_eq_true.1 hempty x hx
        cases x with
        | text s => simpa [Piece.isEmpty, Piece.symbols, chars] using hx
        | _ => cases hx
      exact absurd (by rw [tokens, hblank]; rfl) (h p hp)
  rw [Clause.joinPieces, hkept, joined]

theorem symbols_joined_cons (sep : Piece) (p q : List Piece) (ps : List (List Piece)) :
    symbols (joined sep (p :: q :: ps)) =
      symbols p ++ (sep.symbols ++ symbols (joined sep (q :: ps))) := by
  simp [joined]

variable {sep : Piece} {t : Token} {stop : Token → Bool}

theorem lex_separated (hsep : Separates sep t) {a : List Symbol} (b : List Symbol)
    (ha : (after .idle a).isOpen = true) :
    lex (a ++ (sep.symbols ++ b)) = lex a ++ t :: lex b := by
  obtain ⟨s, hs⟩ := hsep.gap
  have hbreak : lex (a ++ (sep.symbols ++ b)) = lex a ++ lex (sep.symbols ++ b) := by
    rw [hs]
    exact lexFrom_append_of_break _ rfl ha
  have hlex : lex (sep.symbols ++ b) = t :: lex b := by
    rw [lex, lexFrom_append_of_idle b hsep.idle]
    exact congrArg (· ++ lex b) hsep.token
  rw [hbreak, hlex]

theorem after_separated (hsep : Separates sep t) {a : List Symbol} (b : List Symbol)
    (ha : (after .idle a).isOpen = true) :
    after .idle (a ++ (sep.symbols ++ b)) = after .idle b := by
  obtain ⟨s, hs⟩ := hsep.gap
  have hbreak : after .idle (a ++ (sep.symbols ++ b)) = after .idle (sep.symbols ++ b) := by
    rw [hs]
    exact after_append_of_break _ rfl ha
  rw [hbreak, after_append, hsep.idle]

/-- A token that is no parenthesis and not stopped at leaves a row nested. -/
theorem IsNested.append {a b : List Token} (ha : IsNested stop a) (hb : IsNested stop b)
    (hstop : stop t = false) (hnext : Level.outside.next? t = some .outside) :
    IsNested stop (a ++ t :: b) := by
  rw [IsNested, Level.walk?_append _ ha]
  exact Level.walk?_cons_eq_some.2 ⟨by simp [Level.cuts, hstop], .outside, hnext, hb⟩

/-- **A joining can stand beside others when its parts can**, unless it is cut at the separator. -/
theorem joined_isClosed (hsep : Separates sep t) (hstop : stop t = false)
    {parts : List (List Piece)} (hne : parts ≠ [])
    (h : ∀ p ∈ parts, IsClosed stop (symbols p)) : IsClosed stop (symbols (joined sep parts)) := by
  induction parts with
  | nil => exact absurd rfl hne
  | cons p ps ih =>
    have hp := h p List.mem_cons_self
    cases ps with
    | nil => simpa [joined] using hp
    | cons q ps =>
      have hrest := ih (by simp) fun r hr => h r (List.mem_cons_of_mem p hr)
      rw [symbols_joined_cons]
      refine ⟨?_, ?_, ?_⟩
      · rw [after_separated hsep _ hp.isOpen]
        exact hrest.isOpen
      · rw [lex_separated hsep _ hp.isOpen]
        simp
      · rw [lex_separated hsep _ hp.isOpen]
        exact hp.nested.append hrest.nested hstop hsep.outside

/-- **A joining is cut into its parts.** -/
theorem split_joined (hsep : Separates sep t) (hstop : stop t = true) {parts : List (List Piece)}
    (hne : parts ≠ []) (h : ∀ p ∈ parts, IsClosed stop (symbols p)) :
    split stop .outside (tokens (joined sep parts)) = parts.map tokens := by
  induction parts with
  | nil => exact absurd rfl hne
  | cons p ps ih =>
    have hp := h p List.mem_cons_self
    cases ps with
    | nil => simpa [joined, tokens] using split_nested hp.nested
    | cons q ps =>
      have hrest := ih (by simp) fun r hr => h r (List.mem_cons_of_mem p hr)
      rw [tokens, symbols_joined_cons, lex_separated hsep _ hp.isOpen,
        split_nested_append _ hp.nested hstop]
      exact congrArg _ hrest

/-! ## 2. Readings -/

variable {row : List Token → Truth}

theorem IsClosed.isOr {text : List Symbol} (h : IsOperand text) : IsClosed Token.isOr text :=
  h.mono fun t ht => by simp [Token.isConnective, ht]

theorem IsClosed.isAnd {text : List Symbol} (h : IsOperand text) : IsClosed Token.isAnd text :=
  h.mono fun t ht => by simp [Token.isConnective, ht]

/-- A row without OR is one alternative. -/
theorem read_of_nested {ts : List Token} (h : IsNested Token.isOr ts) :
    read row ts = alternativeTruth row ts := by
  rw [read_eq, split_nested h]
  exact Truth.joinAll_singleton false _

/-- A row without AND is one operand. -/
theorem alternativeTruth_of_nested {ts : List Token} (h : IsNested Token.isAnd ts) :
    alternativeTruth row ts = operandTruth row ts := by
  rw [alternativeTruth, split_nested h]
  exact Truth.joinAll_singleton true _

theorem IsClosed.read_eq_operandTruth {text : List Symbol} (h : IsOperand text) :
    read row (lex text) = operandTruth row (lex text) := by
  rw [read_of_nested (IsClosed.isOr h).nested, alternativeTruth_of_nested (IsClosed.isAnd h).nested]

/-- Operands joined by AND: every one holds. -/
theorem alternativeTruth_joined {parts : List (List Piece)} (hne : parts ≠ [])
    (h : ∀ p ∈ parts, IsOperand (symbols p)) :
    alternativeTruth row (tokens (joined .conj parts)) =
      Truth.all (parts.map fun p => operandTruth row (tokens p)) := by
  rw [alternativeTruth,
    split_joined conj_separates rfl hne fun p hp => IsClosed.isAnd (h p hp), List.map_map]
  rfl

/-- Alternatives joined by OR: some one holds. -/
theorem read_joined {parts : List (List Piece)} (hne : parts ≠ [])
    (h : ∀ p ∈ parts, IsClosed Token.isOr (symbols p)) :
    read row (tokens (joined .disj parts)) =
      Truth.any (parts.map fun p => read row (tokens p)) := by
  rw [read_eq, split_joined disj_separates rfl hne h, List.map_map]
  congr 1
  refine List.map_congr_left fun p hp => ?_
  exact (read_of_nested (h p hp).nested).symm

/-- Pieces between parentheses. -/
def grouped (ps : List Piece) : List Piece := .opening :: ps ++ [.closing]

theorem tokens_grouped {ps : List Piece} (h : IsClosed stop (symbols ps)) :
    tokens (grouped ps) = .mark '(' :: tokens ps ++ [.mark ')'] := by
  have hclose : lex (symbols ps ++ .char ')' :: []) = lex (symbols ps) ++ [.mark ')'] := by
    rw [lex, lexFrom_append_of_break [] rfl h.isOpen]
    rfl
  rw [tokens, grouped, List.cons_append, symbols_cons, symbols_append]
  exact congrArg (Token.mark '(' :: ·) hclose

theorem grouped_isOperand {ps : List Piece} (h : IsClosed stop (symbols ps)) :
    IsOperand (symbols (grouped ps)) := by
  have htokens : lex (symbols (grouped ps)) = _ := tokens_grouped h
  refine ⟨?_, ?_, ?_⟩
  · have hafter : after .idle (symbols ps ++ .char ')' :: []) = .idle := by
      rw [after_append_of_break [] rfl h.isOpen]
      rfl
    have hgroup : after .idle (symbols (grouped ps)) = .idle := by
      rw [grouped, List.cons_append, symbols_cons, symbols_append]
      exact hafter
    rw [hgroup]
    rfl
  · rw [htokens]
    simp
  · rw [htokens]
    exact h.nested.group _ rfl

/-- Parentheses change nothing by themselves. -/
theorem operandTruth_grouped {ps : List Piece} (h : IsClosed stop (symbols ps)) :
    operandTruth row (tokens (grouped ps)) = read row (tokens ps) := by
  have hnested : IsNested stop (tokens ps) := h.nested
  rw [operandTruth, tokens_grouped h, group?_group hnested]

end Realty.Sql
