/-
# Reading a condition

What the text of a condition means is decided by its operators: AND binds tighter than OR, and
parentheses come before both.  This module reads a text in that way, with no regard to how it was
written.

* A text is made of characters and slots, the places of bound values (`Symbol`).  `lex` cuts it
  into words, quoted parts, marks and slots.
* `split` cuts a row of tokens at the connectives that stand outside all parentheses, and `read`
  evaluates it: alternatives, then their operands, then what stands between the parentheses of an
  operand.  The truth of any other operand is up to the row.
* `IsClosed` says that a text can stand beside others: it leaves nothing open, and none of the
  tokens to cut at stands outside its parentheses.  `IsOperand` is a text that no connective cuts.
* `read_eq` is the recursion; `split_append` says that what is nested is cut nowhere.
-/
import Realty.Sql.Clause
import Realty.Proofs.Sql.Truth

namespace Realty.Sql

/-! ## 1. Texts -/

/-- A character of a condition's text, or the place of a bound value in it. -/
inductive Symbol where
  | char (c : Char)
  | slot (p : Piece)

/-- The characters of a string. -/
def chars (s : String) : List Symbol := s.toList.map .char

/-- The text of a piece. -/
def Piece.symbols : Piece → List Symbol
  | .text s => chars s
  | .conj => chars " AND "
  | .disj => chars " OR "
  | .opening => chars "("
  | .closing => chars ")"
  | p => [.slot p]

/-- The text of some pieces. -/
def symbols (ps : List Piece) : List Symbol := ps.flatMap Piece.symbols

@[simp] theorem symbols_nil : symbols [] = [] := rfl

@[simp] theorem symbols_cons (p : Piece) (ps : List Piece) :
    symbols (p :: ps) = p.symbols ++ symbols ps := rfl

@[simp] theorem symbols_append (ps qs : List Piece) :
    symbols (ps ++ qs) = symbols ps ++ symbols qs := List.flatMap_append

/-! ## 2. Tokens -/

/-- A word, a quoted part, a mark or a slot. -/
inductive Token where
  | word (cs : List Char)
  | quoted (body : List Symbol)
  | mark (c : Char)
  | slot (p : Piece)

namespace Token

/-- Whether a token is a keyword, in any case. -/
def isKeyword (keyword : String) : Token → Bool
  | .word cs => cs.map Char.toUpper == keyword.toList
  | _ => false

def isAnd : Token → Bool := isKeyword "AND"

def isOr : Token → Bool := isKeyword "OR"

/-- Whether a token joins two conditions, or two bounds. -/
def isConnective (t : Token) : Bool := t.isAnd || t.isOr

/-- Whether a token is a mark. -/
def isMark (c : Char) : Token → Bool
  | .mark d => d == c
  | _ => false

end Token

/-- Whether a character may stand in a word. -/
def isNameChar (c : Char) : Bool := c.isAlphanum || c == '_' || c == '$' || 128 ≤ c.toNat

/-- Whether a character only separates words. -/
def isGap (c : Char) : Bool := c == ' ' || c == '\n' || c == '\t' || c == '\r'

/-- Whether a character starts a quoted part. -/
def isQuote (c : Char) : Bool := c == '\'' || c == '"'

/-- Whether a mark may be the first half of what starts a comment. -/
def isSign (c : Char) : Bool := c == '-' || c == '/'

/-- Whether two marks start a comment. -/
def startsComment (c d : Char) : Bool := (c == '-' && d == '-') || (c == '/' && d == '*')

/-- What is being read: nothing, a word, a mark that may start a comment, a quoted part, or a
comment, after which nothing is read any more. -/
inductive Mode where
  | idle
  | word (cs : List Char)
  | sign (c : Char)
  | quoted (quote : Char) (body : List Symbol)
  | comment

namespace Mode

/-- The token that is being read. -/
def pending : Mode → List Token
  | .word cs => [.word cs]
  | .sign c => [.mark c]
  | .quoted _ body => [.quoted body]
  | .idle | .comment => []

/-- Whether neither a quoted part nor a comment is being read. -/
def isOpen : Mode → Bool
  | .quoted .. | .comment => false
  | _ => true

end Mode

/-- A character outside words and quotes: a token, when it is one, and what is read next. -/
def start (c : Char) : List Token × Mode :=
  if isNameChar c then ([], .word [c])
  else if isQuote c then ([], .quoted c [])
  else if isGap c then ([], .idle)
  else if isSign c then ([], .sign c)
  else ([.mark c], .idle)

/-- One symbol: the tokens that it ends or is, and what is read next. -/
def lexStep (m : Mode) (x : Symbol) : List Token × Mode :=
  match m, x with
  | .comment, _ => ([], .comment)
  | .quoted q body, .char c =>
    if c = q then ([.quoted body], .idle) else ([], .quoted q (body ++ [.char c]))
  | .quoted q body, .slot p => ([], .quoted q (body ++ [.slot p]))
  | .word cs, .char c =>
    if isNameChar c then ([], .word (cs ++ [c])) else (.word cs :: (start c).1, (start c).2)
  | .sign s, .char c =>
    if startsComment s c then ([], .comment) else (.mark s :: (start c).1, (start c).2)
  | .idle, .char c => start c
  | m, .slot p => (m.pending ++ [.slot p], .idle)

/-- What is read after a text. -/
def after (m : Mode) (s : List Symbol) : Mode := s.foldl (fun m x => (lexStep m x).2) m

/-- The tokens of a text, what is still read at its end included. -/
def lexFrom (m : Mode) : List Symbol → List Token
  | [] => m.pending
  | x :: s => (lexStep m x).1 ++ lexFrom (lexStep m x).2 s

/-- The tokens of a text. -/
def lex (s : List Symbol) : List Token := lexFrom .idle s

@[simp] theorem after_nil (m : Mode) : after m [] = m := rfl

@[simp] theorem after_cons (m : Mode) (x : Symbol) (s : List Symbol) :
    after m (x :: s) = after (lexStep m x).2 s := rfl

theorem after_append (m : Mode) (a b : List Symbol) : after m (a ++ b) = after (after m a) b :=
  List.foldl_append

/-- A text that ends outside all tokens is cut on its own. -/
theorem lexFrom_append_of_idle {m : Mode} {a : List Symbol} (b : List Symbol)
    (h : after m a = .idle) : lexFrom m (a ++ b) = lexFrom m a ++ lex b := by
  induction a generalizing m with
  | nil =>
    rw [after_nil] at h
    subst h
    rfl
  | cons x a ih =>
    rw [List.cons_append, lexFrom, lexFrom, ih h, List.append_assoc]

/-- Whether a character ends the token in front of it, unless that is quoted. -/
def isBreak (c : Char) : Bool := !isNameChar c && c != '-' && c != '*'

/-- A break ends what is being read. -/
theorem lexStep_of_break {m : Mode} {c : Char} (hc : isBreak c = true) (hm : m.isOpen = true) :
    lexStep m (.char c) = (m.pending ++ (start c).1, (start c).2) := by
  simp only [isBreak, Bool.and_eq_true, Bool.not_eq_true', bne_iff_ne] at hc
  obtain ⟨⟨hname, hminus⟩, hstar⟩ := hc
  cases m with
  | idle => rfl
  | word cs => simp [lexStep, hname, Mode.pending]
  | sign s => simp [lexStep, startsComment, hminus, hstar, Mode.pending]
  | quoted q body => cases hm
  | comment => cases hm

/-- **A text is cut on its own when a break follows it**, unless a quoted part or a comment goes
on. -/
theorem lexFrom_append_of_break {m : Mode} {a : List Symbol} {c : Char} (b : List Symbol)
    (hc : isBreak c = true) (ha : (after m a).isOpen = true) :
    lexFrom m (a ++ .char c :: b) = lexFrom m a ++ lex (.char c :: b) := by
  induction a generalizing m with
  | nil =>
    have hstep : lexStep m (.char c) = (m.pending ++ (start c).1, (start c).2) :=
      lexStep_of_break hc ha
    show (lexStep m (.char c)).1 ++ lexFrom (lexStep m (.char c)).2 b = m.pending ++ _
    rw [hstep, List.append_assoc]
    rfl
  | cons x a ih =>
    rw [List.cons_append, lexFrom, lexFrom, ih ha, List.append_assoc]

theorem after_append_of_break {m : Mode} {a : List Symbol} {c : Char} (b : List Symbol)
    (hc : isBreak c = true) (ha : (after m a).isOpen = true) :
    after m (a ++ .char c :: b) = after .idle (.char c :: b) := by
  rw [after_append, after_cons, lexStep_of_break hc ha]
  rfl

/-! ## 3. Nesting -/

/-- Where a token stands: how many parentheses are open, and whether a BETWEEN outside all of them
waits for its AND. -/
structure Level where
  depth : Nat
  waits : Bool
deriving DecidableEq

namespace Level

/-- Outside all parentheses. -/
def outside : Level := ⟨0, false⟩

/-- Where the next token stands, unless a parenthesis is closed too many. -/
def next? (l : Level) (t : Token) : Option Level :=
  if t.isMark '(' then some { l with depth := l.depth + 1 }
  else if t.isMark ')' then
    if l.depth = 0 then none else some { l with depth := l.depth - 1 }
  else if l.depth = 0 && t.isKeyword "BETWEEN" then some { l with waits := true }
  else if l.depth = 0 && t.isAnd then some { l with waits := false }
  else some l

/-- Whether tokens are cut here: outside all parentheses, at a token to stop at.  The AND of a
BETWEEN joins no conditions. -/
def cuts (l : Level) (stop : Token → Bool) (t : Token) : Bool :=
  l.depth = 0 && stop t && !(l.waits && t.isAnd)

/-- Where the token after some others stands, when they are cut nowhere. -/
def walk? (stop : Token → Bool) (l : Level) : List Token → Option Level
  | [] => some l
  | t :: ts => if l.cuts stop t then none else (l.next? t).bind fun m => walk? stop m ts

theorem walk?_cons_eq_some {stop : Token → Bool} {l m : Level} {t : Token} {ts : List Token} :
    walk? stop l (t :: ts) = some m ↔
      l.cuts stop t = false ∧ ∃ k, l.next? t = some k ∧ walk? stop k ts = some m := by
  rw [walk?]
  cases l.cuts stop t <;> simp [Option.bind_eq_some_iff]

theorem walk?_append {stop : Token → Bool} {l m : Level} {a : List Token} (b : List Token)
    (h : walk? stop l a = some m) : walk? stop l (a ++ b) = walk? stop m b := by
  induction a generalizing l with
  | nil =>
    cases h
    rfl
  | cons t a ih =>
    obtain ⟨hcut, k, hk, h⟩ := walk?_cons_eq_some.1 h
    rw [List.cons_append, walk?, hcut, hk]
    exact ih h

/-- Fewer tokens to stop at do no harm. -/
theorem walk?_mono {stop stop' : Token → Bool} (hstop : ∀ t, stop' t → stop t) {l m : Level}
    {ts : List Token} (h : walk? stop l ts = some m) : walk? stop' l ts = some m := by
  induction ts generalizing l with
  | nil => exact h
  | cons t ts ih =>
    obtain ⟨hcut, k, hk, h⟩ := walk?_cons_eq_some.1 h
    refine walk?_cons_eq_some.2 ⟨?_, k, hk, ih h⟩
    cases ht : stop' t with
    | false => simp [cuts, ht]
    | true => simpa [cuts, ht, hstop t ht] using hcut

/-- Inside parentheses no token is cut at and no BETWEEN is waited for. -/
theorem walk?_deeper {stop : Token → Bool} {l m : Level} {ts : List Token} (stop' : Token → Bool)
    (k : Nat) (waits : Bool) (h : walk? stop l ts = some m) :
    walk? stop' ⟨l.depth + k + 1, waits⟩ ts = some ⟨m.depth + k + 1, waits⟩ := by
  induction ts generalizing l with
  | nil =>
    cases h
    rfl
  | cons t ts ih =>
    obtain ⟨-, n, hn, h⟩ := walk?_cons_eq_some.1 h
    refine walk?_cons_eq_some.2 ⟨by simp [cuts], ⟨n.depth + k + 1, waits⟩, ?_, ih h⟩
    simp only [next?] at hn ⊢
    split at hn
    · next hopen =>
      cases hn
      rw [if_pos hopen]
      simp only [Option.some.injEq, mk.injEq, and_true]
      omega
    · next hopen =>
      rw [if_neg hopen]
      split at hn
      · next hclose =>
        split at hn
        · cases hn
        · cases hn
          rw [if_pos hclose, if_neg (by omega)]
          simp only [Option.some.injEq, mk.injEq, and_true]
          omega
      · next hclose =>
        have hkept : n.depth = l.depth := by
          split at hn
          · cases hn
            rfl
          · split at hn <;> cases hn <;> rfl
        rw [if_neg hclose, hkept]
        simp

/-- **What stands between parentheses has no effect outside.** -/
theorem walk?_group {stop : Token → Bool} {ts : List Token} (stop' : Token → Bool) (l : Level)
    (hopen : stop' (.mark '(') = false) (h : walk? stop .outside ts = some .outside) :
    walk? stop' l (.mark '(' :: ts ++ [.mark ')']) = some l := by
  have hdeep : walk? stop' ⟨l.depth + 1, l.waits⟩ ts = some ⟨l.depth + 1, l.waits⟩ := by
    simpa [outside] using walk?_deeper stop' l.depth l.waits h
  rw [List.cons_append]
  refine walk?_cons_eq_some.2 ⟨by simp [cuts, hopen], ⟨l.depth + 1, l.waits⟩, rfl, ?_⟩
  rw [walk?_append _ hdeep]
  refine walk?_cons_eq_some.2 ⟨by simp [cuts], l, ?_, rfl⟩
  simp [next?, Token.isMark]

end Level

/-- Whether tokens are cut nowhere, and close every parenthesis they open and no other. -/
def IsNested (stop : Token → Bool) (ts : List Token) : Prop :=
  Level.outside.walk? stop ts = some .outside

theorem IsNested.mono {stop stop' : Token → Bool} {ts : List Token} (h : IsNested stop ts)
    (hstop : ∀ t, stop' t → stop t) : IsNested stop' ts := Level.walk?_mono hstop h

/-- In parentheses nothing is cut. -/
theorem IsNested.group {stop : Token → Bool} {ts : List Token} (h : IsNested stop ts)
    (stop' : Token → Bool) (hopen : stop' (.mark '(') = false) :
    IsNested stop' (.mark '(' :: ts ++ [.mark ')']) := Level.walk?_group stop' .outside hopen h

/-- The text can stand beside others: it holds something, it leaves nothing open, and outside its
parentheses there is no token to stop at. -/
structure IsClosed (stop : Token → Bool) (text : List Symbol) : Prop where
  isOpen : (after .idle text).isOpen = true
  nonempty : lex text ≠ []
  nested : IsNested stop (lex text)

/-- The text is a single operand: no connective stands outside its parentheses. -/
abbrev IsOperand : List Symbol → Prop := IsClosed Token.isConnective

theorem IsClosed.mono {stop stop' : Token → Bool} {text : List Symbol} (h : IsClosed stop text)
    (hstop : ∀ t, stop' t → stop t) : IsClosed stop' text :=
  ⟨h.isOpen, h.nonempty, h.nested.mono hstop⟩

/-! ## 4. Cutting at a connective -/

/-- A row of parts with tokens in front of the first one. -/
def prepend (a : List Token) : List (List Token) → List (List Token)
  | [] => [a]
  | p :: ps => (a ++ p) :: ps

/-- The parts of a row of tokens between the places where it is cut. -/
def split (stop : Token → Bool) (l : Level) : List Token → List (List Token)
  | [] => [[]]
  | t :: ts =>
    if l.cuts stop t then [] :: split stop .outside ts
    else prepend [t] (split stop ((l.next? t).getD l) ts)

theorem prepend_prepend (a b : List Token) (ps : List (List Token)) :
    prepend a (prepend b ps) = prepend (a ++ b) ps := by
  cases ps <;> simp [prepend]

theorem split_ne_nil (stop : Token → Bool) (l : Level) (ts : List Token) :
    split stop l ts ≠ [] := by
  cases ts with
  | nil => simp [split]
  | cons t ts =>
    simp only [split]
    split
    · simp
    · cases split stop ((l.next? t).getD l) ts <;> simp [prepend]

/-- **What is nested is cut nowhere.** -/
theorem split_append {stop : Token → Bool} {l m : Level} {a : List Token} (b : List Token)
    (h : l.walk? stop a = some m) : split stop l (a ++ b) = prepend a (split stop m b) := by
  induction a generalizing l with
  | nil =>
    cases h
    cases hb : split stop m b with
    | nil => exact absurd hb (split_ne_nil stop m b)
    | cons p ps => simp [prepend, hb]
  | cons t a ih =>
    obtain ⟨hcut, k, hk, h⟩ := Level.walk?_cons_eq_some.1 h
    rw [List.cons_append, split, hcut, hk, Option.getD_some, ih h]
    exact prepend_prepend [t] a _

theorem split_nested {stop : Token → Bool} {a : List Token} (h : IsNested stop a) :
    split stop .outside a = [a] := by
  have hsplit := split_append [] h
  simpa [split, prepend] using hsplit

/-- A nested row is the first part when a cut follows. -/
theorem split_nested_append {stop : Token → Bool} {a : List Token} {t : Token} (b : List Token)
    (h : IsNested stop a) (ht : stop t = true) :
    split stop .outside (a ++ t :: b) = a :: split stop .outside b := by
  rw [split_append _ h, split, if_pos (by simp [Level.cuts, Level.outside, ht])]
  simp [prepend]

theorem length_le_of_mem_split {stop : Token → Bool} {l : Level} {ts p : List Token}
    (h : p ∈ split stop l ts) : p.length ≤ ts.length := by
  induction ts generalizing l p with
  | nil =>
    simp only [split, List.mem_singleton] at h
    simp [h]
  | cons t ts ih =>
    simp only [split] at h
    split at h
    · rcases List.mem_cons.1 h with rfl | h
      · simp
      · exact Nat.le_succ_of_le (ih h)
    · rcases hs : split stop ((l.next? t).getD l) ts with _ | ⟨q, qs⟩
      · exact absurd hs (split_ne_nil stop _ ts)
      · rw [hs] at h
        have hq : q.length ≤ ts.length := ih (hs ▸ List.mem_cons_self)
        rcases List.mem_cons.1 h with rfl | h
        · simpa using hq
        · exact Nat.le_succ_of_le (ih (hs ▸ List.mem_cons_of_mem q h))

/-! ## 5. Truth -/

/-- What stands between the parentheses of an operand that is a group and nothing else. -/
def group? : List Token → Option (List Token)
  | [] => none
  | t :: ts =>
    if t.isMark '(' && ts.getLast?.any (Token.isMark ')') &&
      Level.outside.walk? (fun _ => false) ts.dropLast == some .outside
    then some ts.dropLast else none

theorem length_lt_of_group? {o body : List Token} (h : group? o = some body) :
    body.length < o.length := by
  cases o with
  | nil => cases h
  | cons t ts =>
    simp only [group?] at h
    split at h
    · cases h
      simp only [List.length_dropLast, List.length_cons]
      omega
    · cases h

theorem group?_group {stop : Token → Bool} {ts : List Token} (h : IsNested stop ts) :
    group? (.mark '(' :: ts ++ [.mark ')']) = some ts := by
  have hnested : Level.outside.walk? (fun _ => false) ts = some .outside := h.mono (by simp)
  simp [group?, Token.isMark, hnested]

/-- The truth of an operand that is no group: a constant has its own. -/
def atomTruth (row : List Token → Truth) (o : List Token) : Truth :=
  match o with
  | [t] => if t.isKeyword "TRUE" then .yes else if t.isKeyword "FALSE" then .no else row o
  | _ => row o

/-- The truth of a row of tokens: some alternative holds, every operand of which holds. -/
def read (row : List Token → Truth) (ts : List Token) : Truth :=
  Truth.any ((split Token.isOr .outside ts).attach.map fun ⟨alternative, _⟩ =>
    Truth.all ((split Token.isAnd .outside alternative).attach.map fun ⟨o, _⟩ =>
      match _h : group? o with
      | some body => read row body
      | none => atomTruth row o))
termination_by ts.length
decreasing_by
  have h₁ := length_le_of_mem_split ‹alternative ∈ _›
  have h₂ := length_le_of_mem_split ‹o ∈ _›
  have h₃ := length_lt_of_group? _h
  omega

/-- The truth of one operand. -/
def operandTruth (row : List Token → Truth) (o : List Token) : Truth :=
  match group? o with
  | some body => read row body
  | none => atomTruth row o

/-- The truth of one alternative. -/
def alternativeTruth (row : List Token → Truth) (ts : List Token) : Truth :=
  Truth.all ((split Token.isAnd .outside ts).map (operandTruth row))

/-- **Alternatives are read first, then their operands.** -/
theorem read_eq (row : List Token → Truth) (ts : List Token) :
    read row ts = Truth.any ((split Token.isOr .outside ts).map (alternativeTruth row)) := by
  rw [read, ← @List.attach_map_val _ _ (split Token.isOr .outside ts)]
  congr 1
  refine List.map_congr_left fun ⟨alternative, _⟩ _ => ?_
  simp only [alternativeTruth]
  rw [← @List.attach_map_val _ _ (split Token.isAnd .outside alternative)]
  congr 1
  refine List.map_congr_left fun ⟨o, _⟩ _ => ?_
  simp only [operandTruth]
  split <;> simp_all

/-- The truth of a text on a row. -/
def readText (row : List Token → Truth) (text : List Symbol) : Truth := read row (lex text)

end Realty.Sql
