/-
# Comparisons are single operands

* `Passes` follows a text from one level of parentheses to another; `Passes.append` puts texts
  one after the other where the first ends its last token, or the second starts with a break.
* `columnText_passes`: the name of a column of the listings table is no keyword.
* `clause_eq_leaf`: every node of a predicate that is no joining and no range is written as it
  stands, and as a single operand if it is not the caller's text.
-/
import Realty.Sql.Condition
import Realty.Proofs.Sql.Clause

namespace Realty.Sql

/-! ## 1. Passing through a text -/

/-- A token that changes no level and joins nothing. -/
def Token.isPlain (t : Token) : Bool :=
  !t.isMark '(' && !t.isMark ')' && !t.isKeyword "BETWEEN" && !t.isConnective

/-- A text that leaves nothing open leads from one level to another without a connective outside
all parentheses. -/
structure Passes (l : Level) (text : List Symbol) (m : Level) : Prop where
  isOpen : (after .idle text).isOpen = true
  walk : l.walk? Token.isConnective (lex text) = some m

theorem Level.walk?_cons_plain {t : Token} (ts : List Token) (l : Level) (h : t.isPlain = true) :
    l.walk? Token.isConnective (t :: ts) = l.walk? Token.isConnective ts := by
  simp only [Token.isPlain, Bool.and_eq_true, Bool.not_eq_true'] at h
  obtain ⟨⟨⟨hopen, hclose⟩, hbetween⟩, hconnective⟩ := h
  have hand : t.isAnd = false := by
    simp only [Token.isConnective, Bool.or_eq_false_iff] at hconnective
    exact hconnective.1
  have hnext : l.next? t = some l := by simp [next?, hopen, hclose, hbetween, hand]
  simp [walk?, cuts, hconnective, hnext]

theorem Level.walk?_plain {ts : List Token} (l : Level) (h : ts.all Token.isPlain = true) :
    l.walk? Token.isConnective ts = some l := by
  induction ts with
  | nil => rfl
  | cons t ts ih =>
    simp only [List.all_cons, Bool.and_eq_true] at h
    rw [walk?_cons_plain ts l h.1, ih h.2]

/-- The first text ends its last token, or the second one does. -/
def Joins (a b : List Symbol) : Prop :=
  after .idle a = .idle ∨ ∃ c s, b = .char c :: s ∧ isBreak c = true

theorem lex_append {a b : List Symbol} (hopen : (after .idle a).isOpen = true) (h : Joins a b) :
    lex (a ++ b) = lex a ++ lex b := by
  rcases h with hidle | ⟨c, s, rfl, hc⟩
  · exact lexFrom_append_of_idle b hidle
  · exact lexFrom_append_of_break s hc hopen

theorem after_idle_append {a b : List Symbol} (hopen : (after .idle a).isOpen = true)
    (h : Joins a b) : after .idle (a ++ b) = after .idle b := by
  rcases h with hidle | ⟨c, s, rfl, hc⟩
  · rw [after_append, hidle]
  · exact after_append_of_break s hc hopen

theorem Passes.append {l m k : Level} {a b : List Symbol} (ha : Passes l a m) (hb : Passes m b k)
    (h : Joins a b) : Passes l (a ++ b) k := by
  refine ⟨?_, ?_⟩
  · rw [after_idle_append ha.isOpen h]
    exact hb.isOpen
  · rw [lex_append ha.isOpen h, Level.walk?_append _ ha.walk]
    exact hb.walk

/-- A text that comes back outside all parentheses is an operand, when there is something in it. -/
theorem Passes.isOperand_append {m : Level} {a b : List Symbol} (ha : Passes .outside a m)
    (hne : lex a ≠ []) (hb : Passes m b .outside) (h : Joins a b) : IsOperand (a ++ b) := by
  have hpasses := ha.append hb h
  refine ⟨hpasses.isOpen, ?_, hpasses.walk⟩
  rw [lex_append ha.isOpen h]
  simp [hne]

@[simp] theorem chars_append (s t : String) : chars (s ++ t) = chars s ++ chars t := by
  simp [chars]

theorem gap_append (s : String) (b : List Symbol) :
    ∃ r, chars (" " ++ s) ++ b = .char ' ' :: r := ⟨chars s ++ b, by simp [chars]⟩

/-- A gap ends any token. -/
theorem joins_gap (a : List Symbol) (s : String) (b : List Symbol) :
    Joins a (chars (" " ++ s) ++ b) := by
  obtain ⟨r, hr⟩ := gap_append s b
  exact Or.inr ⟨' ', r, hr, rfl⟩

/-! ## 2. Columns -/

theorem lexFrom_word (ds cs : List Char) (h : cs.all isNameChar = true) :
    lexFrom (.word ds) (cs.map .char) = [.word (ds ++ cs)] ∧
      after (.word ds) (cs.map .char) = .word (ds ++ cs) := by
  induction cs generalizing ds with
  | nil => simp [lexFrom, Mode.pending]
  | cons c cs ih =>
    simp only [List.all_cons, Bool.and_eq_true] at h
    have hstep : lexStep (.word ds) (.char c) = ([], .word (ds ++ [c])) := by
      simp [lexStep, h.1]
    obtain ⟨hlex, hafter⟩ := ih (ds ++ [c]) h.2
    rw [List.map_cons, lexFrom, after_cons, hstep, hlex, hafter]
    simp

/-- The names of the columns are words, and no keywords. -/
theorem listings_names : ∀ c ∈ listings.columns, c.name.toList ≠ [] ∧
    c.name.toList.all isNameChar = true ∧ (Token.word c.name.toList).isPlain = true := by
  decide

theorem mem_of_columnOf {name : String} {c : Column} (h : columnOf name = .ok c) :
    c ∈ listings.columns := by
  unfold columnOf at h
  split at h
  · next d hd =>
    cases h
    exact List.mem_of_find?_eq_some hd
  · cases h

/-- A name is read as one word. -/
theorem lex_name {s : String} (hne : s.toList ≠ []) (hall : s.toList.all isNameChar = true) :
    lex (chars s) = [.word s.toList] ∧ after .idle (chars s) = .word s.toList := by
  rw [chars]
  cases hname : s.toList with
  | nil => exact absurd hname hne
  | cons d ds =>
    rw [hname] at hall
    simp only [List.all_cons, Bool.and_eq_true] at hall
    have hstart : lexStep .idle (.char d) = ([], .word [d]) := by
      simp [lexStep, start, hall.1]
    obtain ⟨hlex, hafter⟩ := lexFrom_word [d] ds hall.2
    rw [List.map_cons, lex, lexFrom, after_cons, hstart, hlex, hafter]
    exact ⟨rfl, rfl⟩

/-- **A column is read as three tokens without effect.** -/
theorem lex_columnText {c : Column} (hc : c ∈ listings.columns) :
    lex (chars (columnText c)) =
        [.word "listings".toList, .mark '.', .word c.name.toList] ∧
      (after .idle (chars (columnText c))).isOpen = true := by
  obtain ⟨hne, hall, -⟩ := listings_names c hc
  obtain ⟨hlex, hafter⟩ := lex_name hne hall
  have htext : chars (columnText c) = chars "listings." ++ chars c.name := by
    rw [columnText, chars_append, chars_append]
    rfl
  have hidle : after .idle (chars "listings.") = .idle := rfl
  rw [htext, after_append, hidle, hafter, lex, lexFrom_append_of_idle _ hidle, hlex]
  exact ⟨rfl, rfl⟩

theorem columnText_passes {c : Column} (hc : c ∈ listings.columns) (l : Level) :
    Passes l (chars (columnText c)) l := by
  obtain ⟨-, -, hplain⟩ := listings_names c hc
  obtain ⟨hlex, hopen⟩ := lex_columnText hc
  refine ⟨hopen, ?_⟩
  rw [hlex]
  refine l.walk?_plain ?_
  rw [List.all_cons, List.all_cons, List.all_cons, hplain]
  rfl

/-- A column with more text, from a gap on. -/
theorem columnText_append {c : Column} (hc : c ∈ listings.columns) {s : List Symbol}
    (hs : Passes .outside s .outside) (hgap : ∃ r, s = .char ' ' :: r) :
    IsOperand (chars (columnText c) ++ s) := by
  obtain ⟨r, rfl⟩ := hgap
  refine (columnText_passes hc .outside).isOperand_append ?_ hs (Or.inr ⟨' ', r, rfl, rfl⟩)
  rw [(lex_columnText hc).1]
  simp

/-! ## 3. Comparisons -/

/-- The operators of comparisons. -/
def operators : List String := ["=", ">", ">=", "<=", "ILIKE", "~"]

/-- An operator between gaps changes no level. -/
theorem operator_passes {operator : String} (h : operator ∈ operators) (l : Level) :
    Passes l (chars (" " ++ (operator ++ " "))) l ∧
      after .idle (chars (" " ++ (operator ++ " "))) = .idle := by
  simp only [operators, List.mem_cons, List.not_mem_nil, or_false] at h
  rcases h with rfl | rfl | rfl | rfl | rfl | rfl <;> exact ⟨⟨rfl, l.walk?_plain rfl⟩, rfl⟩

/-- A bound value changes no level, converted or not. -/
theorem comparedValue_passes (c : Column) (v : Value) (l : Level) :
    Passes l (symbols (comparedValue c v)) l := by
  unfold comparedValue
  simp only
  split
  · refine ⟨rfl, ?_⟩
    have hnested : Level.outside.walk? Token.isConnective
        [.slot (.bind ⟨c.name, v, .compared c v⟩)] = some .outside := rfl
    have hgroup := Level.walk?_group Token.isConnective l rfl hnested
    exact (Level.walk?_cons_plain _ l rfl).trans hgroup
  · exact ⟨rfl, l.walk?_plain rfl⟩

/-- What follows the column in a comparison. -/
def compared (c : Column) (operator : String) (v : Value) : List Symbol :=
  chars (" " ++ (operator ++ " ")) ++ symbols (comparedValue c v)

theorem symbols_comparison (c : Column) (operator : String) (v : Value) :
    symbols (comparison c operator v) = chars (columnText c) ++ compared c operator v := by
  simp [comparison, compared, Piece.symbols]

theorem compared_passes {operator : String} (ho : operator ∈ operators) (c : Column) (v : Value)
    (l : Level) : Passes l (compared c operator v) l := by
  obtain ⟨hpasses, hidle⟩ := operator_passes ho l
  exact hpasses.append (comparedValue_passes c v l) (Or.inl hidle)

/-- A comparison changes no level, wherever it stands. -/
theorem comparison_passes {c : Column} {operator : String} (hc : c ∈ listings.columns)
    (ho : operator ∈ operators) (v : Value) (l : Level) :
    Passes l (symbols (comparison c operator v)) l := by
  rw [symbols_comparison]
  exact (columnText_passes hc l).append (compared_passes ho c v l) (joins_gap _ _ _)

/-- **A column compared with a value is a single operand.** -/
theorem comparison_isOperand {c : Column} {operator : String} (hc : c ∈ listings.columns)
    (ho : operator ∈ operators) (v : Value) : IsOperand (symbols (comparison c operator v)) := by
  rw [symbols_comparison]
  exact columnText_append hc (compared_passes ho c v .outside) (gap_append _ _)

/-! ## 4. Nodes -/

theorem equality_eq_leaf {c : Column} (hc : c ∈ listings.columns) (v : Value) :
    ∃ ps, equality c v = .leaf ps ∧ IsOperand (symbols ps) := by
  cases v with
  | null =>
    refine ⟨_, rfl, ?_⟩
    simp only [symbols_cons, symbols_nil, List.append_nil, Piece.symbols, chars_append]
    exact columnText_append hc ⟨rfl, rfl⟩ ⟨_, rfl⟩
  | bool b =>
    refine ⟨_, rfl, ?_⟩
    simp only [symbols_cons, symbols_nil, List.append_nil, Piece.symbols, chars_append,
      List.append_assoc]
    cases b <;> exact columnText_append hc ⟨rfl, rfl⟩ ⟨_, rfl⟩
  | _ => exact ⟨_, rfl, comparison_isOperand hc (by decide) _⟩

theorem ordered_eq_leaf {c : Column} {operator : String} (hc : c ∈ listings.columns)
    (ho : operator ∈ operators) {v : Value} {clause : Clause}
    (h : ordered c operator v = .ok clause) :
    clause = .leaf (comparison c operator v) ∧ IsOperand (symbols (comparison c operator v)) := by
  unfold ordered at h
  split at h
  · cases h
  · cases h
  · cases h
    exact ⟨rfl, comparison_isOperand hc ho v⟩

theorem membership_eq_leaf {c : Column} (hc : c ∈ listings.columns) (vs : List Value) :
    ∃ ps, membership c vs = .leaf ps ∧ IsOperand (symbols ps) := by
  refine ⟨_, rfl, ?_⟩
  simp only [symbols_cons, symbols_nil, Piece.symbols, chars_append, List.append_assoc]
  exact columnText_append hc ⟨rfl, rfl⟩ ⟨_, rfl⟩

theorem likeness_eq_leaf {c : Column} (hc : c ∈ listings.columns) (term : String) :
    ∃ ps, likeness c term = .leaf ps ∧ IsOperand (symbols ps) := by
  refine ⟨_, rfl, ?_⟩
  rw [symbols_append, symbols_comparison, List.append_assoc]
  refine columnText_append hc ?_ ⟨_, rfl⟩
  exact (compared_passes (by decide) c _ .outside).append ⟨rfl, rfl⟩ (Or.inr ⟨' ', _, rfl, rfl⟩)

theorem exclusiveness_eq_leaf {c : Column} (hc : c ∈ listings.columns) :
    ∃ ps, exclusiveness c = .leaf ps ∧ IsOperand (symbols ps) := by
  refine ⟨_, rfl, ?_⟩
  have hopening : Passes .outside (chars "CASE WHEN (") ⟨1, false⟩ := ⟨rfl, rfl⟩
  have hmiddle : Passes ⟨1, false⟩ (chars ") THEN CAST(") ⟨1, false⟩ := ⟨rfl, rfl⟩
  have hending : Passes ⟨1, false⟩ (chars " AS BIGINT) END < " ++
      [.slot (.bind ⟨"param", .int ListingNumber.watermark, .bigInteger⟩)]) .outside := ⟨rfl, rfl⟩
  have hcast := (columnText_passes hc ⟨1, false⟩).append hending (joins_gap _ "AS BIGINT) END < " _)
  have hrest := hmiddle.append hcast (Or.inl rfl)
  have htilde : "~" ∈ operators := by decide
  have hguard := (comparison_passes hc htilde (.str numberPattern) ⟨1, false⟩).append hrest
    (Or.inr ⟨')', _, rfl, rfl⟩)
  have htext := hopening.isOperand_append (List.cons_ne_nil _ _) hguard (Or.inl rfl)
  simpa [Piece.symbols] using htext

theorem columnGreater_eq_leaf {l r : Column} (hl : l ∈ listings.columns)
    (hr : r ∈ listings.columns) :
    ∃ ps, Clause.leaf [.text (columnText l ++ " > " ++ columnText r)] = .leaf ps ∧
      IsOperand (symbols ps) := by
  refine ⟨_, rfl, ?_⟩
  have hgreater : Passes .outside (chars " > ") .outside := ⟨rfl, rfl⟩
  have hrest := hgreater.append (columnText_passes hr .outside) (Or.inl rfl)
  have htext := columnText_append hl hrest ⟨_, rfl⟩
  simpa [Piece.symbols] using htext

theorem presence_eq_leaf {c : Column} (hc : c ∈ listings.columns) :
    ∃ ps, Clause.leaf [.text (columnText c ++ " IS NOT NULL")] = .leaf ps ∧
      IsOperand (symbols ps) := by
  refine ⟨_, rfl, ?_⟩
  simp only [symbols_cons, symbols_nil, List.append_nil, Piece.symbols, chars_append]
  exact columnText_append hc ⟨rfl, rfl⟩ ⟨_, rfl⟩

theorem openHouse_eq_leaf : ∃ ps, openHouseClause = .leaf ps ∧ IsOperand (symbols ps) := by
  refine ⟨_, rfl, by decide +kernel, ?_, by unfold IsNested; decide +kernel⟩
  rw [← List.isEmpty_eq_false_iff]
  decide +kernel

/-- Whether a predicate is written as it stands: it is no joining, no range and no other value. -/
def isComparison : Predicate → Bool
  | .range .. | .allOf _ | .anyOf _ | .other _ => false
  | _ => true

/-- Whether a predicate is text of the caller. -/
def isRaw : Predicate → Bool
  | .raw .. => true
  | _ => false

/-- The caller's text is written as it stands. -/
theorem raw_eq_leaf {today : Date} {p : Predicate} {written : Clause} (hp : isRaw p = true)
    (h : clause today p = .ok written) : ∃ ps, written = .leaf ps := by
  cases p with
  | raw sql params =>
    simp only [clause, fragment] at h
    split at h
    · cases h
    · cases h
      exact ⟨_, rfl⟩
  | _ => cases hp

/-- **A node is written as it stands**, and as a single operand unless its text is the caller's. -/
theorem clause_eq_leaf {today : Date} {p : Predicate} {written : Clause}
    (hp : isComparison p = true) (h : clause today p = .ok written) :
    ∃ ps, written = .leaf ps ∧ (isRaw p = false → IsOperand (symbols ps)) := by
  suffices hleaf : isRaw p = false → ∃ ps, written = .leaf ps ∧ IsOperand (symbols ps) by
    cases hraw : isRaw p with
    | false =>
      obtain ⟨ps, hps, hoperand⟩ := hleaf hraw
      exact ⟨ps, hps, fun _ => hoperand⟩
    | true =>
      obtain ⟨ps, hps⟩ := raw_eq_leaf hraw h
      exact ⟨ps, hps, nofun⟩
  intro hraw
  cases p with
  | equals name v =>
    simp only [clause] at h
    obtain ⟨c, hname, h⟩ := bind_eq_ok_iff.1 h
    cases h
    exact equality_eq_leaf (mem_of_columnOf hname) v
  | inList name vs =>
    simp only [clause] at h
    obtain ⟨c, hname, h⟩ := bind_eq_ok_iff.1 h
    cases h
    exact membership_eq_leaf (mem_of_columnOf hname) vs
  | greaterThan name v =>
    simp only [clause] at h
    obtain ⟨c, hname, h⟩ := bind_eq_ok_iff.1 h
    exact ⟨_, ordered_eq_leaf (mem_of_columnOf hname) (by decide) h⟩
  | columnGreaterThan left right =>
    simp only [clause] at h
    obtain ⟨l, hleft, h⟩ := bind_eq_ok_iff.1 h
    obtain ⟨r, hright, h⟩ := bind_eq_ok_iff.1 h
    cases h
    exact columnGreater_eq_leaf (mem_of_columnOf hleft) (mem_of_columnOf hright)
  | like name term =>
    simp only [clause] at h
    obtain ⟨c, hname, h⟩ := bind_eq_ok_iff.1 h
    cases h
    exact likeness_eq_leaf (mem_of_columnOf hname) term
  | notNull name =>
    simp only [clause] at h
    obtain ⟨c, hname, h⟩ := bind_eq_ok_iff.1 h
    cases h
    exact presence_eq_leaf (mem_of_columnOf hname)
  | listedWithin name days =>
    simp only [clause] at h
    obtain ⟨d, -, h⟩ := bind_eq_ok_iff.1 h
    obtain ⟨c, hname, h⟩ := bind_eq_ok_iff.1 h
    cases h
    exact ⟨_, rfl, comparison_isOperand (mem_of_columnOf hname) (by decide) _⟩
  | upcomingOpenHouse =>
    cases h
    exact openHouse_eq_leaf
  | exclusiveListing name =>
    simp only [clause] at h
    obtain ⟨c, hname, h⟩ := bind_eq_ok_iff.1 h
    cases h
    exact exclusiveness_eq_leaf (mem_of_columnOf hname)
  | raw sql params => cases hraw
  | range name a b => cases hp
  | allOf ps => cases hp
  | anyOf ps => cases hp
  | other v => cases hp

/-- The condition is rendered to a single operand. -/
def IsOperandNode (p : Predicate) : Prop :=
  ∀ today ps, clause today p = .ok (.leaf ps) → IsOperand (symbols ps)

end Realty.Sql
