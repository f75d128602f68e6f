/-
# The columns of a tree predict whether it is rendered

A tree names columns, and rendering looks each of them up.  When its other values are of the kinds
that its nodes ask for, nothing else can go wrong.

* `isTyped` says of a tree that its values are of these kinds.
* `Predicts`: a computation ends as the first missing one of some columns says.  `Predicts.bind`
  puts computations one after the other.
* `clause_predicted`: the columns that a typed tree names predict its clause.
* `clause_isOk_iff_columns`: it has one exactly when the table has all of them, and otherwise the
  error names one that is missing.
-/
import Realty.Proofs.Sql.Renders

namespace Realty.Sql

/-! ## 1. Typed trees -/

/-- Whether a value is a number. -/
def isNumber : Value → Bool
  | .int _ | .float _ | .decimal _ => true
  | _ => false

/-- Whether a value is a text. -/
def isText : Value → Bool
  | .str _ => true
  | _ => false

section Typed

variable (today : Date)

mutual

/-- Whether the values in a tree are of the kinds that its nodes ask for. -/
def isTyped : Predicate → Bool
  | .inList _ vs => vs.all isText
  | .range _ a b => (a.isNull || isNumber a) && (b.isNull || isNumber b)
  | .greaterThan _ v => isNumber v
  | .listedWithin _ days => (cutoff today days).isOk
  | .raw sql params => fitsText sql params
  | .allOf ps => areTyped ps
  | .anyOf ps => areTyped ps
  | .other _ => false
  | _ => true

/-- Whether all trees of a list are typed. -/
def areTyped : List Predicate → Bool
  | [] => true
  | p :: ps => isTyped p && areTyped ps

end

end Typed

variable {today : Date} {α β : Type}

/-! ## 2. Predicted outcomes -/

/-- The first of some columns that the listings do not have. -/
def firstMissing? (names : List String) : Option String := names.find? fun name => !hasColumn name

/-- A computation succeeds when the listings have some columns, and otherwise its error names the
first that they do not have. -/
def Predicts (names : List String) (x : Except RenderError α) : Prop :=
  match firstMissing? names with
  | none => ∃ a, x = .ok a
  | some name => x = .error (.unknownColumn name)

theorem predicts_nil {x : Except RenderError α} : Predicts [] x ↔ ∃ a, x = .ok a := Iff.rfl

theorem predicts_of_isOk {x : Except RenderError α} (h : x.isOk = true) : Predicts [] x := by
  cases x with
  | error e => cases h
  | ok a => exact ⟨a, rfl⟩

theorem predicts_columnOf (name : String) : Predicts [name] (columnOf name) := by
  cases hfind : listings.find? name <;>
    simp [Predicts, firstMissing?, hasColumn, columnOf, hfind]

/-- **What is predicted of two computations is predicted of one after the other.** -/
theorem Predicts.bind {ms ns : List String} {x : Except RenderError α}
    {f : α → Except RenderError β} (hx : Predicts ms x) (hf : ∀ a, x = .ok a → Predicts ns (f a)) :
    Predicts (ms ++ ns) (x >>= f) := by
  unfold Predicts firstMissing? at *
  rw [List.find?_append]
  cases hms : ms.find? fun name => !hasColumn name with
  | some name =>
    rw [hms] at hx
    subst hx
    rfl
  | none =>
    rw [hms] at hx
    obtain ⟨a, rfl⟩ := hx
    exact hf a rfl

theorem Predicts.map {ns : List String} {x : Except RenderError α} (f : α → β)
    (hx : Predicts ns x) : Predicts ns (x.map f) := by
  have hbind := hx.bind fun a _ => predicts_nil.2 ⟨f a, rfl⟩
  rw [List.append_nil] at hbind
  exact hbind

theorem Predicts.exists_ok_iff {names : List String} {x : Except RenderError α}
    (h : Predicts names x) : (∃ a, x = .ok a) ↔ ∀ name ∈ names, hasColumn name = true := by
  unfold Predicts firstMissing? at h
  split at h
  · next hnone => exact iff_of_true h (by simpa using List.find?_eq_none.1 hnone)
  · next name hfind =>
    subst h
    have hname : hasColumn name = false := by simpa using List.find?_some hfind
    refine iff_of_false nofun fun hall => ?_
    exact Bool.false_ne_true (hname.symm.trans (hall name (List.mem_of_find?_eq_some hfind)))

theorem Predicts.exists_missing {names : List String} {x : Except RenderError α}
    (h : Predicts names x) (hfails : ¬ ∃ a, x = .ok a) :
    ∃ name ∈ names, hasColumn name = false ∧ x = .error (.unknownColumn name) := by
  unfold Predicts firstMissing? at h
  split at h
  · exact absurd h hfails
  · next name hfind =>
    exact ⟨name, List.mem_of_find?_eq_some hfind, by simpa using List.find?_some hfind, h⟩

/-! ## 3. Typed nodes -/

theorem isOrdered_of_isNumber {v : Value} (h : isNumber v = true) : isOrdered v = true := by
  cases v <;> first | rfl | cases h

theorem predicts_ordered (c : Column) (operator : String) {v : Value} (h : isNumber v = true) :
    Predicts [] (ordered c operator v) :=
  predicts_of_isOk (by rw [ordered_isOk, isOrdered_of_isNumber h])

theorem predicts_bound (c : Column) (operator : String) {v : Value}
    (h : (v.isNull || isNumber v) = true) : Predicts [] (bound c operator v) := by
  refine predicts_of_isOk ?_
  rw [bound_isOk, Bool.or_eq_true]
  exact (Bool.or_eq_true_iff.1 h).imp_right isOrdered_of_isNumber

/-- A node that looks one column up and cannot fail after that. -/
theorem predicts_lookup (name : String) (f : Column → Clause) :
    Predicts [name] (columnOf name >>= fun c => pure (f c)) :=
  (predicts_columnOf name).bind fun c _ => predicts_nil.2 ⟨f c, rfl⟩

/-! ## 4. Typed trees -/

mutual

/-- **The columns that a typed tree names predict its clause.** -/
theorem clause_predicted (p : Predicate) (h : isTyped today p = true) :
    ∃ names, p.columns = .ok names ∧ Predicts names (clause today p) := by
  cases p with
  | equals name v => exact ⟨_, rfl, predicts_lookup name _⟩
  | inList name vs => exact ⟨_, rfl, predicts_lookup name _⟩
  | range name a b =>
    obtain ⟨ha, hb⟩ := Bool.and_eq_true_iff.1 h
    refine ⟨_, rfl, (predicts_columnOf name).bind fun c _ => ?_⟩
    exact (predicts_bound c ">=" ha).bind fun lower _ =>
      (predicts_bound c "<=" hb).bind fun upper _ => predicts_nil.2 ⟨_, rfl⟩
  | greaterThan name v =>
    exact ⟨_, rfl, (predicts_columnOf name).bind fun c _ => predicts_ordered c ">" h⟩
  | columnGreaterThan left right =>
    exact ⟨_, rfl, (predicts_columnOf left).bind fun l _ => predicts_lookup right _⟩
  | like name term => exact ⟨_, rfl, predicts_lookup name _⟩
  | notNull name => exact ⟨_, rfl, predicts_lookup name _⟩
  | listedWithin name days =>
    exact ⟨_, rfl, (predicts_of_isOk h).bind fun d _ => predicts_lookup name _⟩
  | upcomingOpenHouse => exact ⟨_, rfl, openHouseClause, rfl⟩
  | exclusiveListing name => exact ⟨_, rfl, predicts_lookup name _⟩
  | raw sql params =>
    have hfragment : (fragment sql params).isOk = true := (fragment_isOk sql params).trans h
    exact ⟨_, rfl, predicts_of_isOk hfragment⟩
  | allOf ps =>
    obtain ⟨names, hnames, hpredicted⟩ := clauses_predicted ps h
    exact ⟨names, hnames, hpredicted.map _⟩
  | anyOf ps =>
    obtain ⟨names, hnames, hpredicted⟩ := clauses_predicted ps h
    exact ⟨names, hnames, hpredicted.map _⟩
  | other v => cases h

theorem clauses_predicted (ps : List Predicate) (h : areTyped today ps = true) :
    ∃ names, Predicate.columnsOfAll ps = .ok names ∧ Predicts names (clauses today ps) := by
  cases ps with
  | nil => exact ⟨[], rfl, predicts_nil.2 ⟨[], rfl⟩⟩
  | cons p ps =>
    obtain ⟨hp, hps⟩ := Bool.and_eq_true_iff.1 h
    obtain ⟨ms, hms, hclause⟩ := clause_predicted p hp
    obtain ⟨ns, hns, hclauses⟩ := clauses_predicted ps hps
    refine ⟨ms ++ ns, ?_, hclause.bind fun c _ => ?_⟩
    · rw [Predicate.columnsOfAll, hms, hns]
      rfl
    · have hrest := hclauses.bind fun cs _ => predicts_nil.2 ⟨c :: cs, rfl⟩
      rwa [List.append_nil] at hrest

end

/-- The columns of the listings, by name. -/
theorem hasColumn_iff {name : String} :
    hasColumn name = true ↔ ∃ c ∈ listings.columns, c.name = name := by
  simp [hasColumn, Table.find?]

/-- The set of the columns that a tree names has the same members as their list. -/
theorem columnSet_of_columns {p : Predicate} {names : List String} (h : p.columns = .ok names) :
    ∃ set, p.columnSet = .ok set ∧ ∀ name, name ∈ set ↔ name ∈ names := by
  refine ⟨(distinct names).mergeSort fun a b => decide (a ≤ b), ?_, fun name => ?_⟩
  · rw [Predicate.columnSet, h]
    rfl
  · rw [List.mem_mergeSort, mem_distinct]

/-- **The columns that a tree names predict whether it is rendered.**  A typed tree becomes a clause
exactly when the listings have every column in the set; otherwise the error names one of the set
that they do not have, wherever in the tree it stands. -/
theorem clause_isOk_iff_columns (today : Date) (p : Predicate) (h : isTyped today p = true) :
    ∃ set, p.columnSet = .ok set ∧
      ((∃ c, clause today p = .ok c) ↔ ∀ name ∈ set, ∃ c ∈ listings.columns, c.name = name) ∧
      ((¬ ∀ name ∈ set, ∃ c ∈ listings.columns, c.name = name) →
        ∃ name ∈ set, (∀ c ∈ listings.columns, c.name ≠ name) ∧
          clause today p = .error (.unknownColumn name)) := by
  obtain ⟨names, hnames, hpredicted⟩ := clause_predicted p h
  obtain ⟨set, hset, hmem⟩ := columnSet_of_columns hnames
  refine ⟨set, hset, ?_⟩
  simp only [hmem, ← hasColumn_iff]
  refine ⟨hpredicted.exists_ok_iff, fun hmissing => ?_⟩
  obtain ⟨name, hname, hnone, herror⟩ :=
    hpredicted.exists_missing (mt hpredicted.exists_ok_iff.1 hmissing)
  refine ⟨name, hname, fun c hc hfound => ?_, herror⟩
  exact Bool.false_ne_true (hnone.symm.trans (hasColumn_iff.2 ⟨c, hc, hfound⟩))

/-- A choice that its first condition settles, with a column in it that the listings do not
have. -/
def settledChoice : Predicate :=
  .anyOf [.allOf [], .allOf [.equals "city" (.str "Boston"),
    .range "square_feet" (.int 900) .null, .raw "price > :floor" [("floor", .int 1)]],
    .listedWithin "listing_contract_date" (.int 30)]

theorem clause_isOk_iff_columns_settledChoice :
    isTyped ⟨2026, 3, 10⟩ settledChoice = true ∧
    settledChoice.columns = .ok ["city", "square_feet", "listing_contract_date"] ∧
    clause ⟨2026, 3, 10⟩ settledChoice = .error (.unknownColumn "square_feet") := by
  have htyped : isTyped ⟨2026, 3, 10⟩ settledChoice = true := by decide +kernel
  have hnames : settledChoice.columns =
      .ok ["city", "square_feet", "listing_contract_date"] := rfl
  have honly : ∀ name ∈ ["city", "square_feet", "listing_contract_date"],
      name = "square_feet" ∨ ∃ c ∈ listings.columns, c.name = name := by decide +kernel
  have hmissing : ∀ c ∈ listings.columns, c.name ≠ "square_feet" := by decide +kernel
  refine ⟨htyped, hnames, ?_⟩
  obtain ⟨set, hset, -, herror⟩ := clause_isOk_iff_columns ⟨2026, 3, 10⟩ settledChoice htyped
  obtain ⟨set', hset', hmem⟩ := columnSet_of_columns hnames
  obtain rfl := Except.ok.inj (hset.symm.trans hset')
  obtain ⟨name, hname, hnone, herror⟩ := herror fun hall => by
    obtain ⟨c, hc, hfound⟩ := hall "square_feet" ((hmem _).2 (by decide))
    exact hmissing c hc hfound
  rcases honly name ((hmem name).1 hname) with rfl | ⟨c, hc, hfound⟩
  · exact herror
  · exact absurd hfound (hnone c hc)

end Realty.Sql
