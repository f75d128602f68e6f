/-
# A status value is looked up as a set

Which listings the condition of a status value holds on depends on the categories that are asked
for, and on nothing else about the value.

* `Predicate.rowTruth` is the truth of a condition on a row.
* `Asks`: a category is asked for by some texts.  `mem_categories_iff`: these are the categories of
  a value with these texts.
* `Rewording` is one change of the texts of a value, and `Reworded` any number of them.
  `Reworded.asks_iff`: they ask for the same.
* `condition_matches_iff`: the condition holds on the listings that a category asked for covers.
-/
import Mathlib.Logic.Relation
import Realty.Listing.Row
import Realty.Proofs.Sql.Truth
import Realty.Proofs.Status.Label
import Realty.Proofs.Value.Choices

namespace Realty

open Sql (Truth)

/-! ## 1. Conditions on a row -/

namespace Predicate

/-- Whether two values are equal, if neither is missing. -/
def equalTruth (x y : Value) : Truth :=
  if x.isNull || y.isNull then .null else .ofBool (x.same y)

section Truth

variable (others : Predicate → Truth) (r : Row)

mutual

/-- The truth of a condition on a row; `others` is that of the conditions that compare otherwise
than by equality. -/
def rowTruth : Predicate → Truth
  | .equals c .null => .ofBool (r.get c).isNull
  | .equals c v => equalTruth (r.get c) v
  | .inList c vs => .any (vs.map (equalTruth (r.get c)))
  | .allOf ps => .all (rowTruths ps)
  | .anyOf ps => .any (rowTruths ps)
  | p => others p

/-- The truth of each condition of a list. -/
def rowTruths : List Predicate → List Truth
  | [] => []
  | p :: ps => rowTruth p :: rowTruths ps

end

end Truth

theorem rowTruths_eq_map (others : Predicate → Truth) (r : Row) (ps : List Predicate) :
    rowTruths others r ps = ps.map (rowTruth others r) := by
  induction ps with
  | nil => rfl
  | cons p ps ih => rw [rowTruths, ih, List.map_cons]

end Predicate

namespace Status

/-- A row as the table has them: it is archived or not, and has a status or none. -/
structure Listed where
  row : Row
  isArchived : Bool
  status : Option String
  row_isArchived : row.get "is_archived" = .bool isArchived
  row_status : row.get "standard_status" = status.elim .null .str

/-- Whether a condition holds on a listing. -/
def Matches (others : Predicate → Truth) (l : Listed) (p : Predicate) : Prop :=
  p.rowTruth others l.row = .yes

/-- What the listings of a category look like: archived or not, with which status. -/
def Category.coverage : Category → List (Bool × String)
  | .active => [(false, "Active")]
  | .pending => [(false, "Pending"), (false, "Active Under Contract")]
  | .sold => [(true, "Closed")]

/-- A category covers a listing. -/
def Category.Covers (c : Category) (l : Listed) : Prop :=
  ∃ s, l.status = some s ∧ (l.isArchived, s) ∈ c.coverage

variable {others : Predicate → Truth} {l : Listed} {c : Category}

theorem equalTruth_isArchived {b : Bool} :
    Predicate.equalTruth (l.row.get "is_archived") (.bool b) = .yes ↔ l.isArchived = b := by
  rw [l.row_isArchived]
  cases l.isArchived <;> cases b <;> decide +kernel

theorem equalTruth_status {s : String} :
    Predicate.equalTruth (l.row.get "standard_status") (.str s) = .yes ↔ l.status = some s := by
  rw [l.row_status]
  cases l.status with
  | none => exact iff_of_false nofun nofun
  | some t =>
    show Truth.ofBool (t == s) = .yes ↔ some t = some s
    rw [Truth.ofBool_eq_yes_iff, beq_iff_eq, Option.some.injEq]

/-- The condition on the status alone holds where the status is one of the category. -/
theorem matches_statusCondition_iff :
    Matches others l c.statusCondition ↔ ∃ s ∈ c.statuses, l.status = some s.text := by
  rw [Category.statusCondition]
  split
  · next s hs =>
    have hmatches : Matches others l (.equals "standard_status" (.str s.text)) ↔
        l.status = some s.text := equalTruth_status
    simp [hs, hmatches]
  · simp [Matches, Predicate.rowTruth, Truth.any_eq_yes_iff, equalTruth_status]

theorem Category.coverage_eq (c : Category) :
    c.coverage = c.statuses.map fun s => (c.isArchived, s.text) := by
  cases c <;> rfl

theorem covers_iff :
    c.Covers l ↔ l.isArchived = c.isArchived ∧ ∃ s ∈ c.statuses, l.status = some s.text := by
  simp only [Category.Covers, Category.coverage_eq, List.mem_map, Prod.mk.injEq]
  constructor
  · rintro ⟨_, hstatus, s, hs, hplace, rfl⟩
    exact ⟨hplace.symm, s, hs, hstatus⟩
  · rintro ⟨hplace, s, hs, hstatus⟩
    exact ⟨s.text, hstatus, s, hs, hplace.symm, rfl⟩

/-- **The condition of a category holds on the listings that it covers.** -/
theorem matches_category_iff : Matches others l c.condition ↔ c.Covers l := by
  have hplace : Matches others l (.equals "is_archived" (.bool c.isArchived)) ↔
      l.isArchived = c.isArchived := equalTruth_isArchived
  rw [covers_iff, ← hplace, ← @matches_statusCondition_iff others, Matches,
    Category.condition, Predicate.rowTruth, Predicate.rowTruths_eq_map, Truth.all_eq_yes_iff]
  simp [Matches]

/-! ## 2. Categories -/

/-- The texts of a status value in which labels are looked for. -/
def written : Value → List String
  | .null => []
  | .list xs => Value.itemTexts xs
  | .tuple xs => Value.itemTexts xs
  | v => Text.parts ',' v.text

/-- A category is asked for when a text names it, and Active also when none names any. -/
def Asks (texts : List String) (c : Category) : Prop :=
  (∃ s ∈ texts, Names s c) ∨ (¬ ∃ d, ∃ s ∈ texts, Names s d) ∧ c = .active

theorem askedLabels_eq (v : Value) : askedLabels v = (written v).map normalize := by
  cases v with
  | null => rfl
  | list xs => exact (List.map_map (f := Value.text) (g := normalize)).symm
  | tuple xs => exact (List.map_map (f := Value.text) (g := normalize)).symm
  | _ => rfl

/-- The categories of the labels that are recognised, each once. -/
def recognised (v : Value) : List Category := distinct ((askedLabels v).filterMap ofLabel?)

theorem mem_recognised_iff {v : Value} : c ∈ recognised v ↔ ∃ s ∈ written v, Names s c := by
  rw [recognised, mem_distinct, askedLabels_eq, List.mem_filterMap]
  simp only [List.mem_map, exists_exists_and_eq_and, ofLabel?_normalize_iff]

theorem recognised_eq_nil_iff {v : Value} :
    recognised v = [] ↔ ¬ ∃ d, ∃ s ∈ written v, Names s d := by
  rw [List.eq_nil_iff_forall_not_mem, not_exists]
  simp only [mem_recognised_iff]

/-- **The categories of a value are those that its texts ask for.** -/
theorem mem_categories_iff {v : Value} : c ∈ categories v ↔ Asks (written v) c := by
  rw [Asks, ← mem_recognised_iff, ← recognised_eq_nil_iff]
  unfold categories
  split
  · next hnil =>
    have hnone : recognised v = [] := hnil
    simp [hnone]
  · next hne =>
    have hsome : recognised v ≠ [] := hne
    rw [or_iff_left fun h => hsome h.1]
    rfl

/-- The condition of a value holds where that of one of its categories does. -/
theorem matches_categories_iff {v : Value} :
    Matches others l (condition v) ↔ ∃ c ∈ categories v, c.Covers l := by
  simp only [← @matches_category_iff others]
  rw [condition]
  split
  · next p hp =>
    obtain ⟨c, hc, rfl⟩ := List.map_eq_singleton_iff.1 hp
    simp [hc]
  · rw [Matches, Predicate.rowTruth, Predicate.rowTruths_eq_map, Truth.any_eq_yes_iff]
    simp [Matches]

/-- **The condition of a value holds on the listings that a category asked for covers.** -/
theorem matches_condition_iff {v : Value} :
    Matches others l (condition v) ↔ ∃ c, Asks (written v) c ∧ c.Covers l := by
  rw [matches_categories_iff]
  simp only [mem_categories_iff]

/-! ## 3. Other texts -/

/-- One change of texts that asks for nothing else. -/
inductive Rewording : List String → List String → Prop
  | permuted {ss ts : List String} (h : ss.Perm ts) : Rewording ss ts
  | repeated {s : String} {ss : List String} (h : s ∈ ss) : Rewording ss (s :: ss)
  | respelled {s t : String} {ss : List String} (h : Respelled s t) :
      Rewording (s :: ss) (t :: ss)
  | unrecognised {s : String} {ss : List String} (h : ∀ c, ¬ Names s c) : Rewording ss (s :: ss)

/-- Any number of changes, in either direction. -/
def Reworded : List String → List String → Prop := Relation.EqvGen Rewording

/-- **A change names the same categories.** -/
theorem Rewording.named_iff {ss ts : List String} (h : Rewording ss ts) (c : Category) :
    (∃ s ∈ ss, Names s c) ↔ ∃ t ∈ ts, Names t c := by
  cases h with
  | permuted h => simp only [h.mem_iff]
  | @repeated s ss h =>
    rw [List.exists_mem_cons_iff]
    exact (or_iff_right_of_imp fun hs => ⟨s, h, hs⟩).symm
  | respelled h => rw [List.exists_mem_cons_iff, List.exists_mem_cons_iff, h.names_iff]
  | unrecognised h => rw [List.exists_mem_cons_iff, or_iff_right (h c)]

theorem Reworded.named_iff {ss ts : List String} (h : Reworded ss ts) (c : Category) :
    (∃ s ∈ ss, Names s c) ↔ ∃ t ∈ ts, Names t c := by
  induction h with
  | rel ss ts h => exact h.named_iff c
  | refl ss => exact Iff.rfl
  | symm ss ts _ ih => exact ih.symm
  | trans ss ts us _ _ ih ih' => exact ih.trans ih'

/-- **Texts that are reworded ask for the same.** -/
theorem Reworded.asks_iff {ss ts : List String} (h : Reworded ss ts) (c : Category) :
    Asks ss c ↔ Asks ts c := by
  simp only [Asks, h.named_iff]

/-! ## 4. Look-up -/

/-- Only the listings of one category are archived. -/
theorem eq_sold_of_isArchived (h : c.isArchived = true) : c = .sold := by
  cases c with
  | sold => rfl
  | _ => cases h

theorem reachesArchived_iff {v : Value} :
    reachesArchived v = true ↔ ∃ s ∈ written v, Names s .sold := by
  have hsold {label : String} (hlabel : (label, Category.sold) ∈ labels) : label = "sold" := by
    simpa [labels] using hlabel
  have hnormalize {s : String} : normalize s = "sold" ↔ Names s .sold := by
    rw [names_iff, normalize_eq_iff (c := .sold) (by decide)]
    constructor
    · exact fun h => ⟨"sold", by decide, h⟩
    · rintro ⟨label, hlabel, h⟩
      rwa [hsold hlabel] at h
  rw [reachesArchived, List.contains_iff_mem, askedLabels_eq, List.mem_map]
  simp only [hnormalize]

/-- A listing that has been sold. -/
def soldListing : Listed where
  row := ⟨[("is_archived", .bool true), ("standard_status", .str "Closed")]⟩
  isArchived := true
  status := some "Closed"
  row_isArchived := rfl
  row_status := rfl

theorem sold_covers_soldListing : Category.sold.Covers soldListing :=
  ⟨"Closed", rfl, List.mem_singleton_self _⟩

/-- **A status value is looked up as a set.**  Its condition holds on the listings that a category
asked for covers; so it does not matter in which order, how often or in which spelling the labels
are given, and what else is among them.  The value reaches into archived listings exactly when its
condition holds on one of them. -/
theorem condition_matches_iff (others : Predicate → Truth) (v : Value) :
    (∀ l : Listed, Matches others l (condition v) ↔ ∃ c, Asks (written v) c ∧ c.Covers l) ∧
    (∀ w : Value, Reworded (written v) (written w) →
      ∀ l : Listed, Matches others l (condition v) ↔ Matches others l (condition w)) ∧
    (reachesArchived v = true ↔
      ∃ l : Listed, l.isArchived = true ∧ Matches others l (condition v)) := by
  refine ⟨fun l => matches_condition_iff, fun w h l => ?_, ?_⟩
  · rw [matches_condition_iff, matches_condition_iff]
    simp only [h.asks_iff]
  · simp only [matches_condition_iff]
    rw [reachesArchived_iff]
    constructor
    · exact fun h => ⟨soldListing, rfl, .sold, Or.inl h, sold_covers_soldListing⟩
    · rintro ⟨l, harchived, c, hasks, hcovers⟩
      obtain rfl := eq_sold_of_isArchived ((covers_iff.1 hcovers).1.symm.trans harchived)
      exact hasks.resolve_right nofun

/-- Two labels in a text. -/
def labelText : Value := .str "Sold,Pending"

/-- The same labels as items, one by its other name, and a word that is no label. -/
def labelItems : Value := .tuple [.str "bogus", .null, .str " under agreement", .str "Sold"]

theorem reworded_labelItems : Reworded (written labelText) (written labelItems) := by
  have hbogus : ∀ c, ¬ Names "bogus" c := by
    have hnone : ofLabel? (normalize "bogus") = none := by decide +kernel
    intro c hnames
    rw [← ofLabel?_normalize_iff, hnone] at hnames
    cases hnames
  have hletters : Respelled "Pending" "pending" := .letters (by decide +kernel)
  have hblanks : Respelled "under agreement" " under agreement" :=
    .blanks ⟨[' '], [], rfl, List.forall_mem_singleton.2 rfl, nofun⟩
  have hsteps : Relation.EqvGen Rewording ["Sold", "Pending"]
      ["bogus", " under agreement", "Sold"] :=
    .trans _ _ _ (.rel _ _ (.permuted (.swap "Pending" "Sold" []))) <|
    .trans _ _ _ (.rel _ _ (.respelled hletters)) <|
    .trans _ _ _ (.rel _ _ (.respelled .synonym)) <|
    .trans _ _ _ (.rel _ _ (.respelled hblanks)) (.rel _ _ (.unrecognised hbogus))
  have htext : written labelText = ["Sold", "Pending"] := by decide +kernel
  rw [htext]
  exact hsteps

theorem condition_matches_iff_labelItems :
    Reworded (written labelText) (written labelItems) ∧
      Matches (fun _ => .null) soldListing (condition labelItems) := by
  obtain ⟨hmatches, hreworded, -⟩ := condition_matches_iff (fun _ => .null) labelText
  have hnames : Names "Sold" .sold := by
    rw [← ofLabel?_normalize_iff]
    decide +kernel
  have hasks : Asks (written labelText) .sold := Or.inl ⟨"Sold", by decide +kernel, hnames⟩
  refine ⟨reworded_labelItems, (hreworded _ reworded_labelItems soldListing).1 ?_⟩
  exact (hmatches soldListing).2 ⟨.sold, hasks, sold_covers_soldListing⟩

end Status

end Realty
