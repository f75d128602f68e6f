/-
# School criteria stay out of the query

No column of the listings expresses a school criterion.  A plan keeps the criteria as they were
given, for the rows that are fetched, and nothing else of it depends on them.

* `namesSchool_iff` and `isBlank_iff` say which filters are school criteria, and which of them were
  left empty.
* `captures_of_compile`: the criteria of a plan, and what it says about having any.
* `readsAlike_of_agree`: filters that differ in school keys only are read alike.
* `schools_captured`: so they compile to plans of one condition and order, whose statements are the
  same, or are rejected alike.
-/
import Realty.Proofs.Filter.Mapping
import Realty.Sql.Query

namespace Realty.Filter

variable {room : Room} {raw raw' : Filters}

/-! ## 1. School keys -/

/-- Whether a key is that of a school criterion. -/
def IsSchoolKey (key : String) : Prop :=
  "school_".toList <+: key.toList ∨ key ∈ ["elementary_school", "middle_school", "high_school"]

/-- Whether a filter says nothing: null, the empty text, or no items. -/
def SaysNothing (v : Value) : Prop := v = .null ∨ v = .str "" ∨ v = .list [] ∨ v = .tuple []

theorem namesSchool_iff (key : String) : namesSchool key = true ↔ IsSchoolKey key := by
  rw [namesSchool, Bool.or_eq_true, List.isPrefixOf_iff_prefix, List.contains_iff_mem]
  rfl

theorem isBlank_iff (v : Value) : v.isBlank = true ↔ SaysNothing v := by
  cases v <;> simp [Value.isBlank, SaysNothing]

/-- No key that is read otherwise is one of a school criterion. -/
theorem not_isSchoolKey_of_mem {key : String} (h : key ∈ readKeys) : ¬ IsSchoolKey key := by
  have hkeys : ∀ key ∈ readKeys, namesSchool key = false := by decide
  rw [← namesSchool_iff, hkeys key h]
  exact Bool.false_ne_true

theorem mem_schoolCriteria {key : String} {v : Value} :
    (key, v) ∈ schoolCriteria raw ↔ (key, v) ∈ raw ∧ IsSchoolKey key ∧ ¬ SaysNothing v := by
  rw [mem_schoolCriteria_iff, namesSchool_iff, ← isBlank_iff, Bool.not_eq_true]

/-! ## 2. The criteria of a plan -/

/-- A plan that keeps the school criteria as they were given. -/
structure Plan.Captures (p : Plan) (raw : Filters) : Prop where
  /-- A search that looks up no listing has the criteria that say something, and no others. -/
  given : p.isLookup = false → ∀ key v,
    (key, v) ∈ p.schools ↔ (key, v) ∈ raw ∧ IsSchoolKey key ∧ ¬ SaysNothing v
  lookup : p.isLookup = true → p.schools = []
  inOrder : p.schools.Sublist raw
  mapping : IsMapping raw → IsMapping p.schools
  hasSchools : p.hasSchools = true ↔ p.schools ≠ []
  overfetch : p.overfetch = 10 ↔ p.schools ≠ []
  fetchesOnce : p.schools = [] → p.overfetch = 1

/-- A plan says that it has school criteria exactly when it has. -/
theorem hasSchools_iff {p : Plan} (h : compile room raw = .ok p) :
    p.hasSchools = true ↔ p.schools ≠ [] := by
  rw [hasSchools_of_compile h, Bool.not_eq_true', List.isEmpty_eq_false_iff]

theorem overfetch_of_nil {p : Plan} (h : compile room raw = .ok p) (hnil : p.schools = []) :
    p.overfetch = 1 := by
  rw [overfetch_of_compile h, hasSchools_of_compile h, hnil]
  rfl

theorem overfetch_eq_ten_iff {p : Plan} (h : compile room raw = .ok p) :
    p.overfetch = 10 ↔ p.schools ≠ [] := by
  constructor
  · intro hten hnil
    rw [overfetch_of_nil h hnil] at hten
    cases hten
  · intro hne
    rw [overfetch_of_compile h, if_pos ((hasSchools_iff h).2 hne)]
    rfl

/-- **A plan keeps the school criteria as they were given.** -/
theorem captures_of_compile {p : Plan} (h : compile room raw = .ok p) : p.Captures raw := by
  have hschools := schools_of_compile h
  have hsublist : p.schools.Sublist raw := by
    rw [hschools]
    split
    · exact List.nil_sublist raw
    · exact List.filter_sublist
  exact {
    given := by
      intro hlookup key v
      rw [hschools, hlookup]
      exact mem_schoolCriteria
    lookup := fun hlookup => by rw [hschools, if_pos hlookup]
    inOrder := hsublist
    mapping := fun hraw => List.Nodup.sublist (hsublist.map Prod.fst) hraw
    hasSchools := hasSchools_iff h
    overfetch := overfetch_eq_ten_iff h
    fetchesOnce := overfetch_of_nil h }

/-! ## 3. What does not depend on them -/

/-- Filters that differ in school keys only are read alike. -/
theorem readsAlike_of_agree (h : ∀ key, ¬ IsSchoolKey key → get raw key = get raw' key) :
    ReadsAlike room raw raw' :=
  readsAlike_of_get fun key hkey => h key (not_isSchoolKey_of_mem hkey)

/-- Plans that differ in their school criteria only have one condition and the same statements. -/
theorem query_of_bare {p q : Plan} (h : p.bare = q.bare) :
    p.condition = q.condition ∧ p.order = q.order ∧ p.isLookup = q.isLookup ∧
      ∀ today limit offset,
        Sql.listingQuery p today limit offset = Sql.listingQuery q today limit offset ∧
        Sql.countQuery p today = Sql.countQuery q today := by
  obtain ⟨hterms, horder, hlookup⟩ := Plan.bare_eq_iff.1 h
  have hcondition : p.condition = q.condition := by rw [Plan.condition, hterms, Plan.condition]
  refine ⟨hcondition, horder, hlookup, fun today limit offset => ⟨?_, ?_⟩⟩
  · rw [Sql.listingQuery, hcondition, horder, Sql.listingQuery]
  · rw [Sql.countQuery, hcondition, Sql.countQuery]

/-- **School criteria are kept as they were given, and the query does not depend on them.**  The
criteria of a plan are the filters under school keys that say something, and the plan has them
exactly when it fetches ten times the rows.  Filters that differ in school keys only, however these
are changed, added or left out, are rejected alike, or have plans of one condition and order, whose
statements are the same. -/
theorem schools_captured (room : Room) (raw : Filters) :
    (∀ p, compile room raw = .ok p → p.Captures raw) ∧
      ∀ raw', (∀ key, ¬ IsSchoolKey key → get raw' key = get raw key) →
        (∀ e, compile room raw' = .error e ↔ compile room raw = .error e) ∧
        ∀ p p', compile room raw = .ok p → compile room raw' = .ok p' →
          p'.condition = p.condition ∧ p'.order = p.order ∧ p'.isLookup = p.isLookup ∧
          ∀ today limit offset,
            Sql.listingQuery p' today limit offset = Sql.listingQuery p today limit offset ∧
            Sql.countQuery p' today = Sql.countQuery p today := by
  refine ⟨fun p => captures_of_compile, fun raw' hagree => ?_⟩
  have hbare : (compile room raw').map Plan.bare = (compile room raw).map Plan.bare :=
    (readsAlike_of_agree hagree).compile_bare
  constructor
  · intro e
    rw [← map_bare_eq_error_iff, hbare, map_bare_eq_error_iff]
  · intro p p' hp hp'
    rw [hp, hp'] at hbare
    exact query_of_bare (Except.ok.inj hbare)

/-- Bedrooms, and schools in Newton; a school key that was left empty, and one that is none. -/
def newtonSchools : Filters :=
  [("school_district", .str "Newton"), ("beds", .str "3"), ("high_school", .list []),
    ("schools", .str "all"), ("elementary_school", .tuple [.str "Bowen", .null])]

/-- The same bedrooms, and no criterion. -/
def anySchools : Filters :=
  [("school_district", .str ""), ("beds", .str "3"), ("middle_school", .null),
    ("schools", .str "all")]

/-- Filters agree on the keys that are no school keys when they have the same fields there. -/
theorem agree_of_filter (h : (raw.filter fun f => !namesSchool f.1) =
    raw'.filter fun f => !namesSchool f.1) (key : String) (hkey : ¬ IsSchoolKey key) :
    get raw key = get raw' key := by
  have hkeep : (!namesSchool key) = true := by
    rw [Bool.not_eq_true', ← Bool.not_eq_true, namesSchool_iff]
    exact hkey
  rw [← get_filter (!namesSchool ·) hkeep raw, h, get_filter (!namesSchool ·) hkeep raw']

theorem schools_captured_newton :
    (∀ key, ¬ IsSchoolKey key → get anySchools key = get newtonSchools key) ∧
      ∃ p p', compile .standard newtonSchools = .ok p ∧ compile .standard anySchools = .ok p' ∧
        p.schools = [("school_district", .str "Newton"),
          ("elementary_school", .tuple [.str "Bowen", .null])] ∧
        p.overfetch = 10 ∧ p'.overfetch = 1 ∧ p'.condition = p.condition := by
  have hagree : ∀ key, ¬ IsSchoolKey key → get anySchools key = get newtonSchools key :=
    agree_of_filter rfl
  obtain ⟨p, hp⟩ : ∃ p, compile .standard newtonSchools = .ok p := ⟨_, rfl⟩
  obtain ⟨p', hp'⟩ : ∃ p, compile .standard anySchools = .ok p := ⟨_, rfl⟩
  obtain ⟨hcaptures, hapart⟩ := schools_captured .standard newtonSchools
  have hschools : p.schools = [("school_district", .str "Newton"),
      ("elementary_school", .tuple [.str "Bowen", .null])] := by
    cases hp
    rfl
  have hnone : p'.schools = [] := by
    cases hp'
    rfl
  have hten : p.overfetch = 10 := (hcaptures p hp).overfetch.2 (hschools ▸ List.cons_ne_nil _ _)
  have hone : p'.overfetch = 1 :=
    ((schools_captured .standard anySchools).1 p' hp').fetchesOnce hnone
  have hcondition : p'.condition = p.condition :=
    ((hapart anySchools hagree).2 p p' hp hp').1
  exact ⟨hagree, p, p', hp, hp', hschools, hten, hone, hcondition⟩

end Realty.Filter
