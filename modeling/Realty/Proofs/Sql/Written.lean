/-
# What a statement says

A statement names its values by parameters.  `Rendering.Writes` says that its text is a text with
slots in which every slot has been written as a parameter, and that the parameter has the value
of the slot.

* `step_writes`: one more piece leaves the parameters of the others alone.
* `ofPieces_writes`: the statement that pieces write is their text.

A parameter with a name of its own has the last value that was given for it.
-/
import Realty.Sql.Rendering
import Realty.Proofs.Sql.Reading

namespace Realty.Sql.Rendering

/-! ## 1. Texts with their values -/

/-- The characters write the text: each value that is bound is a numbered parameter of its own,
and the name of every other parameter has a value. -/
inductive Writes (r : Rendering) : List Symbol → List Char → Prop where
  | nil : Writes r [] []
  | char (c : Char) {s : List Symbol} {cs : List Char} :
      Writes r s cs → Writes r (.char c :: s) (c :: cs)
  | bind {b : Bind} {name : String} {s : List Symbol} {cs : List Char} :
      name ∈ r.numbered → r.params.lookup name = some b.value → Writes r s cs →
      Writes r (.slot (.bind b) :: s) ((placeholder name b.type).toList ++ cs)
  | list {b : Bind} {vs : List Value} {name : String} {s : List Symbol} {cs : List Char} :
      name ∈ r.numbered → r.params.lookup name = some b.value → Writes r s cs →
      Writes r (.slot (.list b vs) :: s) ((listPlaceholder b.type name).toList ++ cs)
  | named {name : String} {v : Value} {s : List Symbol} {cs : List Char} :
      (r.params.lookup name).isSome → Writes r s cs →
      Writes r (.slot (.named name v) :: s) ((placeholder name (.ofValue v)).toList ++ cs)

variable {r r' : Rendering}

theorem Writes.append {s t : List Symbol} {cs ds : List Char} (hs : Writes r s cs)
    (ht : Writes r t ds) : Writes r (s ++ t) (cs ++ ds) := by
  induction hs with
  | nil => exact ht
  | char c _ ih => exact .char c ih
  | bind hname hvalue _ ih =>
    rw [List.cons_append, List.append_assoc]
    exact .bind hname hvalue ih
  | list hname hvalue _ ih =>
    rw [List.cons_append, List.append_assoc]
    exact .list hname hvalue ih
  | named hvalue _ ih =>
    rw [List.cons_append, List.append_assoc]
    exact .named hvalue ih

theorem writes_chars (s : String) : Writes r (chars s) s.toList := by
  rw [chars]
  induction s.toList with
  | nil => exact .nil
  | cons c cs ih => exact .char c ih

/-! ## 2. One more piece -/

/-- A rendering with more parameters: numbered ones keep their values, the others stay. -/
structure Extends (r r' : Rendering) : Prop where
  numbered : ∀ name ∈ r.numbered, name ∈ r'.numbered
  value : ∀ name ∈ r.numbered, ∀ v, r.params.lookup name = some v → r'.params.lookup name = some v
  given : ∀ name, (r.params.lookup name).isSome → (r'.params.lookup name).isSome

theorem Writes.extend (h : Extends r r') {s : List Symbol} {cs : List Char}
    (hs : Writes r s cs) : Writes r' s cs := by
  induction hs with
  | nil => exact .nil
  | char c _ ih => exact .char c ih
  | bind hname hvalue _ ih => exact .bind (h.numbered _ hname) (h.value _ hname _ hvalue) ih
  | list hname hvalue _ ih => exact .list (h.numbered _ hname) (h.value _ hname _ hvalue) ih
  | named hvalue _ ih => exact .named (h.given _ hvalue) ih

theorem lookup_setParam_self (name : String) (v : Value) (ps : List (String × Value)) :
    (setParam name v ps).lookup name = some v := by
  induction ps with
  | nil => simp [setParam]
  | cons p ps ih =>
    rw [setParam]
    split
    · next h => simp [h]
    · next h =>
      have hne : (name == p.1) = false := by simpa using Ne.symm h
      rw [List.lookup_cons, hne]
      exact ih

theorem lookup_setParam_of_ne {name other : String} (hne : other ≠ name) (v : Value)
    (ps : List (String × Value)) : (setParam name v ps).lookup other = ps.lookup other := by
  have hother : (other == name) = false := by simpa using hne
  induction ps with
  | nil => rw [setParam, List.lookup_cons, hother]
  | cons p ps ih =>
    rw [setParam]
    split
    · next h =>
      subst h
      rw [List.lookup_cons, List.lookup_cons, hother]
    · rw [List.lookup_cons, List.lookup_cons, ih]

/-- **A numbered value gets a parameter of its own.** -/
theorem bindNumbered_writes {label : String} {v : Value} {text : String → String}
    (h : r.bindNumbered label v text = .ok r') :
    Extends r r' ∧ ∃ name, r'.sql = r.sql ++ text name ∧ name ∈ r'.numbered ∧
      r'.params.lookup name = some v := by
  simp only [bindNumbered] at h
  split at h
  · cases h
  · next hnew =>
    cases h
    have hnone : r.params.lookup (r.nextName label) = none := by
      refine List.lookup_eq_none_iff.2 fun p hp => ?_
      have hfree := List.any_eq_false.1 (Bool.not_eq_true _ ▸ hnew) p hp
      have hne : p.1 ≠ r.nextName label := by simpa using hfree
      simpa using hne.symm
    refine ⟨⟨fun name hname => List.mem_cons_of_mem _ hname, ?_, ?_⟩, r.nextName label, rfl,
      List.mem_cons_self, ?_⟩
    · intro name _ w hw
      simp [List.lookup_append, hw]
    · intro name hname
      obtain ⟨w, hw⟩ := Option.isSome_iff_exists.1 hname
      simp [List.lookup_append, hw]
    · simp [List.lookup_append, hnone]

theorem bindNamed_writes {name : String} {v : Value} (h : r.bindNamed name v = .ok r') :
    Extends r r' ∧ r'.sql = r.sql ++ placeholder name (.ofValue v) ∧
      (r'.params.lookup name).isSome := by
  unfold bindNamed at h
  split at h
  · cases h
  · next hnew =>
    cases h
    refine ⟨⟨fun _ h => h, ?_, ?_⟩, rfl, by simp [lookup_setParam_self]⟩
    · intro other hother w hw
      have hne : other ≠ name := by
        rintro rfl
        exact hnew (by simpa using hother)
      rw [lookup_setParam_of_ne hne, hw]
    · intro other hother
      by_cases hne : other = name
      · simp [hne, lookup_setParam_self]
      · rw [lookup_setParam_of_ne hne]
        exact hother

/-- **One more piece is written after the others**, and their parameters keep their values. -/
theorem step_writes {p : Piece} (h : r.step p = .ok r') :
    Extends r r' ∧ ∃ s, r'.sql = r.sql ++ s ∧ Writes r' p.symbols s.toList := by
  have hplain (s : String) (hs : r.append s = r') (hp : p.symbols = chars s) :
      Extends r r' ∧ ∃ s, r'.sql = r.sql ++ s ∧ Writes r' p.symbols s.toList := by
    subst hs
    rw [hp]
    exact ⟨⟨fun _ h => h, fun _ _ _ h => h, fun _ h => h⟩, s, rfl, writes_chars s⟩
  cases p with
  | text s => exact hplain s (Except.ok.inj h) rfl
  | conj => exact hplain " AND " (Except.ok.inj h) rfl
  | disj => exact hplain " OR " (Except.ok.inj h) rfl
  | opening => exact hplain "(" (Except.ok.inj h) rfl
  | closing => exact hplain ")" (Except.ok.inj h) rfl
  | bind b =>
    rw [step] at h
    obtain ⟨hext, name, hsql, hname, hvalue⟩ := bindNumbered_writes h
    refine ⟨hext, _, hsql, ?_⟩
    have hslot : Writes r' (.slot (.bind b) :: []) _ := .bind hname hvalue .nil
    rwa [List.append_nil] at hslot
  | list b vs =>
    rw [step] at h
    obtain ⟨hext, name, hsql, hname, hvalue⟩ := bindNumbered_writes h
    refine ⟨hext, _, hsql, ?_⟩
    have hslot : Writes r' (.slot (.list b vs) :: []) _ := .list hname hvalue .nil
    rwa [List.append_nil] at hslot
  | named name v =>
    obtain ⟨hext, hsql, hvalue⟩ := bindNamed_writes h
    refine ⟨hext, _, hsql, ?_⟩
    have hslot : Writes r' (.slot (.named name v) :: []) _ := .named hvalue .nil
    rwa [List.append_nil] at hslot

/-! ## 3. Statements -/

theorem run_writes {ps : List Piece} {s : List Symbol} (h : r.run ps = .ok r')
    (hs : Writes r s r.sql.toList) : Writes r' (s ++ symbols ps) r'.sql.toList := by
  induction ps generalizing r s with
  | nil =>
    cases h
    rwa [symbols_nil, List.append_nil]
  | cons p ps ih =>
    simp only [run] at h
    obtain ⟨r₁, hstep, h⟩ := bind_eq_ok_iff.1 h
    obtain ⟨hext, t, hsql, ht⟩ := step_writes hstep
    have hnext : Writes r₁ (s ++ p.symbols) r₁.sql.toList := by
      rw [hsql, String.toList_append]
      exact (hs.extend hext).append ht
    have hrest := ih h hnext
    rwa [List.append_assoc] at hrest

/-- **The statement that pieces write is their text.** -/
theorem ofPieces_writes {ps : List Piece} (h : ofPieces ps = .ok r) :
    Writes r (symbols ps) r.sql.toList := run_writes h .nil

end Realty.Sql.Rendering
