/-
# A number and its texts are one filter

* `grouped` puts thousands separators between digits.
* `WritesInt` is what a user may give for an integer: the number, or its text, with thousands
  separators or without, dollar signs in front of it and blanks around it.
* `number?_of_writesInt`: all of them say the double nearest to the integer, or nothing when there
  is none.
* `compile_writings`: so under a key that reads a number they compile alike, and an integer out of
  the range of the doubles compiles as if it were not given.
-/
import Realty.Proofs.Double.Range
import Realty.Proofs.Filter.Replaced

namespace Realty

open Text

/-! ## 1. Thousands separators -/

namespace Text

/-- Digits with a comma wherever some multiple of three of them is still to come. -/
def grouped : List Char → List Char
  | [] => []
  | d :: ds =>
    if ds ≠ [] ∧ ds.length % 3 = 0 then d :: ',' :: grouped ds else d :: grouped ds

/-- The decimal text of an integer with thousands separators. -/
def groupedInt (n : Int) : List Char :=
  (if n < 0 then ['-'] else []) ++ grouped (natDigits n.natAbs)

example : groupedInt (-1234567) = "-1,234,567".toList := by decide

/-- The separators leave the digits as they are. -/
theorem filter_grouped {ds : List Char} (h : AreDigits ds) :
    (grouped ds).filter (· ≠ ',') = ds := by
  induction ds with
  | nil => rfl
  | cons d ds ih =>
    have hrest := ih fun c hc => h c (List.mem_cons_of_mem d hc)
    have hne : d ≠ ',' := h.ne List.mem_cons_self rfl
    rw [grouped]
    split <;> simpa [hne] using hrest

theorem mem_grouped {ds : List Char} {c : Char} (h : c ∈ grouped ds) : c ∈ ds ∨ c = ',' := by
  induction ds with
  | nil => cases h
  | cons d ds ih =>
    rw [grouped] at h
    split at h <;> simp only [List.mem_cons] at h ⊢ <;> tauto

/-- The texts of an integer, with thousands separators or without. -/
def IsIntText (n : Int) (cs : List Char) : Prop := cs = intDigits n ∨ cs = groupedInt n

variable {n : Int} {cs : List Char}

theorem IsIntText.filter (h : IsIntText n cs) : cs.filter (· ≠ ',') = intDigits n := by
  rcases h with rfl | rfl
  · refine List.filter_eq_self.2 fun c hc => ?_
    rcases isDigit_or_minus_of_mem_intDigits hc with hdigit | rfl
    · have hne : c ≠ ',' := by
        rintro rfl
        cases hdigit
      simp [hne]
    · rfl
  · rw [groupedInt, intDigits_eq, List.filter_append, filter_grouped (areDigits_natDigits _)]
    split <;> rfl

theorem IsIntText.chars (h : IsIntText n cs) : ∀ c ∈ cs, c.isDigit = true ∨ c = '-' ∨ c = ',' := by
  intro c hc
  rcases h with rfl | rfl
  · exact (isDigit_or_minus_of_mem_intDigits hc).imp_right .inl
  · rcases List.mem_append.1 hc with hsign | hgrouped
    · split at hsign
      · exact .inr (.inl (List.mem_singleton.1 hsign))
      · cases hsign
    · exact (mem_grouped hgrouped).imp (areDigits_natDigits _ c) .inr

/-! ## 2. What the texts say -/

/-- Digits alone are read as the number that they write. -/
theorem readDecimal?_digits {ds : List Char} (hds : AreDigits ds) (hne : ds ≠ [])
    (negative : Bool) :
    Numeral.readDecimal? negative ds = some (.decimal negative (digitsValue ds) 0) := by
  have hrun := Double.digitRun_append hds Double.endsRun_nil
  rw [List.append_nil] at hrun
  simp [Numeral.readDecimal?, hrun, hne, Numeral.readExponent?, ofDigits_map]

/-- The decimal text of an integer is read as it. -/
theorem read?_intDigits (n : Int) :
    Numeral.read? (intDigits n) = some (.decimal (n < 0) n.natAbs 0) := by
  have hds := areDigits_natDigits n.natAbs
  obtain ⟨c, r, hstart, hdigit⟩ := hds.startsWithDigit (r := []) (natDigits_ne_nil _)
  rw [List.append_nil] at hstart
  have hread := Double.read?_signed ⟨c, r, hstart, hdigit⟩
    (fun c hc => Double.isFloatChar_of_isDigit (hds c hc)) (decide (n < 0))
  simp only [decide_eq_true_eq] at hread
  rw [intDigits_eq, hread, readDecimal?_digits hds (natDigits_ne_nil _), digitsValue_natDigits]

end Text

namespace Value

/-- What may be given for an integer: the number, or its text with dollar signs in front of it and
blanks around it. -/
inductive WritesInt (n : Int) : Value → Prop
  | number : WritesInt n (.int n)
  | text {left right cs : List Char} (dollars : Nat) (hcs : IsIntText n cs)
      (hleft : ∀ c ∈ left, Text.isBlank c = true) (hright : ∀ c ∈ right, Text.isBlank c = true) :
      WritesInt n (.str (String.ofList (left ++ (List.replicate dollars '$' ++ cs ++ right))))

theorem WritesInt.depth_eq {n : Int} {v : Value} (h : v.WritesInt n) : v.depth = 0 := by
  cases h <;> rfl

/-- What stands around the text of an integer is taken away. -/
theorem cleanNumber_eq {n : Int} {left right cs : List Char} (dollars : Nat) (hcs : IsIntText n cs)
    (hleft : ∀ c ∈ left, Text.isBlank c = true) (hright : ∀ c ∈ right, Text.isBlank c = true) :
    cleanNumber (String.ofList (left ++ (List.replicate dollars '$' ++ cs ++ right))) =
      intDigits n := by
  have hkept : ∀ c ∈ List.replicate dollars '$' ++ cs, Text.isBlank c = false := by
    intro c hc
    rcases List.mem_append.1 hc with hc | hc
    · rw [List.eq_of_mem_replicate hc]
      rfl
    · rcases hcs.chars c hc with hdigit | rfl | rfl
      · exact Double.isBlank_of_isFloatChar (Double.isFloatChar_of_isDigit hdigit)
      · rfl
      · rfl
  have htrim := (Text.bare_of_forall hkept).trimWhere_eq ⟨left, right, rfl, hleft, hright⟩
  have hdollars : (List.replicate dollars '$').filter (· ≠ ',') = List.replicate dollars '$' :=
    List.filter_eq_self.2 fun c hc => by
      rw [List.eq_of_mem_replicate hc]
      rfl
  have hdrop : (List.replicate dollars '$' ++ intDigits n).dropWhile (· = '$') = intDigits n := by
    refine Text.dropWhile_padded (fun c hc => ?_) fun c hc => ?_
    · simpa using List.eq_of_mem_replicate hc
    · rcases isDigit_or_minus_of_mem_intDigits (List.mem_of_mem_head? hc) with hdigit | rfl
      · refine decide_eq_false ?_
        rintro rfl
        cases hdigit
      · rfl
  rw [cleanNumber, String.toList_ofList, trim, htrim, List.filter_append, hdollars, hcs.filter,
    hdrop]

/-- **All that may be given for an integer says the double nearest to it.** -/
theorem number?_of_writesInt {n : Int} {v : Value} (h : v.WritesInt n) :
    v.number? = Double.ofInt? n := by
  cases h with
  | number => rfl
  | text dollars hcs hleft hright =>
    rw [number?, cleanNumber_eq dollars hcs hleft hright, read?_intDigits]
    rfl

end Value

/-! ## 3. Plans -/

namespace Filter

/-- The keys of the filters that read a number. -/
def numericKeys : List String :=
  ["min_price", "max_price", "beds", "baths", "sqft_min", "sqft_max", "lot_size_min",
    "lot_size_max", "year_built_min", "year_built_max", "min_dom", "max_dom", "new_listing_days",
    "garage_spaces_min", "parking_total_min"]

theorem mem_numericKeys_iff : ∀ f ∈ lookupFacets ++ facets,
    f.key ∈ numericKeys ↔ f.rule.isNumeric = true := by
  decide +kernel

/-- A rule that reads a number reads nothing else. -/
theorem Rule.condition_congr {r : Rule} (hr : r.isNumeric = true) {v v' : Value}
    (h : v.number? = v'.number?) : r.condition v = r.condition v' := by
  have hnonzero : nonzero? v = nonzero? v' := by rw [nonzero?, h, nonzero?]
  have hwhole : whole? v = whole? v' := by rw [whole?, hnonzero, whole?]
  cases r with
  | atLeast c => rw [condition, hwhole, condition]
  | atMost c => rw [condition, hwhole, condition]
  | lotAtLeast c => rw [condition, hnonzero, condition]
  | lotAtMost c => rw [condition, hnonzero, condition]
  | listedWithin c => rw [condition, hwhole, condition]
  | _ => cases hr

section Keys

variable {room : Room} {key : String} (hkey : key ∈ numericKeys)
include hkey

/-- Flat values that say one number are read alike under a key that reads a number. -/
theorem readsAlike_of_number? {v v' : Value} (h : v.number? = v'.number?) (hv : v.depth = 0)
    (hv' : v'.depth = 0) : ReadsAlike room [(key, v)] [(key, v')] := by
  have hne {k : String} (hk : k ∉ numericKeys) : key ≠ k := by
    rintro rfl
    exact hk hkey
  have hnumeric : ∀ f ∈ lookupFacets ++ facets, key = f.key → f.rule.isNumeric = true :=
    fun f hf hk => (mem_numericKeys_iff f hf).1 (hk ▸ hkey)
  have hfits : ∀ f ∈ facets, key = f.key → ∀ {u : Value}, u.depth = 0 →
      room.holds f.key (f.rule.listed u) = true := fun f hf hk _ hu =>
    Room.holds_flat fun w hw => by
      rwa [Rule.mem_listed_of_isNumeric
        (hnumeric f (List.mem_append_right lookupFacets hf) hk) hw]
  exact readsAlike_single (fun f hf hk => Rule.condition_congr (hnumeric f hf hk) h)
    (fun f hf hk => (hfits f hf hk hv).trans (hfits f hf hk hv').symm)
    (fun hk => absurd hk (hne (by decide))) (fun hk => absurd hk (hne (by decide)))
    (fun hk => absurd hk (hne (by decide))) (fun hk => absurd hk (hne (by decide)))

/-- Flat values that say one number compile alike under a key that reads a number. -/
theorem compile_of_number? {v v' : Value} (h : v.number? = v'.number?) (hv : v.depth = 0)
    (hv' : v'.depth = 0) (before after : Filters) :
    compile room (before ++ (key, v) :: after) = compile room (before ++ (key, v') :: after) := by
  have hschools : ∀ key ∈ numericKeys, namesSchool key = false := by decide
  exact compile_replaced (readsAlike_of_number? hkey h hv hv') (hschools key hkey) before after

/-- **A number and its texts are one filter.**  Whatever the other filters are, a plan is the same,
or the filters fail alike, with an integer given as a number, as its decimal text, with
thousands separators, with dollar signs in front or with blanks around it.  An integer as far from
zero as half-way between the largest double and the next power of two counts as not given. -/
theorem compile_writings {n : Int} {v v' : Value} (hv : v.WritesInt n) (hv' : v'.WritesInt n)
    (before after : Filters) :
    compile room (before ++ (key, v) :: after) = compile room (before ++ (key, v') :: after) ∧
      (2 ^ 1024 - 2 ^ 970 ≤ n.natAbs → (∀ f ∈ after, f.1 ≠ key) →
        compile room (before ++ (key, v) :: after) = compile room (before ++ after)) := by
  have hnumber := Value.number?_of_writesInt hv
  constructor
  · exact compile_of_number? hkey (hnumber.trans (Value.number?_of_writesInt hv').symm) hv.depth_eq
      hv'.depth_eq before after
  · intro hlarge hafter
    have hnull : v.number? = Value.null.number? :=
      hnumber.trans ((Double.ofInt?_eq_none_iff n).2 hlarge)
    rw [compile_of_number? hkey hnull hv.depth_eq rfl, compile_null hafter]

end Keys

/-- A price with all that may stand around it, and the least one that is out of range. -/
theorem compile_writings_paddedPrice :
    Value.WritesInt 1250000 (.str " $$1,250,000\t") ∧
      compile .standard [("city", .str "Newton"), ("min_price", .str " $$1,250,000\t"),
          ("beds", .int 3)] =
        compile .standard [("city", .str "Newton"), ("min_price", .int 1250000),
          ("beds", .int 3)] ∧
      compile .standard [("city", .str "Newton"), ("min_price", .int (2 ^ 1024 - 2 ^ 970 : Nat)),
          ("beds", .int 3)] =
        compile .standard [("city", .str "Newton"), ("beds", .int 3)] := by
  have hkey : "min_price" ∈ numericKeys := by decide
  have hgrouped : Text.groupedInt 1250000 = "1,250,000".toList := by decide
  have htext : Value.WritesInt 1250000 (.str " $$1,250,000\t") := by
    have h := Value.WritesInt.text 2 (.inr rfl : Text.IsIntText 1250000 _)
      (List.forall_mem_singleton.2 (rfl : Text.isBlank ' ' = true))
      (List.forall_mem_singleton.2 (rfl : Text.isBlank '\t' = true))
    rw [hgrouped] at h
    exact h
  have hlarge : 2 ^ 1024 - 2 ^ 970 ≤ ((2 ^ 1024 - 2 ^ 970 : Nat) : Int).natAbs :=
    (Int.natAbs_natCast _).ge
  have habsent : ∀ n : Int, 2 ^ 1024 - 2 ^ 970 ≤ n.natAbs →
      compile .standard [("city", .str "Newton"), ("min_price", .int n), ("beds", .int 3)] =
        compile .standard [("city", .str "Newton"), ("beds", .int 3)] := fun n hn =>
    (compile_writings hkey .number (.number (n := n)) [("city", .str "Newton")]
      [("beds", .int 3)]).2 hn (by decide)
  exact ⟨htext, (compile_writings hkey htext .number [("city", .str "Newton")]
    [("beds", .int 3)]).1, habsent _ hlarge⟩

end Filter

end Realty
