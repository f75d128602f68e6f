/-
# Searches that share a key

A page is cached under the text of its filters, which does not tell the kinds of their values.

* `cacheKey_eq_iff`: pages share a key exactly when they have one number and one size and the same
  is left of their filters.
* `sharedKey_plans`: filters that share a key have equal plans when they are equal wherever a
  filter is not read from what its text keeps.
* `decimalNumber_sharesKey`: otherwise they need not: a decimal shares the key of its text.
-/
import Realty.Proofs.Filter.Lookup
import Realty.Proofs.Filter.Written
import Realty.Proofs.Search.Session

namespace Realty.Search

open Realty.Filter
open Json (IsCut)

variable {raw raw' : Filters} {page perPage page' perPage' : Int}

/-! ## 1. Keys -/

/-- **Pages share a key** exactly when they have one number and one size, and the same is left of
their filters. -/
theorem cacheKey_eq_iff : cacheKey raw page perPage = cacheKey raw' page' perPage' ↔
    (Value.object raw).written = (Value.object raw').written ∧ page = page' ∧
      perPage = perPage' := by
  constructor
  · intro h
    have htext := congrArg String.toList h
    rw [toList_cacheKey, toList_cacheKey] at htext
    have hcut : ∀ r, IsCut (':' :: r) := Json.isCut_cons rfl
    obtain ⟨hwritten, hrest⟩ :=
      Json.written_of_encode_append (hcut _) (hcut _) (List.append_cancel_left htext)
    exact ⟨hwritten, pageText_injective (List.cons.inj hrest).2⟩
  · rintro ⟨hwritten, rfl, rfl⟩
    rw [cacheKey, Json.encode_eq_iff.2 hwritten, cacheKey]

/-! ## 2. Plans -/

/-- **Filters that share a key have equal plans**, or are rejected alike, provided that they are
equal wherever a filter is not read from what its text keeps.  The page number and the page size
are always told. -/
theorem sharedKey_plans (hraw : IsMapping raw) (hraw' : IsMapping raw')
    (hkey : cacheKey raw page perPage = cacheKey raw' page' perPage') :
    page = page' ∧ perPage = perPage' ∧
      (AreToldFilters raw raw' →
        ∀ room, EqualOutcomes (compile room raw) (compile room raw')) := by
  obtain ⟨hwritten, hpage, hperPage⟩ := cacheKey_eq_iff.1 hkey
  exact ⟨hpage, hperPage, fun h room => compile_of_written_eq room hraw hraw' h hwritten⟩

/-- A city in a list with a decimal number. -/
def listedCities : Filters :=
  [("city", .list [.str "Austin", .decimal (.finite false 15 (-1))]), ("beds", .int 3),
    ("school_district", .str "Newton")]

/-- The same with the text of the number, in a tuple. -/
def tupledCities : Filters :=
  [("city", .tuple [.str "Austin", .str "1.5"]), ("beds", .int 3),
    ("school_district", .str "Newton")]

theorem get_cities {key : String} (h : key ≠ "city") :
    get listedCities key = get tupledCities key := by
  simp only [Filter.get, listedCities, tupledCities, List.lookup_cons, beq_false_of_ne h]

theorem areTold_cities : AreToldFilters listedCities tupledCities where
  facets f _ := by
    by_cases hkey : f.key = "city"
    · have hlist : (get listedCities "city").HasPlainItems :=
        List.forall_mem_cons.2 ⟨Or.inr (.str _),
          List.forall_mem_cons.2 ⟨Or.inl rfl, fun _ h => nomatch h⟩⟩
      have htuple : (get tupledCities "city").HasPlainItems :=
        List.forall_mem_cons.2 ⟨Or.inr (.str _),
          List.forall_mem_cons.2 ⟨Or.inr (.str _), fun _ h => nomatch h⟩⟩
      rw [hkey]
      exact Or.inr ⟨⟨rfl, fun _ => hlist⟩, ⟨rfl, fun _ => htuple⟩⟩
    · exact Or.inl (get_cities hkey)
  status := Or.inl (get_cities (by decide))
  sort := Or.inl (get_cities (by decide))
  bounds := Or.inl (get_cities (by decide))
  polygon := Or.inl (get_cities (by decide))
  schools f hf g hg hkey hschool := by
    have hnewton : ∀ f ∈ listedCities ++ tupledCities, namesSchool f.1 = true →
        f = ("school_district", .str "Newton") := by
      have hcity : namesSchool "city" = false := by decide +kernel
      have hbeds : namesSchool "beds" = false := by decide +kernel
      simp [listedCities, tupledCities, hcity, hbeds]
    rw [hnewton f (List.mem_append_left _ hf) hschool,
      hnewton g (List.mem_append_right _ hg) (hkey ▸ hschool)]
    exact ⟨Or.inl rfl, fun _ => rfl⟩

theorem sharedKey_plans_cities :
    cacheKey listedCities 1 25 = cacheKey tupledCities 1 25 ∧
      EqualOutcomes (compile .standard listedCities) (compile .standard tupledCities) := by
  have htext : (Decimal.finite false 15 (-1)).text = "1.5" := by decide +kernel
  have hwritten : (Value.object listedCities).written = (Value.object tupledCities).written := by
    simp only [Value.written, Value.writtenItems, Value.writtenFields, listedCities, tupledCities,
      htext]
  have hkey : cacheKey listedCities 1 25 = cacheKey tupledCities 1 25 :=
    cacheKey_eq_iff.2 ⟨hwritten, rfl, rfl⟩
  exact ⟨hkey, (sharedKey_plans (by decide) (by decide) hkey).2.2 areTold_cities .standard⟩

/-! ## 3. Kinds that are not told -/

/-- **A decimal or a date always shares the key of its text.** -/
theorem cacheKey_foreign {v : Value} (h : v.isForeign = true) (key : String) (rest : Filters)
    (page perPage : Int) :
    cacheKey ((key, v) :: rest) page perPage =
      cacheKey ((key, .str v.text) :: rest) page perPage := by
  refine cacheKey_eq_iff.2 ⟨?_, rfl, rfl⟩
  rw [Value.written, Value.writtenFields, Value.written_of_isForeign h, Value.written,
    Value.writtenFields, Value.written]

/-- A listing number as text. -/
def numberText : Filters := [("mls_number", .str "73000001")]

/-- The same number as a decimal. -/
def numberDecimal : Filters := [("mls_number", .decimal (.finite false 73000001 0))]

/-- A decimal has the key of its text, but only the text names a listing: the one search looks it
up, the other shows what is active. -/
theorem decimalNumber_sharesKey :
    cacheKey numberText 1 25 = cacheKey numberDecimal 1 25 ∧
      ∃ p q, compile .standard numberText = .ok p ∧ compile .standard numberDecimal = .ok q ∧
        p.isLookup = true ∧ q.isLookup = false ∧
        ¬ EqualOutcomes (compile .standard numberText) (compile .standard numberDecimal) := by
  have htext : (Decimal.finite false 73000001 0).text = "73000001" := by decide +kernel
  have hkey : cacheKey numberText 1 25 = cacheKey numberDecimal 1 25 := by
    rw [numberDecimal, cacheKey_foreign rfl, Value.text, htext, numberText]
  obtain ⟨p, hp, hlookup⟩ : ∃ p, compile .standard numberText = .ok p ∧ p.isLookup = true :=
    ⟨_, rfl, rfl⟩
  obtain ⟨q, hq, hfacets⟩ : ∃ q, compile .standard numberDecimal = .ok q ∧ q.isLookup = false :=
    ⟨_, rfl, rfl⟩
  refine ⟨hkey, p, q, hp, hq, hlookup, hfacets, ?_⟩
  rw [hp, hq]
  rintro (- | hequal)
  rw [hequal.isLookup, hfacets] at hlookup
  cases hlookup

end Realty.Search
