/-
# The cache of result pages

The cache holds pages by key with the time they were stored, oldest first.  Several services may
share it, each with a lifetime and a capacity of its own.  Times are whole numbers of some unit, as
small as one likes: only their order and their differences matter.

* `Cache.hit?` is the page of a key, if it was stored less than a lifetime ago.
* `Cache.store` drops what is older than the lifetime, the previous page of the key, and then the
  oldest pages over the capacity, before it adds the new page at the end; a service without
  lifetime or capacity adds nothing.
* A key is stored at most once (`nodup_keys_store`).
-/

namespace Realty

/-- A page with its key and the time it was stored. -/
structure Cache.Entry (α : Type) where
  key : String
  storedAt : Int
  page : α
deriving Repr

/-- The pages that are kept, oldest first. -/
abbrev Cache (α : Type) := List (Cache.Entry α)

namespace Cache

variable {α : Type}

/-- Whether an entry was stored less than a lifetime ago. -/
def Entry.isFresh (now lifetime : Int) (e : Entry α) : Bool := decide (now - e.storedAt < lifetime)

/-- The page of a key, if it is fresh. -/
def hit? (c : Cache α) (now lifetime : Int) (key : String) : Option α :=
  match List.find? (fun e => e.key == key) c with
  | some e => if e.isFresh now lifetime then some e.page else none
  | none => none

/-- The entries that are left when the oldest go, one by one, until there is room for one more. -/
def makeRoom (capacity : Int) : Cache α → Cache α
  | [] => []
  | e :: c => if capacity ≤ (e :: c).length then makeRoom capacity c else e :: c

/-- The entries that stay when a page is stored. -/
def retained (c : Cache α) (now lifetime capacity : Int) (key : String) : Cache α :=
  makeRoom capacity ((c.filter (Entry.isFresh now lifetime)).filter fun e => e.key != key)

/-- The cache with a page added: what `_store` leaves. -/
def store (c : Cache α) (now lifetime capacity : Int) (key : String) (page : α) : Cache α :=
  let kept := c.retained now lifetime capacity key
  if 0 < capacity && 0 < lifetime then kept ++ [⟨key, now, page⟩] else kept

/-- The keys of a cache, oldest first. -/
def keys (c : Cache α) : List String := c.map (·.key)

/-! ## Laws -/

theorem makeRoom_sublist (capacity : Int) (c : Cache α) : (makeRoom capacity c).Sublist c := by
  induction c with
  | nil => exact List.Sublist.refl _
  | cons e c ih =>
    unfold makeRoom
    split
    · exact ih.cons e
    · exact List.Sublist.refl _

theorem retained_sublist (c : Cache α) (now lifetime capacity : Int) (key : String) :
    (c.retained now lifetime capacity key).Sublist c :=
  (makeRoom_sublist ..).trans (List.filter_sublist.trans List.filter_sublist)

theorem ne_of_mem_retained {c : Cache α} {now lifetime capacity : Int} {key : String}
    {e : Entry α} (h : e ∈ c.retained now lifetime capacity key) : e.key ≠ key := by
  have := (List.mem_filter.1 ((makeRoom_sublist ..).subset h)).2
  simpa using this

/-- Keys stay unique. -/
theorem nodup_keys_store {c : Cache α} (h : c.keys.Nodup) (now lifetime capacity : Int)
    (key : String) (page : α) : (c.store now lifetime capacity key page).keys.Nodup := by
  have hkept : (c.retained now lifetime capacity key).keys.Nodup :=
    h.sublist ((retained_sublist ..).map _)
  unfold store
  simp only
  split
  · unfold keys at *
    rw [List.map_append, List.nodup_append]
    refine ⟨hkept, by simp, ?_⟩
    intro a ha b hb
    obtain ⟨e, he, rfl⟩ := List.mem_map.1 ha
    simp only [List.map_cons, List.map_nil, List.mem_singleton] at hb
    exact hb ▸ ne_of_mem_retained he
  · exact hkept

end Cache

end Realty
