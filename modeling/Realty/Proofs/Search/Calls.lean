/-
# The calls of a search

A search that is executed fetches the listings of one window from the repository, and may have them
counted.

* `reach` is the window of a page; `IsCalled` says all that an execution calls for.
* `executePlain_isCalled` and `executeSchools_isCalled` say it of both kinds of searches, and
  `execute_isCalled` of whatever search its filters ask for.
* `execute_calls`: so a search that succeeds has called on the repository, and `fetch_of_execute`
  says which statement it has sent.
-/
import Realty.Search.Service

namespace Realty.Search

open Realty.Filter (Plan)
open Sql (Piece RenderError)

/-! ## 1. What an execution calls for -/

/-- The limit and the offset of a plan's statement for a page: with school criteria the candidates
up to the end of the page are fetched, several times over. -/
def reach (p : Plan) (n size : Int) : Int × Int :=
  if p.hasSchools then (n * size * p.overfetch, 0) else (size, offsetOf n size)

/-- The calls of an execution, given what becomes of its statement. -/
inductive IsCalled (made : Except RenderError (List Piece)) (limit offset : Int)
    (e : Execution) : Prop where
  /-- Without a statement it fails before any call. -/
  | unmade (cause : RenderError) : made = .error cause → e.outcome = .error (.render cause) →
      e.calls = [] → IsCalled made limit offset e
  /-- With a statement it fetches, and then only counts. -/
  | made (statement : List Piece) (countings : List (List Piece)) : made = .ok statement →
      e.calls = .fetch statement limit offset :: countings.map .count →
      IsCalled made limit offset e

namespace IsCalled

variable {made : Except RenderError (List Piece)} {limit offset : Int} {e : Execution}

theorem calls_ne_nil {result : Page} (h : IsCalled made limit offset e)
    (hresult : e.outcome = .ok result) : e.calls ≠ [] := by
  cases h with
  | unmade cause _ houtcome _ =>
    rw [houtcome] at hresult
    cases hresult
  | made statement countings _ hcalls =>
    rw [hcalls]
    exact List.cons_ne_nil _ _

theorem of_fetch {statement : List Piece} {l o : Int} (h : IsCalled made limit offset e)
    (hfetch : .fetch statement l o ∈ e.calls) :
    (l, o) = (limit, offset) ∧ made = .ok statement := by
  cases h with
  | unmade cause _ _ hcalls =>
    rw [hcalls] at hfetch
    cases hfetch
  | made statement' countings hmade hcalls =>
    rw [hcalls, List.mem_cons] at hfetch
    rcases hfetch with hfetch | hfetch
    · cases hfetch
      exact ⟨rfl, hmade⟩
    · obtain ⟨counting, -, hcount⟩ := List.mem_map.1 hfetch
      cases hcount

end IsCalled

/-! ## 2. Executions -/

variable {s : Service} {today : Date} {raw : Filters}

theorem executePlain_isCalled (s : Service) (today : Date) (p : Plan) (n size : Int) :
    IsCalled (Sql.listingQuery p today (.int size) (.int (offsetOf n size))) size
      (offsetOf n size) (s.executePlain today p n size) := by
  rw [Service.executePlain]
  cases Sql.listingQuery p today (.int size) (.int (offsetOf n size)) with
  | error cause => exact .unmade cause rfl rfl rfl
  | ok statement =>
    dsimp only
    cases s.repository.fetch statement size (offsetOf n size) with
    | error message => exact .made statement [] rfl rfl
    | ok rows =>
      cases Sql.countQuery p today with
      | error cause => exact .made statement [] rfl rfl
      | ok counting =>
        dsimp only
        cases s.repository.count counting with
        | error message => exact .made statement [counting] rfl rfl
        | ok total => exact .made statement [counting] rfl rfl

theorem executeSchools_isCalled (s : Service) (today : Date) (p : Plan) (n size : Int) :
    IsCalled (Sql.listingQuery p today (.int (n * size * p.overfetch)) (.int 0))
      (n * size * p.overfetch) 0 (s.executeSchools today p n size) := by
  rw [Service.executeSchools]
  cases Sql.listingQuery p today (.int (n * size * p.overfetch)) (.int 0) with
  | error cause => exact .unmade cause rfl rfl rfl
  | ok statement =>
    refine .made statement [] rfl ?_
    dsimp only
    cases s.repository.fetch statement (n * size * p.overfetch) 0 with
    | error message => rfl
    | ok candidates =>
      dsimp only
      split
      · rfl
      · rfl

/-- **A search of a plan fetches the window of its page.** -/
theorem execute_isCalled {p : Plan} (hp : Filter.compile s.room raw = .ok p) (n size : Int) :
    IsCalled (Sql.listingQuery p today (.int (reach p n size).1) (.int (reach p n size).2))
      (reach p n size).1 (reach p n size).2 (s.execute today raw n size) := by
  simp only [Service.execute, hp]
  split
  · next hschools =>
    rw [reach, if_pos hschools]
    exact executeSchools_isCalled s today p n size
  · next hschools =>
    rw [reach, if_neg hschools]
    exact executePlain_isCalled s today p n size

/-- **A search that is executed with success calls on the repository.** -/
theorem execute_calls {n size : Int} {result : Page}
    (h : (s.execute today raw n size).outcome = .ok result) :
    (s.execute today raw n size).calls ≠ [] := by
  cases hp : Filter.compile s.room raw with
  | error e =>
    rw [Service.execute, hp] at h
    cases h
  | ok p => exact (execute_isCalled hp n size).calls_ne_nil h

/-- What is fetched for a page. -/
theorem fetch_of_execute {n size : Int} {statement : List Piece} {limit offset : Int}
    (h : .fetch statement limit offset ∈ (s.execute today raw n size).calls) :
    ∃ p, Filter.compile s.room raw = .ok p ∧ (limit, offset) = reach p n size ∧
      Sql.listingQuery p today (.int limit) (.int offset) = .ok statement := by
  cases hp : Filter.compile s.room raw with
  | error e =>
    rw [Service.execute, hp] at h
    cases h
  | ok p =>
    obtain ⟨hreach, hmade⟩ := (execute_isCalled hp n size).of_fetch h
    cases hreach
    exact ⟨p, rfl, rfl, hmade⟩

end Realty.Search
