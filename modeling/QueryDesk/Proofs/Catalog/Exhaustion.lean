/-
Module: QueryDesk.Proofs.Catalog.Exhaustion
Purpose: When an introspection says that its budget is exhausted. It says so at its deadline, and also
  before when a listing fails with a timeout of the driver, which is taken for the end of the budget. A
  listing that fails in time otherwise counts as an empty one.
Imports: QueryDesk.Proofs.Catalog.Omissions
Main exports: complete_iff_ofPool, ListingTimesOut, reason_of_listings, introspect_reason,
  introspect_exhausted, introspect_exhausted_early
-/
import QueryDesk.Proofs.Catalog.Omissions

namespace QueryDesk.Catalog

open QueryDesk.Number QueryDesk.Sql

variable {start : Rat} {dialect : Dialect} {engine : Engine} {connection : Connection}
  {budget : Binary64} {concurrency : Int} {tables views : List RelationRef}

/-- A described introspection is complete when it ends without a warning, and only then. -/
theorem complete_iff_ofPool (budget : Binary64) (deadline : Option Rat) (progress : Progress)
    (now : Rat) (pool : Pool (Option Relation)) :
    let found := Introspection.ofPool budget deadline progress now pool
    found.complete = true ↔ found.warnings = [] := by
  simp only [Introspection.ofPool]
  cases pool.pending == 0 <;> simp

/-! ### What a missing listing tells

A listing that comes to nothing at all is taken for the end of the budget. The deadline is one reason for
it; the other one is a driver that gives up on its own, which says the same with the same failure. -/

/-- A listing fails before the deadline with a failure that says that time ran out: the driver has a limit
of its own. -/
def ListingTimesOut (start : Rat) (engine : Engine) (connection : Connection) (budget : Binary64) :
    Prop :=
  ∃ failure, failure.kind = .timeout ∧
    (FailsInTime (deadlineAfter start budget) (testedFrom start engine connection).now
        (connection.traceOf .tables engine.tables) failure ∨
      FailsInTime (deadlineAfter start budget)
        (tablesListedFrom start engine connection budget).2.now
        (connection.traceOf .views engine.views) failure)

/-- When a listing is out of time, the deadline is reached at the end of the listings, or the driver has
run out of time. -/
theorem reason_of_listings
    (out : (tablesListedFrom start engine connection budget).1 = none ∨
      (viewsListedFrom start engine connection budget).1 = none) :
    (∃ limit ∈ deadlineAfter start budget,
      limit ≤ (viewsListedFrom start engine connection budget).2.now) ∨
    ListingTimesOut start engine connection budget := by
  -- A deadline that has passed after the tables has also passed after the views.
  have onward : (tablesListedFrom start engine connection budget).2.now ≤
      (viewsListedFrom start engine connection budget).2.now :=
    le_now_listWithin (waits_traceOf connection .views engine.views)
  rcases out with tablesOut | viewsOut
  · rcases reason_of_listWithin tablesOut with ⟨failure, timeout, fails⟩ | ⟨limit, budgeted, late⟩
    · exact .inr ⟨failure, timeout, .inl fails⟩
    · exact .inl ⟨limit, budgeted, late.trans onward⟩
  · rcases reason_of_listWithin viewsOut with ⟨failure, timeout, fails⟩ | ⟨limit, budgeted, late⟩
    · exact .inr ⟨failure, timeout, .inr fails⟩
    · exact .inl ⟨limit, budgeted, late⟩

/-- An introspection that is not complete has reached its deadline, or the driver has run out of time. -/
theorem introspect_reason (start : Rat) (dialect : Dialect) (connection : Connection)
    (budget : Binary64) (enough : 1 ≤ concurrency) :
    ∃ found, introspectFrom start (.ofDialect dialect) connection budget concurrency = .ok found ∧
      (found.complete = true ↔ found.warnings = []) ∧
      (found.complete = false →
        (∃ limit ∈ deadlineAfter start budget, limit ≤ found.progress.now) ∨
        ListingTimesOut start (.ofDialect dialect) connection budget) := by
  rcases introspectFrom_cases start dialect connection budget enough with
    ⟨-, course⟩ | ⟨out, course⟩ | ⟨tables, views, listed⟩
  · exact ⟨_, course, by simp [Introspection.empty], fun incomplete => by cases incomplete⟩
  · exact ⟨_, course, by simp [Introspection.empty], fun _ => reason_of_listings out⟩
  · obtain ⟨schedule, now, pool, -, -, late, course⟩ := listed.exists_schedule enough
    refine ⟨_, course, complete_iff_ofPool _ _ _ _ pool, fun incomplete => .inl (late ?_)⟩
    exact beq_eq_false_iff_ne.1 incomplete

/-- An introspection that is not complete, which is one with a warning, has reached its deadline, or a
listing has failed before with a timeout of the driver. When a listing fails in time in another way, what
the other one lists is described as if the first were empty. -/
theorem introspect_exhausted (start : Rat) (dialect : Dialect) (connection : Connection)
    (budget : Binary64) (enough : 1 ≤ concurrency) :
    let engine := Engine.ofDialect dialect
    let deadline := deadlineAfter start budget
    let tested := (testedFrom start engine connection).now
    let listed := (tablesListedFrom start engine connection budget).2.now
    ∃ found, introspectFrom start engine connection budget concurrency = .ok found ∧
      (found.complete = true ↔ found.warnings = []) ∧
      (found.complete = false → (∃ limit ∈ deadline, limit ≤ found.progress.now) ∨
        ListingTimesOut start engine connection budget) ∧
      ((connection.traceOf .probe engine.probe).outcome = .ok true →
        ∀ failure, failure.kind ≠ .timeout →
          (FailsInTime deadline tested (connection.traceOf .tables engine.tables) failure →
            ∀ views, ListsInTime deadline listed (connection.traceOf .views engine.views) views →
              ∃ left, found.Describes engine connection deadline left [] views) ∧
          (FailsInTime deadline listed (connection.traceOf .views engine.views) failure →
            ∀ tables, ListsInTime deadline tested (connection.traceOf .tables engine.tables) tables →
              ∃ left, found.Describes engine connection deadline left tables [])) := by
  intro engine deadline tested listed
  obtain ⟨found, course, warned, reason⟩ := introspect_reason start dialect connection budget enough
  refine ⟨found, course, warned, reason, fun works failure another => ⟨?_, ?_⟩⟩
  · intro fails views viewsListed
    have both : ListsBoth start engine connection budget [] views :=
      ⟨works, fails.listsInTime another, viewsListed⟩
    exact both.describes enough course
  · intro fails tables tablesListed
    have both : ListsBoth start engine connection budget tables [] :=
      ⟨works, tablesListed, fails.listsInTime another⟩
    exact both.describes enough course

/-- A connection that lists a view, and whose driver fails to list tables with a failure of a kind. -/
def failingConnection (kind : FailureKind) : Connection := fun site _ =>
  { answer :=
      match site.phase with
      | .tables => .error (.ofMessage kind "statement timeout")
      | .views =>
        .ok (.list [.mapping [(.name "table_name", .text "v"),
          (.name "view_definition", .text "select 1")]])
      | _ => .ok (.list []) }

/-- The view that it lists. -/
def failingViews : List RelationRef :=
  [{ name := "v", definition := some "select 1" }]

theorem viewsListed_failing :
    ListsInTime (deadlineAfter 0 (.ofInt 60))
      (tablesListedFrom 0 (.ofDialect .mysql) (failingConnection .runtime) (.ofInt 60)).2.now
      ((failingConnection .runtime).traceOf .views (Engine.ofDialect .mysql).views) failingViews :=
  ⟨by decide +kernel, by decide +kernel⟩

/-- When the driver fails to list tables in time, the view is found. -/
theorem introspect_exhausted_of_runtime :
    (1 : Int) ≤ 4 ∧
    ∃ found, introspectFrom 0 (.ofDialect .mysql) (failingConnection .runtime) (.ofInt 60) 4 =
        .ok found ∧
      found.complete = true ∧ found.warnings = [] ∧
      ∃ item ∈ found.schema.views, item.key = RelationRef.key { name := "v" } := by
  have whole : (introspectFrom 0 (.ofDialect .mysql) (failingConnection .runtime)
      (.ofInt 60) 4).toOption.map (fun found => found.complete) = some true := by decide +kernel
  have fails : FailsInTime (deadlineAfter 0 (.ofInt 60))
      (testedFrom 0 (.ofDialect .mysql) (failingConnection .runtime)).now
      ((failingConnection .runtime).traceOf .tables (Engine.ofDialect .mysql).tables)
      (.ofMessage .runtime "statement timeout") := ⟨by decide +kernel, rfl⟩
  have works : ¬ Raises (failingConnection .runtime) (.relation 0)
      (Engine.mysql.describeView { name := "v", definition := some "select 1" }) := by
    rw [(Engine.straight_mysql.describeView _).raises_iff_isSome]
    decide +kernel
  obtain ⟨found, course, warned, -, others⟩ :=
    @introspect_exhausted 4 0 .mysql (failingConnection .runtime) (.ofInt 60) (by decide)
  obtain ⟨left, complete, -, -, views⟩ :=
    (others rfl _ (by decide)).1 fails failingViews viewsListed_failing
  rw [course] at whole
  have ended : found.complete = true := Option.some.inj whole
  obtain rfl : left = ∅ := complete.1 ended
  refine ⟨by decide, found, course, ended, warned.1 ended, ?_⟩
  exact (views.present_iff 0 { name := "v", definition := some "select 1" } (by decide)).2
    ⟨Finset.notMem_empty _, works⟩

/-- When it fails with a timeout, the introspection says at once that its budget is exhausted, and the view
is lost. -/
theorem introspect_exhausted_early :
    ∃ found, introspectFrom 0 (.ofDialect .mysql) (failingConnection .timeout) (.ofInt 60) 4 =
        .ok found ∧
      ListsInTime (deadlineAfter 0 (.ofInt 60))
        (tablesListedFrom 0 (.ofDialect .mysql) (failingConnection .timeout) (.ofInt 60)).2.now
        ((failingConnection .timeout).traceOf .views (Engine.ofDialect .mysql).views) failingViews ∧
      found.complete = false ∧ found.schema.views.isEmpty = true ∧
      ¬ ∃ limit ∈ deadlineAfter 0 (.ofInt 60), limit ≤ found.progress.now := by
  have told : (introspectFrom 0 (.ofDialect .mysql) (failingConnection .timeout)
      (.ofInt 60) 4).toOption.map (fun found =>
        (found.complete, found.schema.views.isEmpty, found.progress.now)) = some (false, true, 0) := by
    decide +kernel
  have sixty : deadlineAfter 0 (.ofInt 60) = some 60 := by decide +kernel
  obtain ⟨found, course, -⟩ :=
    @introspect_reason 4 0 .mysql (failingConnection .timeout) (.ofInt 60) (by decide)
  rw [course] at told
  simp only [Except.toOption, Option.map_some, Option.some.injEq, Prod.mk.injEq] at told
  obtain ⟨incomplete, lost, early⟩ := told
  refine ⟨found, course, ⟨by decide +kernel, by decide +kernel⟩, incomplete, lost, ?_⟩
  rintro ⟨limit, budgeted, late⟩
  rw [sixty] at budgeted
  cases budgeted
  rw [early] at late
  norm_num at late

end QueryDesk.Catalog
