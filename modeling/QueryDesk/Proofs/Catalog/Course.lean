/-
Module: QueryDesk.Proofs.Catalog.Course
Purpose: The course of an introspection up to the descriptions. Whatever the connection answers, and
  when, an introspection with a worker comes to an end in one of three ways: its test finds that the
  connection does not work, a listing does not come back in time, or both listings do.
Imports: QueryDesk.Proofs.Catalog.Determined
Main exports: testedFrom, tablesListedFrom, viewsListedFrom, ListsInTime, FailsInTime, ListsBoth,
  listWithin_cases, reason_of_listWithin, introspectFrom_cases, ListsBoth.introspectFrom_eq,
  ListsBoth.failureReports_eq
-/
import QueryDesk.Proofs.Catalog.Determined

namespace QueryDesk.Catalog

open QueryDesk.Number

variable {start : Rat} {dialect : Dialect} {engine : Engine} {connection : Connection}
  {budget : Binary64} {concurrency : Int} {deadline : Option Rat} {progress : Progress}
  {kind : String} {listing : Trace (List RelationRef)} {refs tables views : List RelationRef}

/-! ### Listings and the deadline

A listing can end before the deadline with relations, before it with a failure, or not at all. The middle
case is split by the kind of the failure: one that says that time ran out is taken for the end of the
budget, and every other one for an empty listing. -/

/-- A listing is over before the deadline, and comes to relations. -/
structure ListsInTime (deadline : Option Rat) (now : Rat) (listing : Trace (List RelationRef))
    (refs : List RelationRef) : Prop where
  inTime : (remaining deadline now).allows listing.duration = true
  lists : Lists listing.outcome refs

/-- A listing fails before the deadline. -/
structure FailsInTime (deadline : Option Rat) (now : Rat) (listing : Trace (List RelationRef))
    (failure : Failure) : Prop where
  inTime : (remaining deadline now).allows listing.duration = true
  fails : listing.outcome = .error failure

/-- A listing that fails in time counts as an empty one, unless its failure says that time ran out. -/
theorem FailsInTime.listsInTime {now : Rat} {failure : Failure}
    (fails : FailsInTime deadline now listing failure) (other : failure.kind ≠ .timeout) :
    ListsInTime deadline now listing [] :=
  ⟨fails.inTime, fails.fails ▸ .failed failure other⟩

/-- A listing that is over in time leaves one entry in the log. -/
theorem ListsInTime.listWithin_eq (listed : ListsInTime deadline progress.now listing refs)
    (kind : String) :
    ∃ entry : LogEvent, reportsFailure entry.event = false ∧
      listWithin kind listing deadline progress =
        (some refs, ⟨progress.now + listing.duration,
          progress.happened ++ listing.happenings ++ [.logged entry]⟩) := by
  have inTime := listed.inTime
  rcases listed.lists.cases with ok | ⟨failure, error, other, rfl⟩
  · refine ⟨{ level := .info, event := s!"Found {refs.length} {kind}" }, ?_, ?_⟩
    · simp only [String.append_assoc]
      exact reportsFailure_append rfl
    · simp only [listWithin, inTime, ok, if_true, Progress.log]
  · refine ⟨{ level := .warning, event := s!"Failed to list {kind}: {failure.text}",
              context := [(.name "error", .text failure.text)] }, ?_, ?_⟩
    · simp only [String.append_assoc]
      exact reportsFailure_append rfl
    · simp only [listWithin, inTime, error, if_true, if_neg other, Progress.log]

/-- A wait that uses up the time that is left ends at the deadline, or after it. -/
theorem le_limitEnd (now limit : Rat) : limit ≤ limitEnd now (remaining (some limit) now) := by
  have least : limit - now ≤ later (limit - now) 0 := by
    unfold later
    split
    next small => exact small
    next => exact le_refl _
  change limit ≤ now + later (limit - now) 0
  linarith

/-- How a listing ends: in time and with relations, in time but as one that is out of time, or at the
deadline. -/
theorem listWithin_cases (kind : String) (listing : Trace (List RelationRef))
    (deadline : Option Rat) (progress : Progress) :
    (∃ refs, ListsInTime deadline progress.now listing refs) ∨
    ((listWithin kind listing deadline progress).1 = none ∧
      ((∃ failure, failure.kind = .timeout ∧
          FailsInTime deadline progress.now listing failure) ∨
        ∃ limit ∈ deadline, limit ≤ (listWithin kind listing deadline progress).2.now)) := by
  cases inTime : (remaining deadline progress.now).allows listing.duration with
  | true =>
    cases outcome : listing.outcome with
    | ok refs => exact .inl ⟨refs, inTime, outcome ▸ .found refs⟩
    | error failure =>
      by_cases timeout : failure.kind = .timeout
      · refine .inr ⟨?_, .inl ⟨failure, timeout, inTime, outcome⟩⟩
        simp only [listWithin, inTime, outcome, if_true, if_pos timeout]
      · exact .inl ⟨[], inTime, outcome ▸ .failed failure timeout⟩
  | false =>
    refine .inr ⟨?_, .inr ?_⟩
    · simp only [listWithin, inTime, Bool.false_eq_true, if_false]
    · cases deadline with
      | none => cases inTime
      | some limit =>
        refine ⟨limit, rfl, ?_⟩
        simp only [listWithin, inTime, Bool.false_eq_true, if_false]
        exact le_limitEnd progress.now limit

/-- A listing that comes to nothing at all has failed as one that is out of time, or is out of time. -/
theorem reason_of_listWithin (out : (listWithin kind listing deadline progress).1 = none) :
    (∃ failure, failure.kind = .timeout ∧ FailsInTime deadline progress.now listing failure) ∨
      ∃ limit ∈ deadline, limit ≤ (listWithin kind listing deadline progress).2.now := by
  rcases listWithin_cases kind listing deadline progress with ⟨refs, listed⟩ | ⟨-, reason⟩
  · obtain ⟨_, -, found⟩ := listed.listWithin_eq kind
    rw [found] at out
    cases out
  · exact reason

/-- No listing ends before it begins. -/
theorem le_now_listWithin (waits : listing.Waits) :
    progress.now ≤ (listWithin kind listing deadline progress).2.now := by
  have nonneg := waits.duration_nonneg
  have onward : progress.now ≤ progress.now + listing.duration := le_add_of_nonneg_right nonneg
  have waited : progress.now ≤ limitEnd progress.now (remaining deadline progress.now) := by
    cases deadline with
    | none => exact le_refl _
    | some limit =>
      have least : 0 ≤ later (limit - progress.now) 0 := by
        unfold later
        split
        next => exact le_refl _
        next large => exact (not_le.1 large).le
      exact le_add_of_nonneg_right least
  simp only [listWithin]
  split
  · split
    · exact onward
    · split
      · exact onward
      · exact onward
  · exact waited

/-- How far an introspection is when the connection has been tested. -/
def testedFrom (start : Rat) (engine : Engine) (connection : Connection) : Progress :=
  let begun := (Progress.mk start []).log .info
    s!"Starting {engine.dialect.name} schema introspection"
  let probed := connection.traceOf .probe engine.probe
  ⟨begun.now + probed.duration, begun.happened ++ probed.happenings⟩

/-- How the listing of the tables ends. -/
def tablesListedFrom (start : Rat) (engine : Engine) (connection : Connection) (budget : Binary64) :
    Option (List RelationRef) × Progress :=
  listWithin "tables" (connection.traceOf .tables engine.tables) (deadlineAfter start budget)
    (testedFrom start engine connection)

/-- How the listing of the views ends. -/
def viewsListedFrom (start : Rat) (engine : Engine) (connection : Connection) (budget : Binary64) :
    Option (List RelationRef) × Progress :=
  listWithin "views" (connection.traceOf .views engine.views) (deadlineAfter start budget)
    (tablesListedFrom start engine connection budget).2

/-- An introspection in which the connection works, and both listings are over in time. -/
structure ListsBoth (start : Rat) (engine : Engine) (connection : Connection) (budget : Binary64)
    (tables views : List RelationRef) : Prop where
  works : (connection.traceOf .probe engine.probe).outcome = .ok true
  tables : ListsInTime (deadlineAfter start budget) (testedFrom start engine connection).now
    (connection.traceOf .tables engine.tables) tables
  views : ListsInTime (deadlineAfter start budget)
    (tablesListedFrom start engine connection budget).2.now
    (connection.traceOf .views engine.views) views

/-- The warning of an introspection in which a listing is out of time. -/
def listingWarning (budget : Binary64) : String :=
  s!"Introspection budget of {budget.generalText}s exhausted while listing relations"

/-- An introspection of a connection that works goes on to its listings. -/
theorem introspectFrom_of_works (enough : 1 ≤ concurrency)
    (works : (connection.traceOf .probe engine.probe).outcome = .ok true) :
    introspectFrom start engine connection budget concurrency =
      match (tablesListedFrom start engine connection budget).1,
        (viewsListedFrom start engine connection budget).1 with
      | some tables, some views =>
        .ok (describeAll engine connection budget (deadlineAfter start budget) concurrency.toNat
          tables views (viewsListedFrom start engine connection budget).2)
      | _, _ =>
        .ok (.empty (viewsListedFrom start engine connection budget).2 [listingWarning budget]
          false) := by
  have some_workers : ¬ concurrency < 0 := by omega
  simp only [Connection.traceOf] at works
  simp only [introspectFrom, works, listAndDescribe, if_neg some_workers]
  rfl

/-- Once both listings are over in time, the relations that they came to are described. -/
theorem ListsBoth.introspectFrom_eq (listed : ListsBoth start engine connection budget tables views)
    (enough : 1 ≤ concurrency) :
    introspectFrom start engine connection budget concurrency =
      .ok (describeAll engine connection budget (deadlineAfter start budget) concurrency.toNat
        tables views (viewsListedFrom start engine connection budget).2) := by
  obtain ⟨_, -, tablesFound⟩ := listed.tables.listWithin_eq "tables"
  obtain ⟨_, -, viewsFound⟩ := listed.views.listWithin_eq "views"
  rw [introspectFrom_of_works enough listed.works,
    show (tablesListedFrom start engine connection budget).1 = some tables from
      congrArg Prod.fst tablesFound,
    show (viewsListedFrom start engine connection budget).1 = some views from
      congrArg Prod.fst viewsFound]

/-- An introspection with a worker has a result: an empty one when the connection does not work, an
empty and partial one when a listing is out of time, and else what the listed relations are described
as. -/
theorem introspectFrom_cases (start : Rat) (dialect : Dialect) (connection : Connection)
    (budget : Binary64) (enough : 1 ≤ concurrency) :
    ((connection.traceOf .probe (Engine.ofDialect dialect).probe).outcome = .ok false ∧
      introspectFrom start (.ofDialect dialect) connection budget concurrency =
        .ok (.empty (testedFrom start (.ofDialect dialect) connection))) ∨
    (((tablesListedFrom start (.ofDialect dialect) connection budget).1 = none ∨
        (viewsListedFrom start (.ofDialect dialect) connection budget).1 = none) ∧
      introspectFrom start (.ofDialect dialect) connection budget concurrency =
        .ok (.empty (viewsListedFrom start (.ofDialect dialect) connection budget).2
          [listingWarning budget] false)) ∨
    ∃ tables views, ListsBoth start (.ofDialect dialect) connection budget tables views := by
  obtain ⟨works, probed, -⟩ := Engine.probe_ofDialect dialect (connection.during .probe) 0 []
  cases works with
  | false =>
    refine .inl ⟨probed, ?_⟩
    simp only [introspectFrom, probed]
    rfl
  | true =>
    have course := @introspectFrom_of_works start _ _ budget _ enough probed
    rcases listWithin_cases "tables" (connection.traceOf .tables (Engine.ofDialect dialect).tables)
      (deadlineAfter start budget) (testedFrom start (.ofDialect dialect) connection) with
      ⟨tables, tablesListed⟩ | ⟨out, -⟩
    · rcases listWithin_cases "views" (connection.traceOf .views (Engine.ofDialect dialect).views)
        (deadlineAfter start budget)
        (tablesListedFrom start (.ofDialect dialect) connection budget).2 with
        ⟨views, viewsListed⟩ | ⟨out, -⟩
      · exact .inr (.inr ⟨tables, views, probed, tablesListed, viewsListed⟩)
      · change (viewsListedFrom start (.ofDialect dialect) connection budget).1 = none at out
        refine .inr (.inl ⟨.inr out, ?_⟩)
        rw [course, out]
        cases (tablesListedFrom start (.ofDialect dialect) connection budget).1 <;> rfl
    · change (tablesListedFrom start (.ofDialect dialect) connection budget).1 = none at out
      refine .inr (.inl ⟨.inl out, ?_⟩)
      rw [course, out]

/-- What a silent procedure leaves in the log reports no failed relation. -/
theorem Procedure.Silent.failureReports_eq {α : Type} {procedure : Procedure α}
    (silent : procedure.Silent) (connection : Connection) (phase : Phase) :
    failureReports (connection.traceOf phase procedure).happenings = 0 :=
  (silent.trace (connection.during phase) 0 failureReports_nil).happenings

/-- Neither the test of the connection nor the listings report a failed relation. -/
theorem ListsBoth.failureReports_eq
    (listed : ListsBoth start (.ofDialect dialect) connection budget tables views) :
    failureReports (viewsListedFrom start (.ofDialect dialect) connection budget).2.happened =
      0 := by
  have straight := Engine.straight_ofDialect dialect
  have starting : reportsFailure
      s!"Starting {(Engine.ofDialect dialect).dialect.name} schema introspection" = false := by
    simp only [String.append_assoc]
    exact reportsFailure_append rfl
  have probed := (Engine.silent_probe_ofDialect dialect).failureReports_eq connection .probe
  have tablesQuiet := straight.tables.silent.failureReports_eq connection .tables
  have viewsQuiet := straight.views.silent.failureReports_eq connection .views
  obtain ⟨tablesEntry, tablesOther, tablesFound⟩ := listed.tables.listWithin_eq "tables"
  obtain ⟨viewsEntry, viewsOther, viewsFound⟩ := listed.views.listWithin_eq "views"
  have afterTest : failureReports (testedFrom start (.ofDialect dialect) connection).happened = 0 := by
    simp only [testedFrom, Progress.log, List.nil_append, failureReports_append,
      failureReports_logged, starting, probed]
    rfl
  have afterTables : failureReports
      (tablesListedFrom start (.ofDialect dialect) connection budget).2.happened = 0 := by
    rw [tablesListedFrom, tablesFound]
    simp [tablesOther, afterTest, tablesQuiet]
  rw [viewsListedFrom, viewsFound]
  simp [viewsOther, afterTables, viewsQuiet]

end QueryDesk.Catalog
