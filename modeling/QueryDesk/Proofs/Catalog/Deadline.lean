/-
Module: QueryDesk.Proofs.Catalog.Deadline
Purpose: How long an introspection lasts. Listings and descriptions end by the deadline, or at once if
  it has passed. The test of the connection is not under the deadline, so an introspection ends within
  its budget exactly if that test does.
Imports: QueryDesk.Proofs.Catalog.Partial
Main exports: now_listWithin_le, runFor_le, now_describeAll_le, testTime, now_testedFrom,
  introspect_withinBudget, introspect_late
-/
import QueryDesk.Proofs.Catalog.Partial

namespace QueryDesk.Catalog

open QueryDesk.Number

variable {start : Rat} {dialect : Dialect} {engine : Engine} {connection : Connection}
  {budget : Binary64} {concurrency : Int}

theorem later_eq_max (x y : Rat) : later x y = max x y :=
  (max_def x y).symm

/-! ### The phases and the deadline

Every phase behind the test of the connection ends no later than the deadline, or where it begins if that is
later already. For the listings this is what is left of the time; for the descriptions it is an invariant of
the run by the clock, which only waits for answers that come before the deadline. -/

/-- A wait that uses up the time that is left ends at the deadline, or at once if that has passed. -/
theorem limitEnd_remaining (now limit : Rat) :
    limitEnd now (remaining (some limit) now) = max now limit := by
  change now + later (limit - now) 0 = max now limit
  rw [later_eq_max, ← max_add_add_left, add_sub_cancel, add_zero, max_comm]

/-- A listing ends by the deadline, or at once if that has passed. -/
theorem now_listWithin_le (kind : String) (listing : Trace (List RelationRef)) (limit : Rat)
    (progress : Progress) :
    (listWithin kind listing (some limit) progress).2.now ≤ max progress.now limit := by
  simp only [listWithin]
  split
  next inTime =>
    have lasts : progress.now + listing.duration ≤ limit := by
      change (0 < later (limit - progress.now) 0 &&
        listing.duration < later (limit - progress.now) 0) = true at inTime
      simp only [Bool.and_eq_true, decide_eq_true_eq, later_eq_max, lt_max_iff, lt_irrefl,
        or_false] at inTime
      obtain ⟨left, shorter | negative⟩ := inTime
      · linarith
      · linarith
    have ended := lasts.trans (le_max_right progress.now limit)
    split
    · exact ended
    · split
      · exact ended
      · exact ended
  next => exact (limitEnd_remaining progress.now limit).le

/-- The run of a pool goes on until no later than the deadline: the clock only waits for answers that
come before. -/
theorem Pool.runFor_le {α : Type} (limit : Rat) (fuel : Nat) (now : Rat) (pool : Pool α) :
    (runFor (some limit) fuel now pool).1 ≤ max now limit := by
  induction fuel generalizing now pool with
  | zero => exact le_max_left now limit
  | succ fuel ih =>
    rw [runFor]
    split
    next => exact le_max_left now limit
    next moment action chosen =>
      split
      next => exact le_max_left now limit
      next early =>
        obtain ⟨-, next, acted⟩ := acts_of_nextAction chosen
        have onward : moment ≤ max now limit := by
          rcases nextAction_cases chosen with ⟨task, trace, rfl, -, -⟩ | ⟨task, trace, rfl, -, -⟩ |
            ⟨task, trace, rfl, -, -⟩
          · exact le_max_left moment limit
          · exact le_max_left moment limit
          · have before : moment < limit := by simpa [awaits, isBefore] using early
            exact before.le.trans (le_max_right now limit)
        rw [acted]
        exact (ih moment next).trans (max_le onward (le_max_right now limit))

/-- What is described is described by the deadline, or at once if that has passed. -/
theorem now_describeAll_le (workers : Nat) (tables views : List RelationRef) (limit : Rat)
    (progress : Progress) :
    (describeAll engine connection budget (some limit) workers tables views progress).progress.now ≤
      max progress.now limit := by
  have ran : ((describingPool engine connection workers tables views).runUntil (some limit)
      progress.now).1 ≤ max progress.now limit := by
    rw [Pool.runUntil_eq_runFor]
    exact Pool.runFor_le limit _ progress.now _
  rw [describeAll_eq]
  simp only [Introspection.ofPool, Progress.log, Option.getD_some, later_eq_max]
  split
  · exact ran
  · exact max_le ran (le_max_right progress.now limit)

/-- No introspection ends before what it lists is listed. -/
theorem le_now_describeAll (deadline : Option Rat) (workers : Nat) (tables views : List RelationRef)
    (progress : Progress) :
    progress.now ≤
      (describeAll engine connection budget deadline workers tables views progress).progress.now := by
  have timely : Pool.Timely progress.now (describingPool engine connection workers tables views) :=
    timely_describingPool _ _
  have ran : progress.now ≤
      ((describingPool engine connection workers tables views).runUntil deadline progress.now).1 :=
    timely.le_runUntil
  rw [describeAll_eq]
  simp only [Introspection.ofPool, Progress.log, later_eq_max]
  split
  · exact ran
  · exact ran.trans (le_max_left _ _)

/-- The seconds that the test of a connection takes. Only SQLite asks for an answer. -/
def testTime (dialect : Dialect) (connection : Connection) : Rat :=
  if dialect = .sqlite then max (connection ⟨.probe, 0⟩ { sql := "SELECT 1" }).delay 0 else 0

/-- A procedure that asks takes the time of the answer, and then the time that it takes from there. -/
theorem duration_trace_ask {α : Type} (call : Call) (next : Except Failure Value → Procedure α)
    (reply : Nat → Call → Reply) (turn : Nat) (happened : List Happening) :
    ∃ before, ((Procedure.ask call next).trace reply turn happened).duration =
      max (reply turn call).delay 0 +
        ((next (reply turn call).answer).trace reply (turn + 1) before).duration := by
  by_cases slow : 0 < (reply turn call).delay
  · refine ⟨[], ?_⟩
    rw [max_eq_left slow.le]
    simp only [Procedure.trace, if_pos slow]
    rfl
  · refine ⟨happened ++ [.sent call], ?_⟩
    rw [max_eq_right (not_lt.1 slow), zero_add]
    simp only [Procedure.trace, if_neg slow]

theorem now_testedFrom (start : Rat) (dialect : Dialect) (connection : Connection) :
    (testedFrom start (.ofDialect dialect) connection).now =
      start + testTime dialect connection := by
  change start + (connection.traceOf .probe (Engine.ofDialect dialect).probe).duration = _
  rw [add_right_inj]
  cases dialect with
  | sqlite =>
    obtain ⟨before, asked⟩ := duration_trace_ask { sql := "SELECT 1" } _
      (connection.during .probe) 0 []
    refine asked.trans ?_
    cases (connection.during .probe 0 { sql := "SELECT 1" }).answer with
    | ok value => exact add_zero _
    | error failure => exact add_zero _
  | _ => rfl

/-- An introspection does not end before the connection is tested, and with a deadline it ends by the
deadline, or with the test if that takes longer. -/
theorem now_introspectFrom (start : Rat) (dialect : Dialect) (connection : Connection)
    (budget : Binary64) (enough : 1 ≤ concurrency) :
    let tested := (testedFrom start (.ofDialect dialect) connection).now
    ∃ found, introspectFrom start (.ofDialect dialect) connection budget concurrency = .ok found ∧
      tested ≤ found.progress.now ∧
      ∀ limit ∈ deadlineAfter start budget, found.progress.now ≤ max tested limit := by
  intro tested
  have tablesOnward : tested ≤ (tablesListedFrom start (.ofDialect dialect) connection budget).2.now :=
    le_now_listWithin (waits_traceOf connection .tables _)
  have viewsOnward : tested ≤ (viewsListedFrom start (.ofDialect dialect) connection budget).2.now :=
    tablesOnward.trans (le_now_listWithin (waits_traceOf connection .views _))
  have viewsEnd : ∀ limit ∈ deadlineAfter start budget,
      (viewsListedFrom start (.ofDialect dialect) connection budget).2.now ≤ max tested limit := by
    intro limit budgeted
    have tablesEnd := now_listWithin_le "tables"
      (connection.traceOf .tables (Engine.ofDialect dialect).tables) limit
      (testedFrom start (.ofDialect dialect) connection)
    have ended := now_listWithin_le "views"
      (connection.traceOf .views (Engine.ofDialect dialect).views) limit
      (tablesListedFrom start (.ofDialect dialect) connection budget).2
    rw [← Option.mem_def.1 budgeted] at tablesEnd ended
    exact ended.trans (max_le tablesEnd (le_max_right tested limit))
  rcases introspectFrom_cases start dialect connection budget enough with
    ⟨-, course⟩ | ⟨-, course⟩ | ⟨tables, views, listed⟩
  · exact ⟨_, course, le_refl tested, fun limit _ => le_max_left tested limit⟩
  · exact ⟨_, course, viewsOnward, viewsEnd⟩
  · refine ⟨_, listed.introspectFrom_eq enough, viewsOnward.trans (le_now_describeAll _ _ _ _ _), ?_⟩
    intro limit budgeted
    rw [Option.mem_def.1 budgeted]
    exact (now_describeAll_le _ _ _ limit _).trans
      (max_le (viewsEnd limit budgeted) (le_max_right tested limit))

/-- An introspection ends within its budget exactly if the answer to its test of the connection comes
within the budget, and by the time of that answer if it comes later. Only SQLite tests its connection,
so every other introspection ends within its budget. -/
theorem introspect_withinBudget (start : Rat) (dialect : Dialect) (connection : Connection)
    (budget : Binary64) (enough : 1 ≤ concurrency) :
    let tested := start + testTime dialect connection
    ∃ found, introspectFrom start (.ofDialect dialect) connection budget concurrency = .ok found ∧
      ∀ limit ∈ deadlineAfter start budget,
        (found.progress.now ≤ limit ↔ tested ≤ limit) ∧
        (limit < tested → found.progress.now = tested) ∧
        (dialect ≠ .sqlite → start ≤ limit → found.progress.now ≤ limit) := by
  intro tested
  obtain ⟨found, course, onward, ended⟩ :=
    now_introspectFrom start dialect connection budget enough
  rw [now_testedFrom] at onward ended
  refine ⟨found, course, fun limit budgeted => ?_⟩
  have bound : found.progress.now ≤ max tested limit := ended limit budgeted
  have inTime : tested ≤ limit → found.progress.now ≤ limit := by
    intro early
    rwa [max_eq_right early] at bound
  refine ⟨⟨onward.trans, inTime⟩, fun late => ?_, fun other begun => inTime ?_⟩
  · rw [max_eq_left late.le] at bound
    exact le_antisymm bound onward
  · rw [show tested = start from (congrArg (start + ·) (if_neg other)).trans (add_zero start)]
    exact begun

/-- A connection that answers the test after so many seconds, and everything else after a hundred. -/
def slowConnection (testSeconds : Rat) : Connection := fun site _ =>
  { delay := if site.phase = .probe then testSeconds else 100, answer := .ok (.list []) }

/-- When the test takes two of ten seconds, the introspection is over after the ten. -/
theorem introspect_withinBudget_of_slow :
    (1 : Int) ≤ 4 ∧
    ∃ found, introspectFrom 0 (.ofDialect .sqlite) (slowConnection 2) (.ofInt 10) 4 = .ok found ∧
      found.complete = false ∧ found.progress.now ≤ 10 := by
  have ten : (10 : Rat) ∈ deadlineAfter 0 (.ofInt 10) := by decide +kernel
  have partly : (introspectFrom 0 (.ofDialect .sqlite) (slowConnection 2) (.ofInt 10)
      4).toOption.map (fun found => found.complete) = some false := by decide +kernel
  obtain ⟨found, course, within⟩ :=
    @introspect_withinBudget 4 0 .sqlite (slowConnection 2) (.ofInt 10) (by decide)
  rw [course] at partly
  exact ⟨by decide, found, course, Option.some.inj partly, (within 10 ten).1.2 (by decide +kernel)⟩

/-- When it takes twenty, the introspection is over after twenty seconds and not after ten. -/
theorem introspect_late :
    (10 : Rat) ∈ deadlineAfter 0 (.ofInt 10) ∧
    ∃ found, introspectFrom 0 (.ofDialect .sqlite) (slowConnection 20) (.ofInt 10) 4 = .ok found ∧
      found.progress.now = 20 := by
  have told : (introspectFrom 0 (.ofDialect .sqlite) (slowConnection 20) (.ofInt 10)
      4).toOption.map (fun found => found.progress.now) = some 20 := by decide +kernel
  obtain ⟨found, course, -⟩ :=
    @now_introspectFrom 4 0 .sqlite (slowConnection 20) (.ofInt 10) (by decide)
  rw [course] at told
  exact ⟨by decide +kernel, found, course, Option.some.inj told⟩

end QueryDesk.Catalog
