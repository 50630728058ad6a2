/-
Module: QueryDesk.Proofs.Catalog.Accounts
Purpose: The accounts of a partial introspection. Every task that ends adds its relation to the schema or
  one report to the log, and a task that has not ended has added neither; every action of the pool keeps
  it so. Hence each listed relation is counted once: in the schema, in the log, or in the warning.
Imports: QueryDesk.Proofs.Catalog.Partial
Main exports: Trace.Honest, TaskState.Honest, omitted, Accounted, Accounted.act, Accounted.follow,
  Accounted.length_tasks, introspect_accounts
-/
import QueryDesk.Proofs.Catalog.Partial

namespace QueryDesk.Catalog

open QueryDesk.Number QueryDesk.Sql

variable {start now : Rat} {dialect : Dialect} {connection : Connection} {budget : Binary64}
  {concurrency : Int} {tables views : List RelationRef}

/-- A trace that leaves a report in the log if it ends without a relation: one report, at its end. -/
structure Trace.Honest (trace : Trace (Option Relation)) : Prop where
  quiet : ∀ leg ∈ trace.legs, failureReports leg.happenings = 0
  ends : ∃ found, trace.outcome = .ok found ∧
    failureReports trace.last = if found.isSome then 0 else 1

theorem failureReports_reportOf {α : Type} (ref : RelationRef) (outcome : Except Failure α) :
    failureReports (reportOf ref outcome) = if outcome.toOption.isSome then 0 else 1 := by
  cases outcome with
  | ok found => rfl
  | error failure =>
    rw [reportOf, failureReports_logged, failureEntry, reportsFailure_message]
    rfl

/-- A guarded description is honest if the description itself reports nothing. -/
theorem Procedure.Silent.honest_guarded {α : Type} {describe : Procedure α} (silent : describe.Silent)
    (ref : RelationRef) (wrap : α → Relation) (reply : Nat → Call → Reply) :
    ((guarded ref describe wrap).trace reply 0 []).Honest := by
  obtain ⟨quiet, last⟩ := silent.trace reply 0 failureReports_nil
  rw [Procedure.trace_guarded]
  refine ⟨quiet, _, rfl, ?_⟩
  rw [failureReports_append, last, Nat.zero_add, failureReports_reportOf, Option.isSome_map]

/-- The tasks of an introspection are honest. -/
theorem honest_describeTraces (dialect : Dialect) (connection : Connection)
    (tables views : List RelationRef) :
    ∀ trace ∈ describeTraces (.ofDialect dialect) connection tables views, trace.Honest := by
  have straight := Engine.straight_ofDialect dialect
  intro trace member
  obtain ⟨index, inside, rfl⟩ := List.exists_of_mem_mapIdx member
  have task := List.getElem_mem inside
  rcases List.mem_append.1 task with first | second
  · obtain ⟨ref, -, same⟩ := List.mem_map.1 first
    rw [← same]
    exact (straight.describeTable ref).silent.honest_guarded ref _ _
  · obtain ⟨ref, -, same⟩ := List.mem_map.1 second
    rw [← same]
    exact (straight.describeView ref).silent.honest_guarded ref _ _

/-- A task that will be honest about the rest of its trace, or has ended without a failure of its own. -/
def TaskState.Honest : TaskState (Option Relation) → Prop
  | .created trace => trace.Honest
  | .waiting trace => trace.Honest
  | .woken trace => trace.Honest
  | .running _ trace => trace.Honest
  | .finished outcome => ∃ found, outcome = .ok found
  | .cancelled => True

/-- The number of relations that a task has left out. -/
def omitted : TaskState (Option Relation) → Nat
  | .finished (.ok none) => 1
  | _ => 0

/-! ### The invariant of the accounts

Two counts have to agree: the reports in the log, and the tasks that ended without a relation. The only
action that changes either of them is the one in which a task ends, and there an honest trace writes one
report exactly if it ends without a relation. A cancelled task has neither ended so nor written anything. -/

/-- The accounts of tasks and of what happened: the log has one report for each relation that was left
out, and for no other. -/
structure Accounted (tasks : List (TaskState (Option Relation))) (happened : List Happening) :
    Prop where
  honest : ∀ state ∈ tasks, state.Honest
  reports_eq : failureReports happened = total omitted tasks

section

variable {tasks : List (TaskState (Option Relation))} {happened more : List Happening}
  {old new : TaskState (Option Relation)} {task slots : Nat} {pool next last : Pool (Option Relation)}
  {trace : Trace (Option Relation)} {action : Action} {schedule : List (Rat × Action)}

/-- A task may go on when it reports what it leaves out. -/
theorem Accounted.set (accounted : Accounted tasks happened) (here : tasks[task]? = some old)
    (honest : new.Honest) (reported : failureReports more + omitted old = omitted new) :
    Accounted (tasks.set task new) (happened ++ more) where
  honest := by
    intro state member
    rcases List.mem_or_eq_of_mem_set member with member | rfl
    · exact accounted.honest state member
    · exact honest
  reports_eq := by
    have changed := total_set omitted here new
    have before := accounted.reports_eq
    rw [failureReports_append]
    omega

/-- A task may change its place as long as it leaves nothing out. -/
theorem Accounted.move (accounted : Accounted tasks happened) (here : tasks[task]? = some old)
    (honest : new.Honest) (same : omitted old = omitted new) :
    Accounted (tasks.set task new) happened := by
  have moved := @Accounted.set _ _ [] _ _ _ accounted here honest ((Nat.zero_add _).trans same)
  rwa [List.append_nil] at moved

theorem Accounted.release (accounted : Accounted pool.tasks pool.happened) :
    Accounted pool.release.tasks pool.release.happened := by
  unfold Pool.release
  split
  next => exact accounted
  next first rest _ =>
    split
    next trace here =>
      have honest : trace.Honest := accounted.honest _ (List.mem_of_getElem? here)
      exact accounted.move here honest rfl
    next => exact accounted

/-- A task that holds a slot reports a failure when it ends with one, and not before. -/
theorem Accounted.proceed (accounted : Accounted pool.tasks pool.happened)
    (here : pool.tasks[task]? = some old) (none_yet : omitted old = 0) (honest : trace.Honest) :
    Accounted (pool.proceed now task trace).tasks (pool.proceed now task trace).happened := by
  unfold Pool.proceed
  split
  next =>
    -- The task ends: its last happenings hold the report of what it leaves out.
    obtain ⟨found, outcome, reports⟩ := honest.ends
    refine Accounted.release ?_
    refine accounted.set here ⟨found, outcome⟩ ?_
    rw [outcome, reports, none_yet]
    cases found <;> rfl
  next leg rest legs =>
    have silent : failureReports leg.happenings = 0 := honest.quiet leg (legs ▸ List.mem_cons_self)
    refine accounted.set here ⟨fun other member => ?_, honest.ends⟩ ?_
    · exact honest.quiet other (legs ▸ List.mem_cons_of_mem leg member)
    · rw [silent, none_yet]
      rfl

theorem Accounted.arrive (accounted : Accounted pool.tasks pool.happened)
    (here : pool.tasks[task]? = some (.created trace)) :
    Accounted (pool.arrive now task trace).tasks (pool.arrive now task trace).happened := by
  have honest : trace.Honest := accounted.honest _ (List.mem_of_getElem? here)
  unfold Pool.arrive
  split
  next => exact @Accounted.proceed _ _ _ { pool with free := pool.free - 1 } _ accounted here rfl honest
  next => exact accounted.move here honest rfl

/-- A task that is cancelled has left nothing out, whatever it was waiting for. -/
theorem Accounted.cancel (accounted : Accounted pool.tasks pool.happened) :
    Accounted (pool.cancel task).tasks (pool.cancel task).happened := by
  unfold Pool.cancel
  split
  next trace here => exact accounted.move here trivial rfl
  next trace here => exact accounted.move here trivial rfl
  next trace here => exact @Accounted.release (pool.put task .cancelled) (accounted.move here trivial rfl)
  next wake trace here =>
    exact @Accounted.release (pool.put task .cancelled) (accounted.move here trivial rfl)
  next => exact accounted

/-- Every action keeps the accounts. -/
theorem Accounted.act (accounted : Accounted pool.tasks pool.happened)
    (acted : pool.act now action = some next) : Accounted next.tasks next.happened := by
  rcases Pool.act_cases acted with ⟨task, trace, -, here, rfl⟩ | ⟨task, trace, -, here, rfl⟩ |
    ⟨task, wake, trace, -, here, rfl⟩ | ⟨task, -, rfl⟩
  · exact accounted.arrive here
  · have honest : trace.Honest := accounted.honest _ (List.mem_of_getElem? here)
    exact accounted.proceed here rfl honest
  · have honest : trace.Honest := accounted.honest _ (List.mem_of_getElem? here)
    exact accounted.proceed here rfl honest
  · exact accounted.cancel

/-- Every schedule keeps the accounts, cancellations included. -/
theorem Accounted.follow (accounted : Accounted pool.tasks pool.happened)
    (followed : pool.follow schedule = some last) : Accounted last.tasks last.happened := by
  induction schedule generalizing pool with
  | nil =>
    cases followed
    exact accounted
  | cons step rest ih =>
    obtain ⟨next, acted, followed⟩ := Pool.follow_cons followed
    exact ih (accounted.act acted) followed

theorem accounted_ofTraces (slots : Nat) {traces : List (Trace (Option Relation))}
    (honest : ∀ trace ∈ traces, trace.Honest) :
    Accounted (Pool.ofTraces slots traces).tasks (Pool.ofTraces slots traces).happened where
  honest := by
    intro state member
    obtain ⟨trace, inside, rfl⟩ := List.mem_map.1 member
    exact honest trace inside
  reports_eq := by
    change 0 = total omitted (traces.map TaskState.created)
    rw [total, List.map_map]
    exact (List.sum_eq_zero (by simp [omitted])).symm

/-- Each task has found a relation, or has left one out, or has not ended. -/
theorem Pool.length_tasks (honest : ∀ state ∈ pool.tasks, state.Honest) :
    pool.tasks.length =
      (pool.results.filterMap id).length + total omitted pool.tasks + pool.pending := by
  -- The induction is on the tasks alone, so the pool is taken apart: slots and log play no part.
  obtain ⟨free, line, tasks, happened⟩ := pool
  simp only [Pool.results, Pool.pending] at honest ⊢
  induction tasks with
  | nil => rfl
  | cons state rest ih =>
    have others := ih fun other member => honest other (List.mem_cons_of_mem state member)
    have here := honest state List.mem_cons_self
    have first : total omitted (state :: rest) = omitted state + total omitted rest := rfl
    rw [List.length_cons, others, first]
    cases state with
    | finished outcome =>
      obtain ⟨found, rfl⟩ := here
      cases found with
      | none =>
        change _ = (List.filterMap id (List.filterMap _ rest)).length + (1 + _) +
          (List.filter _ rest).length
        omega
      | some relation =>
        change _ = ((List.filterMap id (List.filterMap _ rest)).length + 1) + (0 + _) +
          (List.filter _ rest).length
        omega
    | _ =>
      change _ = (List.filterMap id (List.filterMap _ rest)).length + (0 + _) +
        ((List.filter _ rest).length + 1)
      omega

end

/-! ### The accounts of an introspection

The schema counts what was found, the log what was left out, and the warning what has not ended; each task
is one of the three. Relations are counted instead of tasks because each key that was listed has one task. -/

/-- Whether a line of the log at a time reports a relation that could not be described. -/
def lineReportsFailure (stamp line : String) : Bool :=
  ("[" ++ stamp ++ "] " ++ failureLead).toList.isPrefixOf line.toList

theorem lineReportsFailure_logLine (stamp : String) (entry : LogEvent) :
    lineReportsFailure stamp (logLine stamp entry) = reportsFailure entry.event := by
  have stamped : ∀ text : String, ("[" ++ stamp ++ "] " ++ text).toList =
      ("[" ++ stamp ++ "] ").toList ++ text.toList := fun text => String.toList_append
  rw [lineReportsFailure, logLine, reportsFailure, stamped, stamped, Bool.eq_iff_iff,
    List.isPrefixOf_iff_prefix, List.isPrefixOf_iff_prefix, List.prefix_append_right_inj]

/-- The lines of a report tell as many failed relations as the entries of the log. -/
theorem countP_logs_report (found : Introspection) (stamp : String) :
    (found.report stamp).logs.countP (lineReportsFailure stamp) =
      failureReports found.progress.happened := by
  change ((logEntries found.progress.happened).map (logLine stamp)).countP _ = _
  rw [List.countP_map, failureReports]
  exact List.countP_congr fun entry _ => by
    rw [Function.comp_apply, lineReportsFailure_logLine]

/-- The warning of an introspection that had no time for some of its relations. -/
def partialWarning (budget : Binary64) (left relations : Nat) : String :=
  s!"Introspection budget of {budget.generalText}s exhausted; " ++
    s!"{left} of {relations} relations were not introspected"

theorem reportsFailure_partialWarning (budget : Binary64) (left relations : Nat) :
    reportsFailure (partialWarning budget left relations) = false := by
  unfold partialWarning
  simp only [String.append_assoc]
  exact reportsFailure_append rfl

/-- The end of an introspection adds no report of a failed relation. -/
theorem failureReports_ofPool (budget : Binary64) (deadline : Option Rat) (progress : Progress)
    (now : Rat) (pool : Pool (Option Relation)) :
    failureReports (Introspection.ofPool budget deadline progress now pool).progress.happened =
      failureReports progress.happened + failureReports pool.happened := by
  have warned := reportsFailure_partialWarning budget pool.pending pool.tasks.length
  have ended : ∀ tables views : Nat, reportsFailure
      (s!"Schema introspection complete: {tables} tables, " ++ s!"{views} views") = false := by
    intro tables views
    simp only [String.append_assoc]
    exact reportsFailure_append rfl
  unfold partialWarning at warned
  simp only [Introspection.ofPool, Progress.log, failureReports_append, failureReports_logged, ended]
  split
  next => simp
  next =>
    simp only [failureReports_append, failureReports_logged, warned, Bool.false_eq_true, if_false,
      Nat.add_zero]

/-- The number of different relations that the listings of tables and views came to. -/
def listedRelations (tables views : List RelationRef) : Nat :=
  (tables.map RelationRef.key).toFinset.card + (views.map RelationRef.key).toFinset.card

theorem length_describeTraces (engine : Engine) (connection : Connection)
    (tables views : List RelationRef) :
    (describeTraces engine connection tables views).length = tables.length + views.length := by
  simp [describeTraces]

/-- At any moment of any schedule, the different relations that were listed are those in the schema, those
whose failure is in the log, and those whose tasks have not ended. -/
theorem accounts_of_follow {workers : Nat} {pool : Pool (Option Relation)}
    {schedule : List (Rat × Action)} {progress : Progress} {now : Rat}
    (tablesKeep : ∀ ref ∈ tables, ∀ found,
      ((Engine.ofDialect dialect).describeTable ref).MayEnd (.ok found) → found.key = ref.key)
    (viewsKeep : ∀ ref ∈ views, ∀ found,
      ((Engine.ofDialect dialect).describeView ref).MayEnd (.ok found) → found.key = ref.key)
    (continues : ∀ step ∈ schedule, step.2.Continues)
    (followed : (describingPool (.ofDialect dialect) connection workers tables views).follow
      schedule = some pool) (deadline : Option Rat) :
    let found := Introspection.ofPool budget deadline progress now pool
    pool.tasks.length = listedRelations tables views ∧
      failureReports progress.happened + pool.tasks.length =
        found.schema.tables.length + found.schema.views.length +
          failureReports found.progress.happened + pool.pending := by
  intro found
  have accounted := (accounted_ofTraces workers
    (honest_describeTraces dialect connection _ _)).follow followed
  have each := Pool.length_tasks accounted.honest
  have listed := Pool.length_of_follow followed
  rw [length_describeTraces, length_firstOfEachKey, length_firstOfEachKey] at listed
  refine ⟨listed, ?_⟩
  -- Sorting by key drops nothing, since different references are described with different keys.
  have tablesKept := sortedByKey_perm (distinct_describedExcept tablesKeep pool.left connection 0)
  have viewsKept := sortedByKey_perm (distinct_describedExcept viewsKeep pool.left connection
    (firstOfEachKey RelationRef.key tables).length)
  have schema := schema_of_follow continues followed budget deadline progress now
  have reports := failureReports_ofPool budget deadline progress now pool
  rw [relations_of_follow continues followed, List.length_append, List.length_map,
    List.length_map, ← tablesKept.length_eq, ← viewsKept.length_eq] at each
  rw [schema, reports, accounted.reports_eq, each]
  dsimp only
  omega

/-- No relation is lost. When both listings are over in time, the different relations that they came to
are as many as the tables and views of the schema, the lines of the log that report a failed relation, and
the relations that were not introspected. The introspection is complete if there is none of the latter,
and else its one warning tells their number. Tables and views are in strict order. -/
theorem introspect_accounts (enough : 1 ≤ concurrency)
    (listed : ListsBoth start (.ofDialect dialect) connection budget tables views) (stamp : String) :
    ∃ found, introspectFrom start (.ofDialect dialect) connection budget concurrency = .ok found ∧
      let report := found.report stamp
      ∃ left,
        listedRelations tables views = report.schema.tables.length + report.schema.views.length +
          report.logs.countP (lineReportsFailure stamp) + left ∧
        (report.complete = false ↔ 0 < left) ∧
        report.warnings = (if left = 0 then []
          else [partialWarning budget left (listedRelations tables views)]) ∧
        report.schema.tables.Pairwise (fun a b => toLex a.key < toLex b.key) ∧
        report.schema.views.Pairwise (fun a b => toLex a.key < toLex b.key) := by
  have keeps := Engine.keepsListedKeys_ofDialect dialect
  have tablesKeep := listed.tables.lists.keeps_key keeps.table
  have viewsKeep := listed.views.lists.keeps_key keeps.view
  obtain ⟨schedule, now, pool, continues, followed, -, course⟩ := listed.exists_schedule enough
  obtain ⟨all, each⟩ := @accounts_of_follow _ _ budget _ _ _ _ _
    (viewsListedFrom start (.ofDialect dialect) connection budget).2 now tablesKeep viewsKeep
    continues followed (deadlineAfter start budget)
  refine ⟨_, course, pool.pending, ?_, ?_, ?_, ?_, ?_⟩
  · rw [listed.failureReports_eq, Nat.zero_add, all] at each
    rw [countP_logs_report]
    exact each
  · change (pool.pending == 0) = false ↔ 0 < pool.pending
    rw [beq_eq_false_iff_ne]
    exact Nat.pos_iff_ne_zero.symm
  · change (if (pool.pending == 0) = true then []
      else [partialWarning budget pool.pending pool.tasks.length]) = _
    rw [all]
    simp only [beq_iff_eq]
  · exact pairwise_sortedByKey Table.key _
  · exact pairwise_sortedByKey View.key _

/-- The answers of a catalog that lists the tables b, a, c and b, and fails to describe a. -/
def partialAnswers (call : Call) : Except Failure Value :=
  if call.sql = Mysql.tablesQuery then
    .ok (.list (["b", "a", "c", "b"].map fun name => .mapping [(.name "table_name", .text name)]))
  else if call.sql = "DESCRIBE " ++ quoteMysql "a" then
    .error (.ofMessage .mysqlProgramming "no table a")
  else .ok (.list [])

/-- A connection to this catalog on which c takes too long for a budget of four seconds. -/
def partialConnection : Connection := fun site call =>
  { delay := if site.phase = .relation 2 then 5 else 1, answer := partialAnswers call }

/-- The tables that the catalog lists. -/
def partialTables : List RelationRef :=
  [{ name := "b" }, { name := "a" }, { name := "c" }, { name := "b" }]

theorem listsBoth_partial :
    ListsBoth 0 (.ofDialect .mysql) partialConnection (.ofInt 4) partialTables [] where
  works := rfl
  tables := ⟨by decide +kernel, by decide +kernel⟩
  views := ⟨by decide +kernel, by decide +kernel⟩

/-- Of the three tables, one is reported as failed and at least one is left; the schema has the rest. -/
theorem introspect_accounts_partial :
    (1 : Int) ≤ 2 ∧
    ListsBoth 0 (.ofDialect .mysql) partialConnection (.ofInt 4) partialTables [] ∧
    ∃ found, introspectFrom 0 (.ofDialect .mysql) partialConnection (.ofInt 4) 2 = .ok found ∧
      (found.report "now").logs.countP (lineReportsFailure "now") = 1 ∧
      ∃ left, 0 < left ∧ found.schema.tables.length + found.schema.views.length + left = 2 ∧
        found.complete = false ∧ found.warnings = [partialWarning (.ofInt 4) left 3] := by
  have three : listedRelations partialTables [] = 3 := by decide +kernel
  have told : (introspectFrom 0 (.ofDialect .mysql) partialConnection (.ofInt 4) 2).toOption.map
      (fun found => (found.complete, failureReports found.progress.happened)) = some (false, 1) := by
    decide +kernel
  obtain ⟨found, course, left, all, partly, warned, -⟩ :=
    @introspect_accounts _ _ _ _ 2 _ _ (by decide) listsBoth_partial "now"
  rw [course] at told
  obtain ⟨incomplete, reports⟩ := Prod.mk.inj (Option.some.inj told)
  have some_left : 0 < left := partly.1 incomplete
  rw [three, countP_logs_report, reports] at all
  rw [if_neg some_left.ne', three] at warned
  refine ⟨by decide, listsBoth_partial, found, course, ?_, left, some_left, ?_, incomplete, warned⟩
  · rw [countP_logs_report, reports]
  · change 3 = found.schema.tables.length + found.schema.views.length + 1 + left at all
    omega

end QueryDesk.Catalog
