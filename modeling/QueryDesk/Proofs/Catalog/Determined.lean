/-
Module: QueryDesk.Proofs.Catalog.Determined
Purpose: The schema of a complete introspection. It is what each listed relation is described as alone,
  in the order of keys, whatever the schedule, the number of workers and the delays of the connection;
  and a budget that lasts has no part in it.
Imports: QueryDesk.Proofs.Catalog.KeyOrder, QueryDesk.Proofs.Catalog.Schedule
Main exports: describingPool, describedAlone, Lists, ofPool_of_ended, introspect_of_lasts,
  BudgetLasts, introspect_determined
-/
import Mathlib.Tactic.Linarith
import Mathlib.Tactic.NormNum
import QueryDesk.Proofs.Catalog.KeyOrder
import QueryDesk.Proofs.Catalog.Schedule

namespace QueryDesk.Catalog

open QueryDesk.Number QueryDesk.Sql

variable {engine : Engine} {connection : Connection} {answers : Call → Except Failure Value}
  {tables views : List RelationRef}

/-- What relations are described as, each of them alone: those with a key that was listed before do
not count, those that cannot be described are left out, and the rest is in the order of the keys. -/
def describedAlone {α : Type} (answers : Call → Except Failure Value)
    (describe : RelationRef → Procedure α) (refs : List RelationRef) : List α :=
  ((refs.eraseDupsBy fun later first => first.key == later.key).mergeSort
    fun a b => toLex a.key ≤ toLex b.key).filterMap
      fun ref => ((describe ref).answered answers).toOption

/-- The schema of listed relations, each of them described alone. -/
def schemaAlone (answers : Call → Except Failure Value) (engine : Engine)
    (tables views : List RelationRef) : Schema :=
  { tables := describedAlone answers engine.describeTable tables
    views := describedAlone answers engine.describeView views }

/-- The pool of the tasks that describe listed relations, before any of them has run. -/
def describingPool (engine : Engine) (connection : Connection) (workers : Nat)
    (tables views : List RelationRef) : Pool (Option Relation) :=
  .ofTraces workers (describeTraces engine connection (firstOfEachKey RelationRef.key tables)
    (firstOfEachKey RelationRef.key views))

/-- The outcomes of the tasks depend on the answers alone. -/
theorem outcomes_describeTraces (same : ∀ site call, (connection site call).answer = answers call)
    (tables views : List RelationRef) :
    (describeTraces engine connection tables views).map Trace.outcome =
      (tables.map fun ref =>
        .ok (((engine.describeTable ref).answered answers).toOption.map Relation.table)) ++
      views.map fun ref =>
        .ok (((engine.describeView ref).answered answers).toOption.map Relation.view) := by
  have alone : ∀ tasks : List (Procedure (Option Relation)),
      (tasks.mapIdx fun index task =>
        task.trace (connection.during (.relation index)) 0 []).map Trace.outcome =
      tasks.map fun task => task.answered answers := by
    intro tasks
    refine List.ext_getElem? fun index => ?_
    rw [List.getElem?_map, List.getElem?_mapIdx, List.getElem?_map, Option.map_map]
    exact Option.map_congr fun task _ => task.outcome_trace (fun _ call => same _ call) 0 []
  rw [describeTraces, alone, List.map_append, List.map_map, List.map_map]
  simp only [Function.comp_def, Procedure.answered_guarded]

theorem waits_describeTraces (tables views : List RelationRef) :
    ∀ trace ∈ describeTraces engine connection tables views, trace.Waits := by
  intro trace member
  obtain ⟨index, inside, rfl⟩ := List.mem_mapIdx.1 member
  exact Procedure.waits_trace _ _ 0 []

theorem tablesOf_append (first second : List Relation) :
    tablesOf (first ++ second) = tablesOf first ++ tablesOf second :=
  List.filterMap_append

theorem viewsOf_append (first second : List Relation) :
    viewsOf (first ++ second) = viewsOf first ++ viewsOf second :=
  List.filterMap_append

section

variable {ι : Type}

theorem tablesOf_tables (describe : ι → Option Table) (refs : List ι) :
    tablesOf (refs.filterMap fun ref => (describe ref).map .table) = refs.filterMap describe := by
  rw [tablesOf, List.filterMap_filterMap]
  exact List.filterMap_congr fun ref _ => by cases describe ref <;> rfl

theorem tablesOf_views (describe : ι → Option View) (refs : List ι) :
    tablesOf (refs.filterMap fun ref => (describe ref).map .view) = [] := by
  rw [tablesOf, List.filterMap_filterMap, List.filterMap_eq_nil_iff]
  exact fun ref _ => by cases describe ref <;> rfl

theorem viewsOf_tables (describe : ι → Option Table) (refs : List ι) :
    viewsOf (refs.filterMap fun ref => (describe ref).map .table) = [] := by
  rw [viewsOf, List.filterMap_filterMap, List.filterMap_eq_nil_iff]
  exact fun ref _ => by cases describe ref <;> rfl

theorem viewsOf_views (describe : ι → Option View) (refs : List ι) :
    viewsOf (refs.filterMap fun ref => (describe ref).map .view) = refs.filterMap describe := by
  rw [viewsOf, List.filterMap_filterMap]
  exact List.filterMap_congr fun ref _ => by cases describe ref <;> rfl

end

/-- The described relations of a listing come out as each of them alone, in strict order. -/
theorem sortedByKey_described {α : Type} {describe : RelationRef → Procedure α}
    {key : α → RelationKey} {refs : List RelationRef}
    (keeps : ∀ ref ∈ refs, ∀ found, (describe ref).answered answers = .ok found →
      key found = ref.key) :
    sortedByKey key ((firstOfEachKey RelationRef.key refs).filterMap
        fun ref => ((describe ref).answered answers).toOption) =
      describedAlone answers describe refs ∧
    (describedAlone answers describe refs).Pairwise
      fun a b => toLex (key a) < toLex (key b) := by
  obtain ⟨distinct, among⟩ := firstOfEachKey_spec RelationRef.key refs
  have kept : ∀ ref ∈ firstOfEachKey RelationRef.key refs, ∀ found,
      ((describe ref).answered answers).toOption = some found → key found = ref.key := by
    intro ref member found described
    cases outcome : (describe ref).answered answers with
    | error failure =>
      rw [outcome] at described
      cases described
    | ok value =>
      rw [outcome] at described
      cases described
      exact keeps ref (among member) found outcome
  obtain ⟨sorted, strict⟩ := sortedByKey_filterMap distinct kept
  rw [describedAlone, ← firstOfEachKey_eq_eraseDupsBy RelationRef.key refs]
  exact ⟨sorted, sorted ▸ strict⟩

/-- The relations that a listing comes to: those that it found, or none when it failed. A listing that is
out of time comes to nothing. -/
inductive Lists : Except Failure (List RelationRef) → List RelationRef → Prop
  | found (refs : List RelationRef) : Lists (.ok refs) refs
  | failed (failure : Failure) (other : failure.kind ≠ .timeout) : Lists (.error failure) []

instance (listing : Except Failure (List RelationRef)) (refs : List RelationRef) :
    Decidable (Lists listing refs) :=
  match listing with
  | .ok found =>
    decidable_of_iff (found = refs) ⟨fun same => same ▸ .found found, fun | .found _ => rfl⟩
  | .error failure =>
    decidable_of_iff (refs = [] ∧ failure.kind ≠ .timeout)
      ⟨fun empty => empty.1 ▸ .failed failure empty.2, fun | .failed _ other => ⟨rfl, other⟩⟩

theorem Lists.cases {listing : Except Failure (List RelationRef)} {refs : List RelationRef}
    (lists : Lists listing refs) :
    listing = .ok refs ∨ ∃ failure, listing = .error failure ∧ failure.kind ≠ .timeout ∧ refs = [] := by
  cases lists with
  | found => exact .inl rfl
  | failed failure other => exact .inr ⟨failure, rfl, other, rfl⟩

/-- Listed relations keep their keys when they are described. -/
theorem keeps_of_lists {α : Type} {listing : Except Failure (List RelationRef)}
    {refs : List RelationRef} {describe : RelationRef → Procedure α} {key : α → RelationKey}
    (lists : Lists listing refs)
    (keeps : ∀ {found : List RelationRef} {ref : RelationRef} {value : α}, listing = .ok found →
      ref ∈ found → (describe ref).answered answers = .ok value → key value = ref.key) :
    ∀ ref ∈ refs, ∀ value, (describe ref).answered answers = .ok value → key value = ref.key := by
  intro ref member value described
  rcases lists.cases with ok | ⟨failure, -, -, rfl⟩
  · exact keeps ok member described
  · cases member

/-- A listing without a deadline takes as long as its queries. -/
theorem listWithin_endless (kind : String) {listing : Trace (List RelationRef)}
    (progress : Progress) {refs : List RelationRef} (lists : Lists listing.outcome refs) :
    (listWithin kind listing none progress).1 = some refs ∧
      (listWithin kind listing none progress).2.now = progress.now + listing.duration := by
  rcases lists.cases with ok | ⟨failure, error, other, rfl⟩
  · simp [listWithin, remaining, TimeLimit.allows, ok, Progress.log]
  · simp [listWithin, remaining, TimeLimit.allows, error, other, Progress.log]

/-- A deadline after the end of a listing does not change it. -/
theorem listWithin_of_endsBefore (kind : String) {listing : Trace (List RelationRef)}
    {deadline : Option Rat} {progress : Progress} (waits : listing.Waits)
    (ends : ∀ limit ∈ deadline, progress.now + listing.duration < limit) :
    listWithin kind listing deadline progress = listWithin kind listing none progress := by
  cases deadline with
  | none => rfl
  | some limit =>
    have nonneg := waits.duration_nonneg
    have lasts : listing.duration < limit - progress.now := by linarith [ends limit rfl]
    have left : 0 < limit - progress.now := nonneg.trans_lt lasts
    have allowed : (remaining (some limit) progress.now).allows listing.duration = true := by
      simp [remaining, later, not_le.2 left, TimeLimit.allows, left, lasts]
    have endless : (remaining none progress.now).allows listing.duration = true := rfl
    simp only [listWithin, allowed, endless, if_true]

section

variable (same : ∀ site call, (connection site call).answer = answers call)
  (keeps : engine.KeepsKeys answers)
  (tablesListed : Lists (engine.tables.answered answers) tables)
  (viewsListed : Lists (engine.views.answered answers) views)

include same keeps tablesListed viewsListed

/-- When every task has ended as its trace says, the introspection is complete, and has found what each
relation is described as alone. -/
theorem ofPool_of_ended {pool : Pool (Option Relation)}
    (ended : pool.tasks = (describeTraces engine connection (firstOfEachKey RelationRef.key tables)
      (firstOfEachKey RelationRef.key views)).map fun trace => .finished trace.outcome)
    (budget : Binary64) (deadline : Option Rat) (progress : Progress) (now : Rat) :
    let found := Introspection.ofPool budget deadline progress now pool
    found.schema = schemaAlone answers engine tables views ∧ found.complete = true ∧
      found.warnings = [] ∧ found.progress.now = now := by
  have complete := Pool.pending_of_tasks_eq ended
  have relations : pool.results.filterMap id =
      ((firstOfEachKey RelationRef.key tables).filterMap fun ref =>
        ((engine.describeTable ref).answered answers).toOption.map .table) ++
      (firstOfEachKey RelationRef.key views).filterMap fun ref =>
        ((engine.describeView ref).answered answers).toOption.map .view := by
    rw [Pool.results_of_tasks_eq ended,
      outcomes_describeTraces same, List.filterMap_append, List.filterMap_append, List.filterMap_map,
      List.filterMap_filterMap, List.filterMap_map, List.filterMap_filterMap]
    rfl
  have tablesFound := (sortedByKey_described (keeps_of_lists tablesListed keeps.table)).1
  have viewsFound := (sortedByKey_described (keeps_of_lists viewsListed keeps.view)).1
  simp only [Introspection.ofPool, complete, relations, tablesOf_append, tablesOf_tables,
    tablesOf_views, viewsOf_append, viewsOf_tables, viewsOf_views, List.append_nil, List.nil_append,
    tablesFound, viewsFound]
  simp [schemaAlone, Progress.log]

end

/-! ### A budget that lasts

The run without a budget is compared with the run with one. A deadline behind the end of a phase does not
change the phase, so that a budget which outlasts the whole run leaves the test, both listings and all
descriptions as they are; and the run without a budget ends every task, where the schema is known. -/

/-- A budget lasts when an introspection without any budget is over before it is used up. -/
def BudgetLasts (dialect : Dialect) (connection : Connection) (budget : Binary64)
    (concurrency : Int) : Prop :=
  ∀ found, introspect dialect connection (.infinite false) concurrency = .ok found →
    ∀ deadline ∈ deadlineAfter 0 budget, found.progress.now < deadline

/-- The trace of a procedure in a phase. -/
def Connection.traceOf {α : Type} (connection : Connection) (phase : Phase)
    (procedure : Procedure α) : Trace α :=
  procedure.trace (connection.during phase) 0 []

theorem outcome_traceOf {α : Type} (same : ∀ site call, (connection site call).answer = answers call)
    (phase : Phase) (procedure : Procedure α) :
    (connection.traceOf phase procedure).outcome = procedure.answered answers :=
  procedure.outcome_trace (fun _ call => same _ call) 0 []

theorem waits_traceOf {α : Type} (connection : Connection) (phase : Phase)
    (procedure : Procedure α) : (connection.traceOf phase procedure).Waits :=
  procedure.waits_trace _ 0 []

/-- How far an introspection is when the connection has been tested. -/
def afterProbe (engine : Engine) (connection : Connection) : Progress :=
  let begun := (Progress.mk 0 []).log .info s!"Starting {engine.dialect.name} schema introspection"
  let probed := connection.traceOf .probe engine.probe
  ⟨begun.now + probed.duration, begun.happened ++ probed.happenings⟩

/-- How far an introspection without a budget is when the tables are listed. -/
def afterTables (engine : Engine) (connection : Connection) : Progress :=
  (listWithin "tables" (connection.traceOf .tables engine.tables) none
    (afterProbe engine connection)).2

/-- How far an introspection without a budget is when the views are listed, too. -/
def afterViews (engine : Engine) (connection : Connection) : Progress :=
  (listWithin "views" (connection.traceOf .views engine.views) none
    (afterTables engine connection)).2

section

variable {dialect : Dialect} {budget : Binary64} {concurrency : Int}

/-- An introspection whose listings are those of one without a budget describes what they list. -/
theorem introspect_of_listed (enough : 1 ≤ concurrency)
    (works : (connection.traceOf .probe (Engine.ofDialect dialect).probe).outcome = .ok true)
    (tablesListed : listWithin "tables"
      (connection.traceOf .tables (Engine.ofDialect dialect).tables) (deadlineAfter 0 budget)
      (afterProbe (.ofDialect dialect) connection) =
        (some tables, afterTables (.ofDialect dialect) connection))
    (viewsListed : listWithin "views"
      (connection.traceOf .views (Engine.ofDialect dialect).views) (deadlineAfter 0 budget)
      (afterTables (.ofDialect dialect) connection) =
        (some views, afterViews (.ofDialect dialect) connection)) :
    introspect dialect connection budget concurrency =
      .ok (describeAll (.ofDialect dialect) connection budget (deadlineAfter 0 budget)
        concurrency.toNat tables views (afterViews (.ofDialect dialect) connection)) := by
  rw [afterProbe] at tablesListed
  simp only [Connection.traceOf] at works tablesListed viewsListed
  simp only [introspect, introspectFrom, works, listAndDescribe, tablesListed, viewsListed]
  rw [if_neg (by omega)]

end

theorem describeAll_eq (engine : Engine) (connection : Connection) (budget : Binary64)
    (deadline : Option Rat) (workers : Nat) (tables views : List RelationRef) (progress : Progress) :
    let run := (describingPool engine connection workers tables views).runUntil deadline progress.now
    describeAll engine connection budget deadline workers tables views progress =
      .ofPool budget deadline progress run.1 run.2 := rfl

theorem timely_describingPool (workers : Nat) (now : Rat) :
    (describingPool engine connection workers tables views).Timely now :=
  Pool.timely_ofTraces workers (waits_describeTraces _ _)

section

variable {dialect : Dialect} {budget : Binary64} {concurrency : Int}

/-- An introspection with a budget that lasts goes the way of one without a budget. -/
theorem introspect_of_lasts
    (same : ∀ site call, (connection site call).answer = answers call)
    (works : (Engine.ofDialect dialect).probe.answered answers = .ok true)
    (tablesListed : Lists ((Engine.ofDialect dialect).tables.answered answers) tables)
    (viewsListed : Lists ((Engine.ofDialect dialect).views.answered answers) views)
    (enough : 1 ≤ concurrency) (lasts : BudgetLasts dialect connection budget concurrency) :
    let listed := afterViews (.ofDialect dialect) connection
    let run := (describingPool (.ofDialect dialect) connection concurrency.toNat tables
      views).runUntil none listed.now
    introspect dialect connection budget concurrency =
      .ok (.ofPool budget (deadlineAfter 0 budget) listed run.1 run.2) := by
  intro listed run
  have workers : 1 ≤ concurrency.toNat := by omega
  have keeps : (Engine.ofDialect dialect).KeepsKeys answers := Engine.keepsKeys_ofDialect dialect
  have probed := (outcome_traceOf same .probe (Engine.ofDialect dialect).probe).trans works
  obtain ⟨tablesFound, tablesNow⟩ := listWithin_endless "tables" (afterProbe (.ofDialect dialect) connection)
    ((outcome_traceOf same .tables (Engine.ofDialect dialect).tables).symm ▸ tablesListed)
  obtain ⟨viewsFound, viewsNow⟩ := listWithin_endless "views" (afterTables (.ofDialect dialect) connection)
    ((outcome_traceOf same .views (Engine.ofDialect dialect).views).symm ▸ viewsListed)
  have endless : introspect dialect connection (.infinite false) concurrency = _ :=
    introspect_of_listed enough probed (Prod.ext tablesFound rfl)
      (Prod.ext viewsFound rfl)
  have atEnd := (ofPool_of_ended same keeps tablesListed viewsListed
    (show run.2.tasks = _ from Pool.tasks_of_runUntil workers) (.infinite false) none listed run.1).2.2.2
  have ends : ∀ limit ∈ deadlineAfter 0 budget, run.1 < limit := by
    intro limit budgeted
    have before := lasts _ endless limit budgeted
    rw [describeAll_eq] at before
    exact atEnd ▸ before
  have timely : Pool.Timely listed.now
      (describingPool (.ofDialect dialect) connection concurrency.toNat tables views) :=
    timely_describingPool _ _
  have described := Pool.runUntil_of_endsBefore timely ends
  have onward : listed.now ≤ run.1 := timely.le_runUntil
  have tablesWait := waits_traceOf connection .tables (Engine.ofDialect dialect).tables
  have viewsWait := waits_traceOf connection .views (Engine.ofDialect dialect).views
  have viewsSame := listWithin_of_endsBefore "views" viewsWait
    fun limit budgeted => viewsNow ▸ onward.trans_lt (ends limit budgeted)
  have tablesBefore : (afterTables (.ofDialect dialect) connection).now ≤ listed.now :=
    (le_add_of_nonneg_right viewsWait.duration_nonneg).trans viewsNow.ge
  have tablesSame := listWithin_of_endsBefore "tables" tablesWait
    fun limit budgeted => tablesNow ▸ tablesBefore.trans_lt (onward.trans_lt (ends limit budgeted))
  rw [introspect_of_listed enough probed (tablesSame.trans (Prod.ext tablesFound rfl))
    (viewsSame.trans (Prod.ext viewsFound rfl)), describeAll_eq, described]

/-- The schema of a complete introspection is determined. Let the connection answer each call by its
statement and parameters alone, after any delay. Then an introspection whose budget lasts, with any
number of workers, is complete and without warnings, and its schema has what each listed relation is
described as alone, in the strict order of schema and name. The same holds for every other schedule of
the tasks that describe relations, in which they may take slots, get answers and end in any order: none has
more steps than there is work, and at its end the schema is this one. -/
theorem introspect_determined
    (same : ∀ site call, (connection site call).answer = answers call)
    (works : (Engine.ofDialect dialect).probe.answered answers = .ok true)
    (tablesListed : Lists ((Engine.ofDialect dialect).tables.answered answers) tables)
    (viewsListed : Lists ((Engine.ofDialect dialect).views.answered answers) views)
    (enough : 1 ≤ concurrency) :
    let expected := schemaAlone answers (.ofDialect dialect) tables views
    expected.tables.Pairwise (fun a b => toLex a.key < toLex b.key) ∧
    expected.views.Pairwise (fun a b => toLex a.key < toLex b.key) ∧
    (BudgetLasts dialect connection budget concurrency →
      ∃ found, introspect dialect connection budget concurrency = .ok found ∧
        found.schema = expected ∧ found.complete = true ∧ found.warnings = []) ∧
    ∀ (schedule : List (Rat × Action)) (pool : Pool (Option Relation)),
      (∀ step ∈ schedule, step.2.Continues) →
      (describingPool (.ofDialect dialect) connection concurrency.toNat tables views).follow
        schedule = some pool →
      schedule.length ≤ total Pool.workLeft (describingPool (.ofDialect dialect) connection
        concurrency.toNat tables views).tasks ∧
      (pool.Stuck →
        ∀ (deadline : Option Rat) (progress : Progress) (now : Rat),
          let found := Introspection.ofPool budget deadline progress now pool
          found.schema = expected ∧ found.complete = true ∧ found.warnings = []) := by
  have keeps : (Engine.ofDialect dialect).KeepsKeys answers := Engine.keepsKeys_ofDialect dialect
  have workers : 1 ≤ concurrency.toNat := by omega
  refine ⟨(sortedByKey_described (keeps_of_lists tablesListed keeps.table)).2,
    (sortedByKey_described (keeps_of_lists viewsListed keeps.view)).2, ?_, ?_⟩
  · intro lasts
    have found := introspect_of_lasts same works tablesListed viewsListed enough lasts
    obtain ⟨schema, complete, warnings, -⟩ := ofPool_of_ended same keeps tablesListed viewsListed
      (Pool.tasks_of_runUntil workers) budget (deadlineAfter 0 budget) _ _
    exact ⟨_, found, schema, complete, warnings⟩
  · intro schedule pool continues followed
    refine ⟨Nat.le_of_add_right_le (Pool.length_le_of_follow continues followed),
      fun stuck deadline progress now => ?_⟩
    have ended := Pool.tasks_of_follow workers continues followed stuck
    obtain ⟨schema, complete, warnings, -⟩ :=
      ofPool_of_ended same keeps tablesListed viewsListed ended budget deadline progress now
    exact ⟨schema, complete, warnings⟩

end

/-- The answers of a catalog that lists the tables b, a and b, and fails to describe a. -/
def sampleAnswers (call : Call) : Except Failure Value :=
  if call.sql = Mysql.tablesQuery then
    .ok (.list (["b", "a", "b"].map fun name => .mapping [(.name "table_name", .text name)]))
  else if call.sql = "DESCRIBE " ++ quoteMysql "a" then
    .error (.ofMessage .mysqlProgramming "no table a")
  else .ok (.list [])

/-- A connection to this catalog on which the first description takes longest. -/
def sampleConnection : Connection := fun site call =>
  { delay := if site.phase = .relation 0 then 5 else 1, answer := sampleAnswers call }

theorem answer_sampleConnection (site : Site) (call : Call) :
    (sampleConnection site call).answer = sampleAnswers call := by
  rw [sampleConnection]

/-- The tables that the catalog lists. -/
def sampleTables : List RelationRef :=
  [{ name := "b" }, { name := "a" }, { name := "b" }]

theorem budgetLasts_sample : BudgetLasts .mysql sampleConnection (.ofInt 60) 2 := by
  intro found endless limit budgeted
  have atEnd : (introspect .mysql sampleConnection (.infinite false) 2).toOption.map
      (fun found => found.progress.now) = some 7 := by decide +kernel
  have sixty : deadlineAfter 0 (.ofInt 60) = some 60 := by decide +kernel
  rw [endless] at atEnd
  rw [sixty] at budgeted
  cases budgeted
  have seven : found.progress.now = 7 := Option.some.inj atEnd
  rw [seven]
  norm_num

theorem schemaAlone_sample :
    schemaAlone sampleAnswers .mysql sampleTables [] = { tables := [{ name := "b" }] } := by
  have first : sampleTables.eraseDupsBy (fun later first => first.key == later.key) =
      [{ name := "b" }, { name := "a" }] := by decide +kernel
  have after : ¬ toLex (RelationRef.key { name := "b" }) ≤ toLex (RelationRef.key { name := "a" }) := by
    decide +kernel
  have sorted : ([{ name := "b" }, { name := "a" }] : List RelationRef).mergeSort
      (fun a b => toLex a.key ≤ toLex b.key) = [{ name := "a" }, { name := "b" }] := by
    simp [List.mergeSort, after]
  rw [schemaAlone, describedAlone, first, sorted]
  decide +kernel

theorem tablesListed_sample :
    Lists ((Engine.ofDialect .mysql).tables.answered sampleAnswers) sampleTables := by
  decide +kernel

theorem viewsListed_sample :
    Lists ((Engine.ofDialect .mysql).views.answered sampleAnswers) [] := by
  decide +kernel

theorem introspect_sample :
    (∀ site call, (sampleConnection site call).answer = sampleAnswers call) ∧
    (Engine.ofDialect .mysql).probe.answered sampleAnswers = .ok true ∧
    Lists ((Engine.ofDialect .mysql).tables.answered sampleAnswers) sampleTables ∧
    Lists ((Engine.ofDialect .mysql).views.answered sampleAnswers) [] ∧
    BudgetLasts .mysql sampleConnection (.ofInt 60) 2 ∧
    ∃ found, introspect .mysql sampleConnection (.ofInt 60) 2 = .ok found ∧
      found.schema = { tables := [{ name := "b" }] } ∧ found.complete = true ∧
      found.warnings = [] := by
  have works : (Engine.ofDialect .mysql).probe.answered sampleAnswers = .ok true := rfl
  refine ⟨answer_sampleConnection, works, ?_, ?_, ?_, ?_⟩
  · exact tablesListed_sample
  · exact viewsListed_sample
  · exact budgetLasts_sample
  obtain ⟨-, -, clocked, -⟩ := @introspect_determined _ _ _ _ .mysql (.ofInt 60) 2
    answer_sampleConnection works tablesListed_sample viewsListed_sample (by decide)
  obtain ⟨found, run, schema, complete, warnings⟩ := clocked budgetLasts_sample
  exact ⟨found, run, schema.trans schemaAlone_sample, complete, warnings⟩

end QueryDesk.Catalog
