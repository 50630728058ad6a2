/-
Module: QueryDesk.Catalog.Introspection
Purpose: The introspection of a data source. The connection is tested, tables and views are listed
  and then described by a pool of workers, all within one budget of time; a relation that cannot be
  described is left out, and the schema comes out in the order of schema and name.
Imports: QueryDesk.Catalog.Pool, QueryDesk.Catalog.Postgres, QueryDesk.Catalog.Mysql,
  QueryDesk.Catalog.SqlServer, QueryDesk.Catalog.Sqlite, QueryDesk.Error
Main exports: Engine.ofDialect, Phase, Site, Connection, Relation, guarded, listWithin,
  Introspection, Introspection.ofPool, introspect
-/
import QueryDesk.Catalog.Pool
import QueryDesk.Catalog.Postgres
import QueryDesk.Catalog.Mysql
import QueryDesk.Catalog.SqlServer
import QueryDesk.Catalog.Sqlite
import QueryDesk.Error

namespace QueryDesk.Catalog

open QueryDesk.Number

/-- The engine of a dialect. -/
def Engine.ofDialect : Dialect → Engine
  | .postgres => .postgres
  | .mysql => .mysql
  | .sqlserver => .sqlServer
  | .sqlite => .sqlite
  | .generic => .generic

/-- The part of an introspection in which a call is made. Relations are counted from zero, tables
before views. -/
inductive Phase where
  | probe
  | tables
  | views
  | relation (index : Nat)
deriving Repr, Inhabited, DecidableEq

/-- A call within an introspection: its phase, and how many calls of this phase came before. -/
structure Site where
  phase : Phase
  turn : Nat
deriving Repr, Inhabited, DecidableEq

/-- A connection, which may answer each call as it likes. -/
abbrev Connection := Site → Call → Reply

/-- The replies of a connection in one phase. -/
def Connection.during (connection : Connection) (phase : Phase) (turn : Nat) (call : Call) :
    Reply :=
  connection ⟨phase, turn⟩ call

/-- A described relation. -/
inductive Relation where
  | table (found : Table)
  | view (found : View)
deriving Repr, Inhabited, DecidableEq

/-- The description of a relation as a task: a failure is noted and leaves the relation out. -/
def guarded {α : Type} (ref : RelationRef) (describe : Procedure α) (wrap : α → Relation) :
    Procedure (Option Relation) :=
  Procedure.recover (describe.bind fun found => return some (wrap found)) fun failure =>
    .log
      { level := .warning
        event := (DeskError.introspection ref.fullName failure.text).message
        context := [(.name "relation", .text ref.fullName)] }
      (return none)

/-- The outcome of a phase: its value, and the moment and the happenings at its end. -/
structure Progress where
  now : Rat
  happened : List Happening
deriving Repr, Inhabited

/-- Adds a log entry. -/
def Progress.log (progress : Progress) (level : LogLevel) (message : String)
    (context : Mapping := []) : Progress :=
  { progress with
    happened := progress.happened ++
      [.logged { level := level, event := message, context := context }] }

/-- The time that is left before a deadline, never negative. -/
def remaining (deadline : Option Rat) (now : Rat) : TimeLimit :=
  match deadline with
  | none => .unlimited
  | some moment => .within (later (moment - now) 0)

/-- The moment at which a limit that begins now is used up. -/
def limitEnd (now : Rat) : TimeLimit → Rat
  | .unlimited => now
  | .within seconds => now + seconds

/-- Runs a listing within the time that is left. It is absent when time ran out, and empty when it
failed otherwise. -/
def listWithin (kind : String) (listing : Trace (List RelationRef)) (deadline : Option Rat)
    (progress : Progress) : Option (List RelationRef) × Progress :=
  let limit := remaining deadline progress.now
  if limit.allows listing.duration then
    let ended : Progress :=
      ⟨progress.now + listing.duration, progress.happened ++ listing.happenings⟩
    match listing.outcome with
    | .ok refs => (some refs, ended.log .info s!"Found {refs.length} {kind}")
    | .error failure =>
      if failure.kind = .timeout then (none, ended.log .warning s!"Listing {kind} timed out")
      else
        (some [], ended.log .warning s!"Failed to list {kind}: {failure.text}"
          [(.name "error", .text failure.text)])
  else
    let ended : Progress :=
      ⟨limitEnd progress.now limit, progress.happened ++ listing.happeningsWithin limit⟩
    (none, ended.log .warning s!"Listing {kind} timed out")

/-- The tasks that describe tables and views, each as its trace. -/
def describeTraces (engine : Engine) (connection : Connection) (tables views : List RelationRef) :
    List (Trace (Option Relation)) :=
  let tasks :=
    (tables.map fun ref => guarded ref (engine.describeTable ref) .table) ++
      (views.map fun ref => guarded ref (engine.describeView ref) .view)
  tasks.mapIdx fun index task => task.trace (connection.during (.relation index)) 0 []

/-- The tables among relations. -/
def tablesOf (relations : List Relation) : List Table :=
  relations.filterMap fun
    | .table found => some found
    | .view _ => none

/-- The views among relations. -/
def viewsOf (relations : List Relation) : List View :=
  relations.filterMap fun
    | .view found => some found
    | .table _ => none

/-- What an introspection found, what happened on the way, and the moment of its end. -/
structure Introspection where
  schema : Schema
  warnings : List String
  complete : Bool
  progress : Progress
deriving Repr, Inhabited

/-- The end of an introspection that found nothing. -/
def Introspection.empty (progress : Progress) (warnings : List String := [])
    (complete : Bool := true) : Introspection :=
  ⟨{}, warnings, complete, progress⟩

/-- The end of an introspection whose tasks stand at a moment as they do in a pool. Relations that were
not described are counted in a warning. -/
def Introspection.ofPool (budget : Binary64) (deadline : Option Rat) (progress : Progress) (now : Rat)
    (pool : Pool (Option Relation)) : Introspection :=
  let happened := progress.happened ++ pool.happened
  let relations := pool.results.filterMap id
  let schema : Schema :=
    { tables := sortedByKey Table.key (tablesOf relations)
      views := sortedByKey View.key (viewsOf relations) }
  let complete := pool.pending == 0
  let message := s!"Introspection budget of {budget.generalText}s exhausted; " ++
    s!"{pool.pending} of {pool.tasks.length} relations were not introspected"
  let ended : Progress :=
    if complete then ⟨now, happened⟩
    else (Progress.mk (later now (deadline.getD now)) happened).log .warning message
  { schema := schema
    warnings := if complete then [] else [message]
    complete := complete
    progress := ended.log .info
      (s!"Schema introspection complete: {schema.tables.length} tables, " ++
        s!"{schema.views.length} views")
      [(.name "complete", .bool complete)] }

/-- Describes the listed relations with so many workers, up to the deadline. -/
def describeAll (engine : Engine) (connection : Connection) (budget : Binary64)
    (deadline : Option Rat) (workers : Nat) (tables views : List RelationRef)
    (progress : Progress) : Introspection :=
  let traces := describeTraces engine connection (firstOfEachKey RelationRef.key tables)
    (firstOfEachKey RelationRef.key views)
  let (now, pool) := (Pool.ofTraces workers traces).runUntil deadline progress.now
  .ofPool budget deadline progress now pool

/-- The moment that is a budget after another one, absent for a budget without end. -/
def deadlineAfter (start : Rat) (budget : Binary64) : Option Rat :=
  match TimeLimit.ofSeconds budget with
  | .unlimited => none
  | .within seconds => some (start + seconds)

/-- The introspection of a data source whose connection has been tested. -/
def listAndDescribe (engine : Engine) (connection : Connection) (budget : Binary64)
    (deadline : Option Rat) (concurrency : Int) (progress : Progress) :
    Except Failure Introspection :=
  let (tables, afterTables) := listWithin "tables"
    (engine.tables.trace (connection.during .tables) 0 []) deadline progress
  let (views, afterViews) := listWithin "views"
    (engine.views.trace (connection.during .views) 0 []) deadline afterTables
  match tables, views with
  | some tables, some views =>
    if concurrency < 0 then
      .error (.ofMessage .badValue "Semaphore initial value must be >= 0")
    else
      .ok (describeAll engine connection budget deadline concurrency.toNat tables views afterViews)
  | _, _ =>
    .ok (.empty afterViews
      [s!"Introspection budget of {budget.generalText}s exhausted while listing relations"] false)

/-- The introspection of a data source from a moment on: a budget of seconds for all of it, and so
many relations described at the same time. -/
def introspectFrom (start : Rat) (engine : Engine) (connection : Connection) (budget : Binary64)
    (concurrency : Int) : Except Failure Introspection :=
  let deadline := deadlineAfter start budget
  let begun := (Progress.mk start []).log .info
    s!"Starting {engine.dialect.name} schema introspection"
  let probed := engine.probe.trace (connection.during .probe) 0 []
  let progress : Progress :=
    ⟨begun.now + probed.duration, begun.happened ++ probed.happenings⟩
  match probed.outcome with
  | .error failure => .error failure
  | .ok false => .ok (.empty progress)
  | .ok true => listAndDescribe engine connection budget deadline concurrency progress

/-- The introspection of a data source. -/
def introspect (dialect : Dialect) (connection : Connection) (budget : Binary64)
    (concurrency : Int) : Except Failure Introspection :=
  introspectFrom 0 (.ofDialect dialect) connection budget concurrency

/-- A log entry as a line with its time. -/
def logLine (stamp : String) (entry : LogEvent) : String :=
  "[" ++ stamp ++ "] " ++ entry.event

/-- The report of an introspection, its log lines at the given time. -/
def Introspection.report (found : Introspection) (stamp : String) : SchemaReport :=
  { schema := found.schema
    logs := (logEntries found.progress.happened).map (logLine stamp)
    warnings := found.warnings
    complete := found.complete }

/-- The log events of an introspection, bound to its dialect. -/
def Introspection.events (found : Introspection) (dialect : Dialect) : List LogEvent :=
  (logEntries found.progress.happened).map fun entry =>
    { entry with context := (.name "dialect", .text dialect.name) :: entry.context }

end QueryDesk.Catalog
