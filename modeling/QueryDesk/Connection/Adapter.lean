/-
Module: QueryDesk.Connection.Adapter
Purpose: Adapters over database drivers. An adapter writes the parameters of a statement the way its
  driver does, runs the statement on a cursor that it always closes, and returns the rows in its
  driver's shape. What reaches the driver is recorded in order.
Imports: QueryDesk.Connection.Call, QueryDesk.Connection.Result, QueryDesk.Connection.MysqlUrl,
  QueryDesk.Sql.Parameter
Main exports: DriverEvent, CursorAnswers, AdapterKind, Adapter, Adapter.execute, Adapter.connect,
  Adapter.close
-/
import QueryDesk.Connection.Call
import QueryDesk.Connection.Result
import QueryDesk.Connection.MysqlUrl
import QueryDesk.Sql.Parameter

namespace QueryDesk

open QueryDesk.Sql

/-- What reaches a driver. -/
inductive DriverEvent where
  | connect (arguments : Mapping)
  | fetch (sql : String) (params : List Value) (timeout : Option Number.Measure)
  | execute (sql : String) (params : Option (List Value))
  | closeCursor
  | close
deriving Repr, Inhabited, BEq

/-- How a driver answers one statement: whether a cursor opens, whether the statement runs, the
names of its columns if it has any, its rows, whether the cursor closes, and the seconds that pass
before it runs. -/
structure CursorAnswers where
  opened : Except Failure Unit := .ok ()
  executed : Except Failure Unit := .ok ()
  columns : Option (List String) := none
  fetched : Except Failure (List Value) := .ok []
  closed : Except Failure Unit := .ok ()
  delay : Rat := 0
deriving Repr, Inhabited

/-- The kinds of drivers: the Postgres driver fetches without a cursor, the MySQL driver waits for
its server, and a blocking driver runs every statement at once. -/
inductive AdapterKind where
  | postgres
  | mysql
  | blocking
deriving Repr, Inhabited, DecidableEq

/-- An adapter: the kind of its driver, how it writes parameters, and whether a statement holds its
lock. -/
structure Adapter where
  kind : AdapterKind
  style : ParamStyle
  locked : Bool := false
deriving Repr, Inhabited, DecidableEq

namespace Adapter

/-- An adapter over the Postgres driver. -/
def postgres : Adapter := ⟨.postgres, .numbered "dollar", false⟩

/-- An adapter over the MySQL driver. -/
def mysql : Adapter := ⟨.mysql, .format, false⟩

/-- An adapter over a blocking driver. -/
def blocking (style : ParamStyle := .questionMark) : Adapter := ⟨.blocking, style, false⟩

/-- The statement as the driver gets it. Placeholders are respelled only when there are
parameters. -/
def statement (adapter : Adapter) (call : Call) : String :=
  if (call.params.getD []).isEmpty then call.sql
  else String.ofList (spellPlaceholders adapter.style call.sql.toList)

/-- The outcome of a body after which a cursor is closed. A failure to close takes the place of the
outcome. -/
def closing (answers : CursorAnswers) (events : List DriverEvent)
    (outcome : Except Failure RawResult) : List DriverEvent × Except Failure RawResult :=
  match answers.closed with
  | .ok () => (events ++ [.closeCursor], outcome)
  | .error failure => (events ++ [.closeCursor], .error failure)

/-- A row as a tuple of its cells. -/
def tupleRow : Value → Value
  | .list cells => .tuple cells
  | other => other

/-- The rows that a cursor fetched, under the names of its columns. -/
def cursorRows (answers : CursorAnswers) (names : List String) : Except Failure RawResult :=
  answers.fetched.map fun rows =>
    { shape := .rowsAndFields, rows := rows.map tupleRow, fields := names }

/-- The rows that a blocking driver hands over after a statement, each as the tuple of its items. A
statement without columns has no rows, and a row without items fails. -/
def tupleRows (answers : CursorAnswers) : Except Failure RawResult :=
  match answers.columns with
  | none => .ok { shape := .rowsAndFields }
  | some names => do
    let rows ← answers.fetched
    let tuples ← rows.mapM fun row => row.items.map Value.tuple
    return { shape := .rowsAndFields, rows := tuples, fields := names }

/-- Runs a statement on a cursor of a blocking driver. -/
def runBlocking (answers : CursorAnswers) (sql : String) (params : List Value) :
    List DriverEvent × Except Failure RawResult :=
  match answers.opened with
  | .error failure => ([], .error failure)
  | .ok () =>
    closing answers [.execute sql (some params)]
      (match answers.executed with
      | .error failure => .error failure
      | .ok () => tupleRows answers)

/-- Runs a statement on a cursor of the MySQL driver. The statement is on its way only after the
delay, and the cursor is closed also when time runs out before. -/
def runMysql (answers : CursorAnswers) (limit : TimeLimit) (sql : String)
    (params : Option (List Value)) : List DriverEvent × Except Failure RawResult :=
  match answers.opened with
  | .error failure => ([], .error failure)
  | .ok () =>
    if limit.allows answers.delay then
      closing answers [.execute sql params]
        (match answers.executed with
        | .error failure => .error failure
        | .ok () => cursorRows answers (answers.columns.getD []))
    else closing answers [] (.error .elapsed)

/-- A record or mapping as a mapping. -/
def recordRow : Value → Value
  | .record entries => .mapping (Mapping.ofPairs entries)
  | other => other

/-- The names of the columns of a row. -/
def recordNames : Value → List String
  | .mapping entries => entries.map fun entry => entry.1.value.display
  | .record entries => entries.map fun entry => entry.1.value.display
  | _ => []

/-- Fetches the records of a statement. -/
def fetchRecords (answers : CursorAnswers) : Except Failure RawResult := do
  answers.executed
  let rows ← answers.fetched
  return {
    shape := .rowsEnvelope
    rows := rows.map recordRow
    fields := (rows.head?.map recordNames).getD [] }

/-- What the driver makes of a call, given the statement in its own style. -/
def run (adapter : Adapter) (answers : CursorAnswers) (call : Call) (sql : String) :
    List DriverEvent × Except Failure RawResult :=
  let params := call.params.getD []
  let limit := TimeLimit.ofMeasure? call.timeout
  match adapter.kind with
  | .postgres => ([.fetch sql params call.timeout], fetchRecords answers)
  | .blocking =>
    if limit.starts then runBlocking answers sql params else ([], .error .elapsed)
  | .mysql =>
    if limit.starts then
      runMysql answers limit sql (if params.isEmpty then none else some params)
    else ([], .error .elapsed)

/-- Executes a statement under the lock, which is free again afterwards. A call that finds the lock
taken waits until its time is up. -/
def execute (adapter : Adapter) (answers : String → List Value → CursorAnswers) (call : Call) :
    Adapter × List DriverEvent × Except Failure RawResult :=
  if adapter.locked then (adapter, [], .error .elapsed)
  else
    let held := { adapter with locked := true }
    let sql := adapter.statement call
    let (events, outcome) := held.run (answers sql (call.params.getD [])) call sql
    ({ held with locked := false }, events, outcome)

/-- The path of a database that is kept in memory. -/
def memoryPath : String := ":memory:"

/-- Opens a connection of the same kind. The one before it is not closed. -/
def connect (adapter : Adapter) (address : Option String) :
    Except Failure (Adapter × List DriverEvent) :=
  match adapter.kind with
  | .postgres =>
    .ok (postgres, [.connect [(.name "dsn", .ofText? address)]])
  | .mysql => do
    let parsed ← MysqlAddress.ofUrl (address.getD "")
    return (mysql, [.connect parsed.arguments])
  | .blocking =>
    .ok (blocking,
      [.connect [(.name "path", .text (address.getD memoryPath)),
        (.name "check_same_thread", .bool false)]])

/-- Closes the connection. -/
def close : List DriverEvent := [.close]

end Adapter

end QueryDesk
