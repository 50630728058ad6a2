/-
Module: QueryDesk.Service.Query
Purpose: The service that callers talk to. It lets a read through the gate, bounds it to a page, sends
  it at most once, shapes the answer, and leaves log events and one audit event behind.
Imports: QueryDesk.Catalog.Introspection, QueryDesk.Page.Paging, QueryDesk.Service.Audit,
  QueryDesk.Service.Logging, QueryDesk.Service.Outcome, QueryDesk.Service.Settings,
  QueryDesk.Sql.Surface
Main exports: QueryService, QueryService.ofSettings, QueryRequest, Stopwatch, Execution,
  QueryService.execute, QueryService.introspect
-/
import QueryDesk.Catalog.Introspection
import QueryDesk.Page.Paging
import QueryDesk.Service.Audit
import QueryDesk.Service.Logging
import QueryDesk.Service.Outcome
import QueryDesk.Service.Settings
import QueryDesk.Sql.Surface

namespace QueryDesk

open QueryDesk.Number QueryDesk.Text QueryDesk.Sql QueryDesk.Catalog

/-- The service: its settings, and where its audit events go. -/
structure QueryService where
  settings : Settings
  sink : AuditSink
deriving Repr, DecidableEq

/-- The service of settings. -/
def QueryService.ofSettings (settings : Settings) : Except Failure QueryService :=
  (AuditSink.ofNames settings.auditStorage settings.auditFilePath).map fun sink =>
    ⟨settings, sink⟩

/-- A query as a caller submits it. -/
structure QueryRequest where
  sql : String
  clientType : Option String := some defaultClientType
  limit : Option Int := none
  offset : Option Int := some 0
  timeout : Option Measure := none
  dataSource : Option String := none
deriving Repr, Inhabited, DecidableEq

/-- The dialect of a request. -/
def QueryRequest.dialect (request : QueryRequest) : Dialect :=
  Dialect.resolve request.clientType

/-- What a clock shows, in seconds, before a statement is sent and after its answer. -/
structure Stopwatch where
  started : Binary64 := .zero
  finished : Binary64 := .zero
deriving Repr, Inhabited, DecidableEq

namespace Stopwatch

/-- The seconds in between. -/
def seconds (watch : Stopwatch) : Binary64 :=
  watch.finished.sub watch.started

/-- The milliseconds in between. -/
def milliseconds (watch : Stopwatch) : Binary64 :=
  watch.seconds.mul (.ofInt 1000)

end Stopwatch

/-- What executing a request leads to: a result, the calls on the connection, the events for the log
and an audit event. -/
structure Execution where
  result : Except Fault ExecutionOutcome
  sent : List Call := []
  log : List LogEvent := []
  audit : Option AuditEvent := none
deriving Repr

/-- The events that an execution leaves in the log of a service, its audit event last. The log and the
audit file are taken to accept every event. -/
def Execution.logged (execution : Execution) (sink : AuditSink) : List LogEvent :=
  execution.log ++ execution.audit.toList.flatMap sink.logged

/-- What an execution adds to the audit file of a service. -/
def Execution.written (execution : Execution) (sink : AuditSink) : String :=
  String.join (execution.audit.toList.map sink.written)

/-- The name of a dialect as part of the context of an event. -/
def dialectEntry (dialect : Dialect) : Key × Value :=
  (.name "dialect", .text dialect.name)

/-- The event of a statement that the gate refused. -/
def deniedEvent (dialect : Dialect) : LogEvent :=
  { level := .warning
    event := "Query denied by read-only gate"
    context := [dialectEntry dialect] }

/-- The event of a statement that was bounded to a page. -/
def pagedEvent (dialect : Dialect) (directive : PageDirective) : LogEvent :=
  { level := .debug
    event := "Pagination applied"
    context :=
      [dialectEntry dialect, (.name "limit", .int directive.limit),
        (.name "offset", .int directive.offset)] }

/-- The event of a statement that failed. It has the driver's own words. -/
def failedEvent (dialect : Dialect) (error : DeskError) (failure : Failure) : LogEvent :=
  { level := .warning
    event := "Query execution failed"
    context :=
      [dialectEntry dialect, (.name "error_code", .text error.code.text),
        (.name "error", .text failure.text)] }

/-- The event of a statement that was executed. -/
def executedEvent (dialect : Dialect) (outcome : ExecutionOutcome) : LogEvent :=
  { level := .info
    event := "Query executed"
    context :=
      [dialectEntry dialect, (.name "row_count", .int outcome.rowCount),
        (.name "execution_time_ms", .float outcome.elapsedMs)] }

/-- The error that a failure of the driver is reported as. -/
def executionError (timeout : Measure) (failure : Failure) : DeskError :=
  if failure.isTimeout then .timedOut timeout
  else .execution (if failure.text == "" then failure.kind.label else failure.text)

/-- The issues of a row with columns that have no names. -/
def rowIssues (position : Nat) (row : Row) : List FieldIssue :=
  row.filterMap fun (key, _) =>
    match key with
    | .name _ => none
    | .number number =>
      some ⟨[.field "rows", .index (position : Int), .index number, .field "[key]"], .text⟩

/-- The issues of rows, counted from a position on. -/
def rowsIssuesFrom (position : Nat) : List Row → List FieldIssue
  | [] => []
  | row :: rest => rowIssues position row ++ rowsIssuesFrom (position + 1) rest

/-- The shaped result of a page. A page that is full may have another one behind it. -/
def outcomeOfPage (paged : PagedQuery) (elapsedMs : Binary64) (found : Normalized) :
    Except Fault ExecutionOutcome :=
  match rowsIssuesFrom 0 found.rows with
  | [] =>
    let count : Int := found.rows.length
    let full := paged.directive.limit ≤ count
    .ok
      { columns := found.columns
        rows := found.rows
        rowCount := count
        elapsedMs := elapsedMs
        truncated := full
        sql := some paged.sql
        pagination := ⟨paged.directive.limit, paged.directive.offset, full⟩ }
  | issues => .error (.malformed issues)

namespace QueryService

/-- The page that a request asks for. -/
def page (service : QueryService) (request : QueryRequest) : PagedQuery :=
  paginate request.dialect service.settings.policy request.limit request.offset request.sql

/-- How long a request may take. A time of zero is the same as none. -/
def timeout (service : QueryService) (request : QueryRequest) : Measure :=
  match request.timeout with
  | some given => if given.isZero then .binary service.settings.queryTimeout else given
  | none => .binary service.settings.queryTimeout

/-- The call that a request is sent as. -/
def call (service : QueryService) (request : QueryRequest) : Call :=
  { sql := (service.page request).sql, timeout := some (service.timeout request) }

/-- The events of a request that was bounded to a page, if this changed its text. -/
def pageEvents (service : QueryService) (request : QueryRequest) : List LogEvent :=
  let paged := service.page request
  if paged.sql == request.sql then [] else [pagedEvent request.dialect paged.directive]

/-- What a request leads to that the gate refuses. -/
def deny (stamp : String) (request : QueryRequest) : Execution :=
  let error := DeskError.readsOnly
  { result := .error (.refused error)
    log := [deniedEvent request.dialect]
    audit := some (.create stamp .denied request.sql request.dialect.name request.dataSource none
      (.binary .zero) false (some error.code.text) (some error.message)) }

/-- What a request leads to whose statement failed. -/
def fail (service : QueryService) (watch : Stopwatch) (stamp : String) (request : QueryRequest)
    (sent : List Call) (failure : Failure) : Execution :=
  let error := executionError (service.timeout request) failure
  { result := .error (.refused error)
    sent := sent
    log := service.pageEvents request ++ [failedEvent request.dialect error failure]
    audit := some (.create stamp .failed (service.page request).sql request.dialect.name
      request.dataSource none (.binary watch.milliseconds) false (some error.code.text)
      (some error.message)) }

/-- The warning about a slow request, if it is one. -/
def slowEvents (service : QueryService) (watch : Stopwatch) (request : QueryRequest)
    (found : Normalized) : List LogEvent :=
  (slowQuery? (.binary service.settings.slowQuery) (.binary watch.seconds)
    (service.page request).sql
    [dialectEntry request.dialect, (.name "data_source", .ofText? request.dataSource),
      (.name "row_count", .int found.rows.length)]).toList

/-- What a request leads to whose statement was answered. -/
def shape (service : QueryService) (watch : Stopwatch) (stamp : String) (request : QueryRequest)
    (sent : List Call) (answer : Value) : Execution :=
  let paged := service.page request
  let begun := service.pageEvents request
  match normalize answer with
  | .error fault => { result := .error fault, sent := sent, log := begun }
  | .ok found =>
    let log := begun ++ service.slowEvents watch request found
    match outcomeOfPage paged (watch.milliseconds.roundPlaces 2) found with
    | .error fault => { result := .error fault, sent := sent, log := log }
    | .ok outcome =>
      { result := .ok outcome
        sent := sent
        log := log ++ [executedEvent request.dialect outcome]
        audit := some (.create stamp .executed paged.sql request.dialect.name request.dataSource
          (some outcome.rowCount) (.binary outcome.elapsedMs) outcome.truncated) }

/-- The failure of a request whose page cannot be written: a count in its text cannot be read, or its
limit or offset cannot be written. -/
def pageFailure? (service : QueryService) (request : QueryRequest) : Option Failure :=
  match boundQuery request.dialect service.settings.policy request.limit request.offset
      request.sql with
  | .error failure => some failure
  | .ok _ => none

/-- Executes a request. A blank text, one that does not read and one that cannot be bounded are never
sent; any other one is sent once, unless it has no time at all. -/
def execute (service : QueryService) (connection : Call → Reply) (watch : Stopwatch)
    (stamp : String) (request : QueryRequest) : Execution :=
  if isBlankText request.sql.toList then
    { result := .error (.refused (.invalidInput "SQL query is required")) }
  else if !isRead request.sql.toList then deny stamp request
  else
    match service.pageFailure? request with
    | some failure => { result := .error (.failed failure) }
    | none =>
      let call := service.call request
      let limit := TimeLimit.ofMeasure? call.timeout
      let sent := if limit.starts then [call] else []
      match (connection call).within limit with
      | .error failure => service.fail watch stamp request sent failure
      | .ok answer => service.shape watch stamp request sent answer

/-- The warning about a data source that shows no relations. -/
def emptySchemaWarning : String :=
  "No tables or views found in this database. The database may be empty or you may not have " ++
    "permission to access the tables."

/-- Introspects a data source within the bounds of the settings. That nothing was found is worth a
warning only if nothing was left out. -/
def introspect (service : QueryService) (connection : Catalog.Connection)
    (clientType : Option String) : Except Failure Introspection :=
  (Catalog.introspect (Dialect.resolve clientType) connection service.settings.bounds.budget
    service.settings.bounds.concurrency).map fun found =>
      if found.complete && found.schema.isEmpty then
        { found with warnings := found.warnings ++ [emptySchemaWarning] }
      else found

end QueryService

end QueryDesk
