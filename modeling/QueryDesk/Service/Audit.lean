/-
Module: QueryDesk.Service.Audit
Purpose: Audit events: what happened to a submitted query, with a fingerprint of its text. Events go
  to the log, or as lines of JSON to a file.
Imports: QueryDesk.Connection.Failure, QueryDesk.Digest.Sha256, QueryDesk.Log, QueryDesk.Value.Json
Main exports: AuditEventType, AuditEvent, AuditEvent.create, AuditEvent.fields, AuditEvent.json,
  AuditSink, AuditSink.ofNames, AuditSink.logged, AuditSink.written, hashSql
-/
import QueryDesk.Connection.Failure
import QueryDesk.Digest.Sha256
import QueryDesk.Log
import QueryDesk.Value.Json

namespace QueryDesk

open QueryDesk.Number

/-- What happened to a submitted query. -/
inductive AuditEventType where
  | executed
  | denied
  | failed
deriving Repr, Inhabited, DecidableEq

namespace AuditEventType

/-- The name of an event type. -/
def name : AuditEventType → String
  | .executed => "query_executed"
  | .denied => "query_denied"
  | .failed => "query_failed"

/-- The event type with a name. -/
def ofName (text : String) : Except Failure AuditEventType :=
  match [AuditEventType.executed, .denied, .failed].find? fun known => known.name == text with
  | some known => .ok known
  | none => .error (.notAMember text "AuditEventType")

end AuditEventType

/-- The fingerprint of a whole text. -/
def hashSql (sql : String) : String :=
  "sha256:" ++ String.ofList (Digest.sha256Hex sql.toList)

/-- The length to which the text of an event is cut. -/
def auditTextLength : Nat := 500

/-- One attempt to execute a query. -/
structure AuditEvent where
  timestamp : String
  type : AuditEventType
  dataSource : Option String
  dialect : String
  sql : String
  sqlHash : String
  rowCount : Option Int := none
  elapsedMs : Measure := .binary .zero
  truncated : Bool := false
  errorCode : Option String := none
  errorMessage : Option String := none
deriving Repr, Inhabited, DecidableEq

namespace AuditEvent

/-- The event of a query: its text is cut, the fingerprint covers all of it, and the time is
rounded to hundredths. -/
def create (timestamp : String) (type : AuditEventType) (sql dialect : String)
    (dataSource : Option String := none) (rowCount : Option Int := none)
    (elapsedMs : Measure := .binary .zero) (truncated : Bool := false)
    (errorCode errorMessage : Option String := none) : AuditEvent :=
  { timestamp := timestamp
    type := type
    dataSource := dataSource
    dialect := dialect
    sql := String.ofList (sql.toList.take auditTextLength)
    sqlHash := hashSql sql
    rowCount := rowCount
    elapsedMs := elapsedMs.round 2
    truncated := truncated
    errorCode := errorCode
    errorMessage := errorMessage }

/-- The fields of an event, in order. -/
def fields (event : AuditEvent) : Mapping :=
  [(.name "timestamp", .text event.timestamp), (.name "event_type", .text event.type.name),
    (.name "data_source", .ofText? event.dataSource), (.name "dialect", .text event.dialect),
    (.name "sql", .text event.sql), (.name "sql_hash", .text event.sqlHash),
    (.name "row_count", .ofInt? event.rowCount),
    (.name "execution_time_ms", .ofMeasure event.elapsedMs),
    (.name "truncated", .bool event.truncated), (.name "error_code", .ofText? event.errorCode),
    (.name "error_message", .ofText? event.errorMessage)]

/-- An event as JSON on one line. -/
def json (event : AuditEvent) : String :=
  (Value.mapping event.fields).compactJson

end AuditEvent

/-- Where events go. -/
inductive AuditSink where
  | log
  | file (path : String)
deriving Repr, Inhabited, DecidableEq

namespace AuditSink

/-- The sink with a name. A file needs a path. -/
def ofNames (storage : String) (path : Option String) : Except Failure AuditSink :=
  if storage == "stdout" then .ok .log
  else if storage == "file" then
    match path with
    | some found =>
      if found == "" then
        .error (.ofMessage .badValue "file_path is required for file audit storage")
      else .ok (.file found)
    | none => .error (.ofMessage .badValue "file_path is required for file audit storage")
  else .error (.notAMember storage "AuditStorage")

/-- What an event leaves in the log. -/
def logged (sink : AuditSink) (event : AuditEvent) : List LogEvent :=
  match sink with
  | .log => [{ level := .info, event := "audit_event", context := event.fields }]
  | .file _ => []

/-- What an event adds to the file. -/
def written (sink : AuditSink) (event : AuditEvent) : String :=
  match sink with
  | .log => ""
  | .file _ => event.json ++ "\n"

end AuditSink

end QueryDesk
