/-
Module: QueryDesk.Service.Outcome
Purpose: What a caller gets for an executed query, and the body of an error, with the documents that
  they are written as and read from.
Imports: QueryDesk.Connection.Result, QueryDesk.Document.Reading
Main exports: PaginationInfo, ExecutionOutcome, ExecutionOutcome.write, ExecutionOutcome.read,
  ErrorResponse.write, ErrorResponse.read
-/
import QueryDesk.Connection.Result
import QueryDesk.Document.Reading

namespace QueryDesk

open QueryDesk.Number

/-- A column as a document. -/
def ColumnMeta.write (spelling : Spelling) (column : ColumnMeta) : Value :=
  writeRecord spelling [(.camel "name", .text column.name), (.camel "type", .text column.type)]

/-- A column in a document. -/
def ColumnMeta.read (document : Mapping) : Checked ColumnMeta :=
  ColumnMeta.mk
    <$> (FieldName.camel "name").required readText document
    <*> (FieldName.camel "type").required readText document

/-- The page that was returned, and whether there may be another one. -/
structure PaginationInfo where
  limit : Int
  offset : Int
  hasMore : Bool
deriving Repr, Inhabited, DecidableEq

/-- A page as a document. -/
def PaginationInfo.write (spelling : Spelling) (info : PaginationInfo) : Value :=
  writeRecord spelling
    [(.camel "limit", .int info.limit), (.camel "offset", .int info.offset),
      (.camel "has_more", .bool info.hasMore)]

/-- A page in a document. -/
def PaginationInfo.read (document : Mapping) : Checked PaginationInfo :=
  PaginationInfo.mk
    <$> (FieldName.camel "limit").required readInt document
    <*> (FieldName.camel "offset").required readInt document
    <*> (FieldName.camel "has_more").required readTruth document

/-- The shaped result of a query. -/
structure ExecutionOutcome where
  columns : List ColumnMeta := []
  rows : List Row := []
  rowCount : Int := 0
  elapsedMs : Binary64 := .zero
  truncated : Bool := false
  sql : Option String := none
  pagination : PaginationInfo
deriving Repr, Inhabited, BEq

/-- An outcome as a document. -/
def ExecutionOutcome.write (spelling : Spelling) (outcome : ExecutionOutcome) : Value :=
  writeRecord spelling
    [(.camel "columns", .list (outcome.columns.map (ColumnMeta.write spelling))),
      (.camel "rows", .list (outcome.rows.map .mapping)),
      (.camel "row_count", .int outcome.rowCount),
      (.camel "execution_time_ms", .float outcome.elapsedMs),
      (.camel "truncated", .bool outcome.truncated), (.camel "sql", .ofText? outcome.sql),
      (.camel "pagination", outcome.pagination.write spelling)]

/-- An outcome in a document. -/
def ExecutionOutcome.read (document : Mapping) : Checked ExecutionOutcome :=
  ExecutionOutcome.mk
    <$> (FieldName.camel "columns").optional [] (readListOf (readRecord ColumnMeta.read)) document
    <*> (FieldName.camel "rows").optional [] (readListOf readMapping) document
    <*> (FieldName.camel "row_count").optional 0 readInt document
    <*> (FieldName.camel "execution_time_ms").optional .zero readNumber document
    <*> (FieldName.camel "truncated").optional false readTruth document
    <*> (FieldName.camel "sql").optional none (readNullable readText) document
    <*> (FieldName.camel "pagination").required (readRecord PaginationInfo.read) document

/-- The code with a text. -/
def ErrorCode.ofText (code : String) : Except Failure ErrorCode :=
  match ErrorCode.ofText? code with
  | some known => .ok known
  | none => .error (.notAMember code "ErrorCode")

/-- The code of an error. -/
def readErrorCode : Reader ErrorCode
  | .text code =>
    match ErrorCode.ofText? code with
    | some known => .valid known
    | none => .issue .choice
  | _ => .issue .choice

/-- A mapping as a value, or null. -/
def Value.ofMapping? : Option Mapping → Value
  | some entries => .mapping entries
  | none => .null

/-- A response as a document. Its fields have no external names of their own. -/
def ErrorResponse.write (response : ErrorResponse) : Value :=
  .ofFields
    [("success", .bool response.success), ("error_code", .text response.code.text),
      ("error_message", .text response.message), ("details", .ofMapping? response.details)]

/-- A response in a document. -/
def ErrorResponse.read (document : Mapping) : Checked ErrorResponse :=
  ErrorResponse.mk
    <$> (FieldName.plain "success").optional false readTruth document
    <*> (FieldName.plain "error_code").required readErrorCode document
    <*> (FieldName.plain "error_message").required readText document
    <*> (FieldName.plain "details").optional none (readNullable readMapping) document

end QueryDesk
