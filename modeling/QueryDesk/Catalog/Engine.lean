/-
Module: QueryDesk.Catalog.Engine
Purpose: What an engine knows about its own catalog: how to test the connection, how to list tables
  and views, and how to describe one of them; with the readers of catalog rows that the engines
  share, and the engine without a catalog.
Imports: QueryDesk.Catalog.Procedure, QueryDesk.Catalog.Schema, QueryDesk.Sql.Dialect
Main exports: Engine, Engine.generic, rowText, rowLabel, informationSchemaColumn, tableRef, viewRef
-/
import QueryDesk.Catalog.Procedure
import QueryDesk.Catalog.Schema
import QueryDesk.Sql.Dialect

namespace QueryDesk.Catalog

/-- The catalog procedures of one engine. -/
structure Engine where
  dialect : Dialect
  probe : Procedure Bool
  tables : Procedure (List RelationRef)
  views : Procedure (List RelationRef)
  describeTable : RelationRef → Procedure Table
  describeView : RelationRef → Procedure View

/-- The text in a column, empty where there is none. -/
def rowText (row : Row) (column : String) : Except Failure String := do
  let cell ← row.cell column
  return cell.asTextOrEmpty

/-- The text in a column, absent where there is none. -/
def rowText? (row : Row) (column : String) : Except Failure (Option String) := do
  let cell ← row.cell column
  return cell.asText?

/-- The text in a column as messages show it; null is a word. -/
def rowLabel (row : Row) (column : String) : Except Failure String := do
  let cell ← row.cell column
  return cell.display

/-- Whether a cell is the number minus one, in any kind of number. -/
def isMinusOne : Value → Bool
  | .int n => n == -1
  | .float x => x == .ofInt (-1)
  | .decimal x => x.equalsInt (-1)
  | _ => false

/-- The type of a column with its maximum length, if it has one. Minus one stands for no limit. -/
def typeWithLength (type : String) (maxLength : Value) : String :=
  if maxLength.isTruthy then
    type ++ "(" ++ (if isMinusOne maxLength then "max" else maxLength.display) ++ ")"
  else type

/-- A column as the information schema describes it. -/
def informationSchemaColumn (row : Row) : Except Failure Column := do
  let type ← rowText row "data_type"
  let maxLength ← row.cell "character_maximum_length"
  let name ← rowText row "column_name"
  let nullable ← row.cell "is_nullable"
  let default ← rowText? row "column_default"
  return {
    name := name
    type := typeWithLength type maxLength
    nullable := nullable == .text "YES"
    defaultValue := default }

/-- A table as the information schema lists it. -/
def tableRef (row : Row) : Except Failure RelationRef := do
  let name ← rowText row "table_name"
  let schema ← rowText? row "table_schema"
  return { name := name, schema := schema }

/-- A view as the information schema lists it. -/
def viewRef (row : Row) : Except Failure RelationRef := do
  let name ← rowText row "table_name"
  let schema ← rowText? row "table_schema"
  let definition ← rowText? row "view_definition"
  return { name := name, schema := schema, definition := definition }

/-- Asks for the rows of a statement and reads each of them. -/
def Procedure.queryWith {α : Type} (read : Row → Except Failure α) (sql : String)
    (params : Option (List Value) := none) : Procedure (List α) := do
  let rows ← Procedure.query sql params
  Procedure.ofOutcome (rows.mapM read)

/-- The schema and the name of a relation as parameters. -/
def RelationRef.params (ref : RelationRef) : Option (List Value) :=
  some [.ofText? ref.schema, .text ref.name]

/-- The columns of a relation in the information schema, by schema and name. -/
def informationSchemaColumns (ref : RelationRef) : Procedure (List Column) :=
  Procedure.queryWith informationSchemaColumn
    "
SELECT
    column_name,
    data_type,
    is_nullable,
    column_default,
    character_maximum_length
FROM information_schema.columns
WHERE table_schema = ? AND table_name = ?
ORDER BY ordinal_position
" ref.params

/-- A view with its columns from the information schema. -/
def informationSchemaView (ref : RelationRef) : Procedure View := do
  let columns ← informationSchemaColumns ref
  return {
    name := ref.name
    schema := ref.schema
    columns := columns
    definition := ref.definition }

/-- The engine without a catalog. It never asks the connection and has no relations. -/
def Engine.generic : Engine where
  dialect := .generic
  probe := do
    Procedure.note "No catalog support for this engine; returning an empty schema"
    return false
  tables := return []
  views := return []
  describeTable := fun ref => return { name := ref.name, schema := ref.schema }
  describeView := fun ref =>
    return { name := ref.name, schema := ref.schema, definition := ref.definition }

end QueryDesk.Catalog
