/-
Module: QueryDesk.Catalog.Sqlite
Purpose: The catalog of SQLite. Drivers disagree on the shape of rows, so every listing notes the
  shape it found; columns, foreign keys and indexes come from pragmas, which also work on views.
Imports: QueryDesk.Catalog.Engine, QueryDesk.Sql.Surface
Main exports: Sqlite.column, Engine.sqlite
-/
import QueryDesk.Catalog.Engine
import QueryDesk.Sql.Surface

namespace QueryDesk.Catalog

open QueryDesk.Sql

namespace Sqlite

/-- Lists the tables. -/
def tablesQuery : String := "
SELECT name FROM sqlite_master
WHERE type = 'table'
AND name NOT LIKE 'sqlite_%'
ORDER BY name
"

/-- Lists the views. -/
def viewsQuery : String := "
SELECT name, sql FROM sqlite_master
WHERE type = 'view'
ORDER BY name
"

/-- Tests the connection. -/
def probe : Procedure Bool :=
  .ask { sql := "SELECT 1" } fun answer =>
    match answer with
    | .ok _ => do
      Procedure.note "Database connection test successful"
      return true
    | .error failure =>
      .log
        { level := .warning
          event := s!"SQLite connection test failed: {failure.text}"
          context := [(.name "error", .text failure.text)] }
        (return false)

/-- Lists relations of a kind, and notes the shape in which they came. -/
def listing (sql what : String) : Procedure (List Row) := do
  let raw ← Procedure.raw sql
  let rows := raw.rowMappings
  Procedure.note s!"Extracted {rows.length} {what} as {raw.shape.name}"
  return rows

/-- The name of a relation in a row. A bare list of names has them in a column called value. -/
def relationName (row : Row) : Except Failure String := do
  let bare ← row.cell "value"
  let found ← row.cell? "name"
  return (found.getD bare).asTextOrEmpty

/-- A table in a row. -/
def tableName (row : Row) : Except Failure RelationRef := do
  let name ← relationName row
  return { name := name }

/-- A view in a row. -/
def viewName (row : Row) : Except Failure RelationRef := do
  let name ← relationName row
  let definition ← rowText? row "sql"
  return { name := name, definition := definition }

/-- Lists the tables. -/
def tables : Procedure (List RelationRef) := do
  let rows ← listing tablesQuery "tables"
  Procedure.ofOutcome (rows.mapM tableName)

/-- Lists the views. -/
def views : Procedure (List RelationRef) := do
  let rows ← listing viewsQuery "views"
  Procedure.ofOutcome (rows.mapM viewName)

/-- A pragma on a relation. -/
def pragma (name relation : String) : String :=
  s!"PRAGMA {name}({quoteSqlite relation})"

/-- The integer in a column. -/
def rowInt (row : Row) (column : String) : Except Failure Int := do
  let cell ← row.cell column
  cell.asInt

/-- A column in a row. Its type is ANY where none is declared. -/
def column (row : Row) : Except Failure Column := do
  let name ← rowText row "name"
  let type ← rowText row "type"
  let notNull ← rowInt row "notnull"
  let default ← rowText? row "dflt_value"
  let keyPosition ← rowInt row "pk"
  return {
    name := name
    type := if type == "" then "ANY" else type
    nullable := notNull == 0
    defaultValue := default
    isPrimaryKey := 0 < keyPosition }

/-- The rows that describe the columns of a relation. -/
def tableInfo (ref : RelationRef) : Procedure (List Row) := do
  Procedure.note s!"Fetching columns for table: {ref.name}"
  let rows ← Procedure.query (pragma "table_info" ref.name)
  Procedure.note s!"Found {rows.length} columns for table: {ref.name}"
  return rows

/-- Rows with the integer in a column. -/
def withInt (column : String) (rows : List Row) : Except Failure (List (Int × Row)) :=
  rows.mapM fun row => do
    let n ← rowInt row column
    return (n, row)

/-- Rows in the order of the integers that go with them. Equal ones keep their order. -/
def inOrder (rows : List (Int × Row)) : List Row :=
  (rows.mergeSort fun a b => a.1 ≤ b.1).map Prod.snd

/-- The names of the columns of the primary key, in the order of their positions in it. -/
def primaryKey (rows : List Row) : Except Failure (List String) := do
  let placed ← withInt "pk" rows
  (inOrder (placed.filter fun entry => 0 < entry.1)).mapM fun row => rowText row "name"

/-- A foreign key in a row. One that names no column refers to the primary key. -/
def foreignKey (row : Row) : Except Failure ForeignKey := do
  let column ← rowText row "from"
  let referencedTable ← rowText row "table"
  let referencedColumn ← rowText row "to"
  return {
    column := column
    referencedTable := referencedTable
    referencedColumn := referencedColumn }

/-- The index in a row, with its columns in order; absent for the index of a primary key. -/
def index? (row : Row) : Procedure (Option Index) := do
  let origin ← Procedure.ofOutcome (row.cell "origin")
  if origin == .text "pk" then return none
  else
    let name ← Procedure.ofOutcome (rowText row "name")
    let info ← Procedure.query (pragma "index_info" name)
    let placed ← Procedure.ofOutcome (withInt "seqno" info)
    let columns ← Procedure.ofOutcome ((inOrder placed).mapM fun entry => rowText entry "name")
    let unique ← Procedure.ofOutcome (row.cell "unique")
    return some { name := name, columns := columns, unique := unique.asBool }

/-- The indexes in rows, one after the other. -/
def indexesOf : List Row → Procedure (List Index)
  | [] => return []
  | row :: rest => do
    let found ← index? row
    let others ← indexesOf rest
    return found.toList ++ others

/-- The indexes of a table, in the order of their names. -/
def indexes (ref : RelationRef) : Procedure (List Index) := do
  let rows ← Procedure.query (pragma "index_list" ref.name)
  let found ← indexesOf rows
  return found.mergeSort fun a b => a.name ≤ b.name

/-- Describes a table: its columns, primary key, foreign keys and indexes. -/
def describeTable (ref : RelationRef) : Procedure Table := do
  Procedure.note s!"Processing table: {ref.name}"
  let rows ← tableInfo ref
  let columns ← Procedure.ofOutcome (rows.mapM column)
  let key ← Procedure.ofOutcome (primaryKey rows)
  let foreignKeys ← Procedure.queryWith foreignKey (pragma "foreign_key_list" ref.name)
  let found ← indexes ref
  return {
    name := ref.name
    columns := columns
    primaryKey := key
    foreignKeys := foreignKeys
    indexes := found }

/-- Describes a view. -/
def describeView (ref : RelationRef) : Procedure View := do
  let rows ← tableInfo ref
  let columns ← Procedure.ofOutcome (rows.mapM column)
  return { name := ref.name, columns := columns, definition := ref.definition }

end Sqlite

/-- The catalog of SQLite. -/
def Engine.sqlite : Engine where
  dialect := .sqlite
  probe := Sqlite.probe
  tables := Sqlite.tables
  views := Sqlite.views
  describeTable := Sqlite.describeTable
  describeView := Sqlite.describeView

end QueryDesk.Catalog
