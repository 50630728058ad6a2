/-
Module: QueryDesk.Catalog.Mysql
Purpose: The catalog of MySQL. Relations are those of the current database; the statement that
  describes a relation also marks the columns of its primary key.
Imports: QueryDesk.Catalog.Engine, QueryDesk.Sql.Surface
Main exports: Engine.mysql
-/
import QueryDesk.Catalog.Engine
import QueryDesk.Sql.Surface

namespace QueryDesk.Catalog

open QueryDesk.Sql

namespace Mysql

/-- Lists the tables. -/
def tablesQuery : String := "
SELECT table_name
FROM information_schema.tables
WHERE table_schema = DATABASE()
AND table_type = 'BASE TABLE'
ORDER BY table_name
"

/-- Lists the views. -/
def viewsQuery : String := "
SELECT table_name, view_definition
FROM information_schema.views
WHERE table_schema = DATABASE()
ORDER BY table_name
"

/-- A table in a row. -/
def tableName (row : Row) : Except Failure RelationRef := do
  let name ← rowText row "table_name"
  return { name := name }

/-- A view in a row. -/
def viewName (row : Row) : Except Failure RelationRef := do
  let name ← rowText row "table_name"
  let definition ← rowText? row "view_definition"
  return { name := name, definition := definition }

/-- A described column. -/
def column (row : Row) : Except Failure Column := do
  let name ← rowText row "Field"
  let type ← rowText row "Type"
  let nullable ← row.cell "Null"
  let default ← rowText? row "Default"
  let key ← row.cell "Key"
  return {
    name := name
    type := type
    nullable := nullable == .text "YES"
    defaultValue := default
    isPrimaryKey := key == .text "PRI" }

/-- Describes the columns of a relation. -/
def columns (ref : RelationRef) : Procedure (List Column) :=
  Procedure.queryWith column ("DESCRIBE " ++ quoteMysql ref.name)

/-- Describes a table. Its primary key are the marked columns. -/
def describeTable (ref : RelationRef) : Procedure Table := do
  Procedure.note s!"Processing table: {ref.name}"
  let columns ← columns ref
  return {
    name := ref.name
    columns := columns
    primaryKey := (columns.filter Column.isPrimaryKey).map Column.name }

/-- Describes a view. -/
def describeView (ref : RelationRef) : Procedure View := do
  let columns ← columns ref
  return { name := ref.name, columns := columns, definition := ref.definition }

end Mysql

/-- The catalog of MySQL. -/
def Engine.mysql : Engine where
  dialect := .mysql
  probe := return true
  tables := Procedure.queryWith Mysql.tableName Mysql.tablesQuery
  views := Procedure.queryWith Mysql.viewName Mysql.viewsQuery
  describeTable := Mysql.describeTable
  describeView := Mysql.describeView

end QueryDesk.Catalog
