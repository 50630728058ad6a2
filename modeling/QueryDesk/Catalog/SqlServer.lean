/-
Module: QueryDesk.Catalog.SqlServer
Purpose: The catalog of SQL Server. Only the information schema is read, so tables have columns but
  neither keys nor indexes.
Imports: QueryDesk.Catalog.Engine
Main exports: Engine.sqlServer
-/
import QueryDesk.Catalog.Engine

namespace QueryDesk.Catalog

namespace SqlServer

/-- Lists the tables. -/
def tablesQuery : String := "
SELECT table_name, table_schema
FROM information_schema.tables
WHERE table_type = 'BASE TABLE'
ORDER BY table_name
"

/-- Lists the views. -/
def viewsQuery : String := "
SELECT table_name, table_schema, view_definition
FROM information_schema.views
ORDER BY table_name
"

/-- Describes a table. -/
def describeTable (ref : RelationRef) : Procedure Table := do
  Procedure.note s!"Processing table: {ref.fullName}"
  let columns ← informationSchemaColumns ref
  return { name := ref.name, schema := ref.schema, columns := columns }

end SqlServer

/-- The catalog of SQL Server. -/
def Engine.sqlServer : Engine where
  dialect := .sqlserver
  probe := return true
  tables := Procedure.queryWith tableRef SqlServer.tablesQuery
  views := Procedure.queryWith viewRef SqlServer.viewsQuery
  describeTable := SqlServer.describeTable
  describeView := informationSchemaView

end QueryDesk.Catalog
