/-
Module: QueryDesk.Catalog.Postgres
Purpose: The catalog of Postgres. Tables and views come from the information schema, keys and indexes
  from the system catalog; each table costs one query for each concern.
Imports: QueryDesk.Catalog.Engine
Main exports: indexColumns, Engine.postgres
-/
import QueryDesk.Catalog.Engine

namespace QueryDesk.Catalog

open QueryDesk.Text

/-- The text without characters of a kind at either end. -/
def stripEnds (strips : Char → Bool) (text : List Char) : List Char :=
  ((text.dropWhile strips).reverse.dropWhile strips).reverse

/-- A brace. -/
def isBrace (c : Char) : Bool :=
  c == '\x7b' || c == '\x7d'

/-- The elements in the text of an array: what stands between its braces, split at commas, without
empty elements and without the double quotes around an element. -/
def arrayTextElements (text : List Char) : List String :=
  ((splitAtChar ',' (stripEnds isBrace text)).filter fun part => !part.isEmpty).map fun part =>
    String.ofList (stripEnds (· == '\x22') part)

/-- The columns of an index, which arrive as a sequence or as the text of an array. -/
def indexColumns : Value → List String
  | .list items => items.map Value.display
  | .tuple items => items.map Value.display
  | .text array => arrayTextElements array.toList
  | _ => []

namespace Postgres

/-- Lists the tables. -/
def tablesQuery : String := "
SELECT table_name, table_schema
FROM information_schema.tables
WHERE table_schema NOT IN ('information_schema', 'pg_catalog')
AND table_type = 'BASE TABLE'
ORDER BY table_name
"

/-- Lists the views. -/
def viewsQuery : String := "
SELECT table_name, table_schema, view_definition
FROM information_schema.views
WHERE table_schema NOT IN ('information_schema', 'pg_catalog')
ORDER BY table_name
"

/-- Lists the columns of a primary key. -/
def primaryKeyQuery : String := "
SELECT a.attname
FROM pg_index i
JOIN pg_attribute a ON a.attrelid = i.indrelid AND a.attnum = ANY(i.indkey)
JOIN pg_class c ON c.oid = i.indrelid
JOIN pg_namespace n ON n.oid = c.relnamespace
WHERE i.indisprimary
AND n.nspname = ?
AND c.relname = ?
ORDER BY array_position(i.indkey, a.attnum)
"

/-- Lists the foreign keys of a table. -/
def foreignKeysQuery : String := "
SELECT
    kcu.column_name,
    ccu.table_name AS referenced_table,
    ccu.column_name AS referenced_column
FROM information_schema.table_constraints AS tc
JOIN information_schema.key_column_usage AS kcu
    ON tc.constraint_name = kcu.constraint_name
    AND tc.table_schema = kcu.table_schema
JOIN information_schema.constraint_column_usage AS ccu
    ON ccu.constraint_name = tc.constraint_name
    AND ccu.constraint_schema = tc.table_schema
WHERE tc.constraint_type = 'FOREIGN KEY'
AND tc.table_schema = ?
AND tc.table_name = ?
"

/-- Lists the indexes of a table. -/
def indexesQuery : String := "
SELECT
    i.relname AS index_name,
    ix.indisunique AS is_unique,
    array_agg(a.attname ORDER BY array_position(ix.indkey, a.attnum)) AS columns
FROM pg_index ix
JOIN pg_class t ON t.oid = ix.indrelid
JOIN pg_class i ON i.oid = ix.indexrelid
JOIN pg_namespace n ON n.oid = t.relnamespace
JOIN pg_attribute a ON a.attrelid = t.oid AND a.attnum = ANY(ix.indkey)
WHERE n.nspname = ?
AND t.relname = ?
AND NOT ix.indisprimary
GROUP BY i.relname, ix.indisunique
ORDER BY i.relname
"

/-- A foreign key in a row. -/
def foreignKey (row : Row) : Except Failure ForeignKey := do
  let column ← rowLabel row "column_name"
  let referencedTable ← rowLabel row "referenced_table"
  let referencedColumn ← rowLabel row "referenced_column"
  return {
    column := column
    referencedTable := referencedTable
    referencedColumn := referencedColumn }

/-- An index in a row. -/
def index (row : Row) : Except Failure Index := do
  let name ← rowLabel row "index_name"
  let columns ← row.cell "columns"
  let unique ← row.cell "is_unique"
  return { name := name, columns := indexColumns columns, unique := unique.asBool }

/-- The columns with those marked that belong to the primary key. -/
def markPrimaryKey (primaryKey : List String) (columns : List Column) : List Column :=
  columns.map fun column => { column with isPrimaryKey := primaryKey.contains column.name }

/-- Describes a table: its columns, primary key, foreign keys and indexes. -/
def describeTable (ref : RelationRef) : Procedure Table := do
  Procedure.note s!"Processing table: {ref.fullName}"
  let columns ← informationSchemaColumns ref
  let primaryKey ← Procedure.queryWith (rowLabel · "attname") primaryKeyQuery ref.params
  let foreignKeys ← Procedure.queryWith foreignKey foreignKeysQuery ref.params
  let indexes ← Procedure.queryWith index indexesQuery ref.params
  return {
    name := ref.name
    schema := ref.schema
    columns := markPrimaryKey primaryKey columns
    primaryKey := primaryKey
    foreignKeys := foreignKeys
    indexes := indexes }

end Postgres

/-- The catalog of Postgres. -/
def Engine.postgres : Engine where
  dialect := .postgres
  probe := return true
  tables := Procedure.queryWith tableRef Postgres.tablesQuery
  views := Procedure.queryWith viewRef Postgres.viewsQuery
  describeTable := Postgres.describeTable
  describeView := informationSchemaView

end QueryDesk.Catalog
