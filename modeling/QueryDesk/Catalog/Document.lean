/-
Module: QueryDesk.Catalog.Document
Purpose: Schemas as documents: how tables, views and the report of an introspection are written, and
  how they are read back. A field goes by its alias or by its name; the schema of a relation and the
  schema of a report have an alias of their own.
Imports: QueryDesk.Catalog.Schema, QueryDesk.Document.Reading
Main exports: Column.write, Column.read, Table.write, Table.read, View.write, View.read,
  Schema.write, Schema.read, SchemaReport.write, SchemaReport.read
-/
import QueryDesk.Catalog.Schema
import QueryDesk.Document.Reading

namespace QueryDesk.Catalog

/-- The schema of a relation. -/
def relationSchemaField : FieldName := ⟨"schema_name", "schema"⟩

/-- The schema of a report. -/
def reportSchemaField : FieldName := ⟨"schema_info", "schema"⟩

/-- A column as a document. -/
def Column.write (spelling : Spelling) (column : Column) : Value :=
  writeRecord spelling
    [(.camel "name", .text column.name), (.camel "type", .text column.type),
      (.camel "nullable", .bool column.nullable),
      (.camel "default_value", .ofText? column.defaultValue),
      (.camel "is_primary_key", .bool column.isPrimaryKey)]

/-- A column in a document. -/
def Column.read (document : Mapping) : Checked Column :=
  Column.mk
    <$> (FieldName.camel "name").required readText document
    <*> (FieldName.camel "type").required readText document
    <*> (FieldName.camel "nullable").optional true readTruth document
    <*> (FieldName.camel "default_value").optional none (readNullable readText) document
    <*> (FieldName.camel "is_primary_key").optional false readTruth document

/-- A foreign key as a document. -/
def ForeignKey.write (spelling : Spelling) (key : ForeignKey) : Value :=
  writeRecord spelling
    [(.camel "column", .text key.column), (.camel "referenced_table", .text key.referencedTable),
      (.camel "referenced_column", .text key.referencedColumn)]

/-- A foreign key in a document. -/
def ForeignKey.read (document : Mapping) : Checked ForeignKey :=
  ForeignKey.mk
    <$> (FieldName.camel "column").required readText document
    <*> (FieldName.camel "referenced_table").required readText document
    <*> (FieldName.camel "referenced_column").required readText document

/-- An index as a document. -/
def Index.write (spelling : Spelling) (index : Index) : Value :=
  writeRecord spelling
    [(.camel "name", .text index.name), (.camel "columns", .ofTexts index.columns),
      (.camel "unique", .bool index.unique)]

/-- An index in a document. -/
def Index.read (document : Mapping) : Checked Index :=
  Index.mk
    <$> (FieldName.camel "name").required readText document
    <*> (FieldName.camel "columns").optional [] (readListOf readText) document
    <*> (FieldName.camel "unique").optional false readTruth document

/-- A table as a document. -/
def Table.write (spelling : Spelling) (table : Table) : Value :=
  writeRecord spelling
    [(.camel "name", .text table.name), (relationSchemaField, .ofText? table.schema),
      (.camel "columns", .list (table.columns.map (Column.write spelling))),
      (.camel "primary_key", .ofTexts table.primaryKey),
      (.camel "foreign_keys", .list (table.foreignKeys.map (ForeignKey.write spelling))),
      (.camel "indexes", .list (table.indexes.map (Index.write spelling)))]

/-- A table in a document. -/
def Table.read (document : Mapping) : Checked Table :=
  Table.mk
    <$> (FieldName.camel "name").required readText document
    <*> relationSchemaField.optional none (readNullable readText) document
    <*> (FieldName.camel "columns").optional [] (readListOf (readRecord Column.read)) document
    <*> (FieldName.camel "primary_key").optional [] (readListOf readText) document
    <*> (FieldName.camel "foreign_keys").optional [] (readListOf (readRecord ForeignKey.read))
      document
    <*> (FieldName.camel "indexes").optional [] (readListOf (readRecord Index.read)) document

/-- A view as a document. -/
def View.write (spelling : Spelling) (view : View) : Value :=
  writeRecord spelling
    [(.camel "name", .text view.name), (relationSchemaField, .ofText? view.schema),
      (.camel "columns", .list (view.columns.map (Column.write spelling))),
      (.camel "definition", .ofText? view.definition)]

/-- A view in a document. -/
def View.read (document : Mapping) : Checked View :=
  View.mk
    <$> (FieldName.camel "name").required readText document
    <*> relationSchemaField.optional none (readNullable readText) document
    <*> (FieldName.camel "columns").optional [] (readListOf (readRecord Column.read)) document
    <*> (FieldName.camel "definition").optional none (readNullable readText) document

/-- A schema as a document. -/
def Schema.write (spelling : Spelling) (schema : Schema) : Value :=
  writeRecord spelling
    [(.camel "tables", .list (schema.tables.map (Table.write spelling))),
      (.camel "views", .list (schema.views.map (View.write spelling)))]

/-- A schema in a document. -/
def Schema.read (document : Mapping) : Checked Schema :=
  Schema.mk
    <$> (FieldName.camel "tables").optional [] (readListOf (readRecord Table.read)) document
    <*> (FieldName.camel "views").optional [] (readListOf (readRecord View.read)) document

/-- A report as a document. -/
def SchemaReport.write (spelling : Spelling) (report : SchemaReport) : Value :=
  writeRecord spelling
    [(reportSchemaField, report.schema.write spelling), (.camel "logs", .ofTexts report.logs),
      (.camel "warnings", .ofTexts report.warnings), (.camel "complete", .bool report.complete)]

/-- A report in a document. -/
def SchemaReport.read (document : Mapping) : Checked SchemaReport :=
  SchemaReport.mk
    <$> reportSchemaField.optional {} (readRecord Schema.read) document
    <*> (FieldName.camel "logs").optional [] (readListOf readText) document
    <*> (FieldName.camel "warnings").optional [] (readListOf readText) document
    <*> (FieldName.camel "complete").optional true readTruth document

end QueryDesk.Catalog
