/-
Module: QueryDesk.Catalog.Schema
Purpose: The normalized schema of a data source: its tables and views with their columns, keys and
  indexes, the report of the introspection that found them, and lookups by name.
Imports: none
Main exports: Column, ForeignKey, Index, Table, View, Schema, SchemaReport, RelationRef,
  RelationKey, qualifiedName, Schema.table?, Schema.view?
-/

namespace QueryDesk.Catalog

/-- A column of a relation, with its type as the engine spells it. -/
structure Column where
  name : String
  type : String
  nullable : Bool := true
  defaultValue : Option String := none
  isPrimaryKey : Bool := false
deriving Repr, Inhabited, DecidableEq

/-- A reference from one column to a column of another table. -/
structure ForeignKey where
  column : String
  referencedTable : String
  referencedColumn : String
deriving Repr, Inhabited, DecidableEq

/-- An index with its columns in order. -/
structure Index where
  name : String
  columns : List String := []
  unique : Bool := false
deriving Repr, Inhabited, DecidableEq

/-- A table. -/
structure Table where
  name : String
  schema : Option String := none
  columns : List Column := []
  primaryKey : List String := []
  foreignKeys : List ForeignKey := []
  indexes : List Index := []
deriving Repr, Inhabited, DecidableEq

/-- A view. -/
structure View where
  name : String
  schema : Option String := none
  columns : List Column := []
  definition : Option String := none
deriving Repr, Inhabited, DecidableEq

/-- The tables and views of a data source. -/
structure Schema where
  tables : List Table := []
  views : List View := []
deriving Repr, Inhabited, DecidableEq

/-- A schema with the diagnostic trail of the introspection that found it. It is not complete when
time ran out. -/
structure SchemaReport where
  schema : Schema := {}
  logs : List String := []
  warnings : List String := []
  complete : Bool := true
deriving Repr, Inhabited, DecidableEq

/-- A table or view that a listing found. -/
structure RelationRef where
  name : String
  schema : Option String := none
  definition : Option String := none
deriving Repr, Inhabited, DecidableEq

/-- What relations are told apart by, and sorted by: the schema, empty if absent, and the name. -/
abbrev RelationKey := String × String

/-- The key of a relation. -/
def relationKey (schema : Option String) (name : String) : RelationKey :=
  (schema.getD "", name)

/-- The order of keys: by schema, then by name. -/
def RelationKey.le (a b : RelationKey) : Bool :=
  a.1 < b.1 || (a.1 == b.1 && a.2 ≤ b.2)

/-- The name of a relation with its schema before it, unless that is absent or empty. -/
def qualifiedName (schema : Option String) (name : String) : String :=
  match schema with
  | some found => if found == "" then name else found ++ "." ++ name
  | none => name

/-- The key of a table. -/
def Table.key (table : Table) : RelationKey := relationKey table.schema table.name

/-- The qualified name of a table. -/
def Table.fullName (table : Table) : String := qualifiedName table.schema table.name

/-- The key of a view. -/
def View.key (view : View) : RelationKey := relationKey view.schema view.name

/-- The qualified name of a view. -/
def View.fullName (view : View) : String := qualifiedName view.schema view.name

/-- The key of a listed relation. -/
def RelationRef.key (ref : RelationRef) : RelationKey := relationKey ref.schema ref.name

/-- The qualified name of a listed relation. -/
def RelationRef.fullName (ref : RelationRef) : String := qualifiedName ref.schema ref.name

/-- Whether a relation is the one that is looked for. Without a schema any schema fits. -/
def fitsLookup (name : String) (schema : Option String) (foundName : String)
    (foundSchema : Option String) : Bool :=
  foundName == name && (schema.isNone || foundSchema == schema)

namespace Schema

/-- Whether there are neither tables nor views. -/
def isEmpty (schema : Schema) : Bool :=
  schema.tables.isEmpty && schema.views.isEmpty

/-- The first table with a name, in a schema if one is given. -/
def table? (schema : Schema) (name : String) (inSchema : Option String) : Option Table :=
  schema.tables.find? fun table => fitsLookup name inSchema table.name table.schema

/-- The first view with a name, in a schema if one is given. -/
def view? (schema : Schema) (name : String) (inSchema : Option String) : Option View :=
  schema.views.find? fun view => fitsLookup name inSchema view.name view.schema

end Schema

/-- The items whose keys do not appear before them. -/
def firstOfEachKey {α κ : Type} [BEq κ] (key : α → κ) (items : List α) : List α :=
  items.foldl
    (fun kept item => if kept.any fun other => key other == key item then kept else kept ++ [item])
    []

/-- The items, first of each key, in the order of their keys. -/
def sortedByKey {α : Type} (key : α → RelationKey) (items : List α) : List α :=
  (firstOfEachKey key items).mergeSort fun a b => (key a).le (key b)

end QueryDesk.Catalog
