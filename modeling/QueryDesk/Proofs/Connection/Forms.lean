/-
Module: QueryDesk.Proofs.Connection.Forms
Purpose: The forms in which drivers hand over one table: bare rows, a record or a pair of rows and field
  descriptions, and the three shapes of results, with rows as mappings or as tuples. All of them are
  brought to the same columns and rows.
Imports: QueryDesk.Connection.Result, Mathlib.Data.List.Nodup
Main exports: Mapping.ofPairs_of_nodup, Table, TableForm, Table.inForm, Table.normalize_inForm,
  Table.people
-/
import QueryDesk.Connection.Result
import Mathlib.Data.List.Nodup

namespace QueryDesk

theorem Mapping.insert_of_not_mem {entries : Mapping} {key : Key} (value : Value)
    (absent : key ∉ entries.map Prod.fst) : entries.insert key value = entries ++ [(key, value)] := by
  induction entries with
  | nil => rfl
  | cons entry rest ih =>
    obtain ⟨other, cell⟩ := entry
    rw [List.map_cons, List.mem_cons, not_or] at absent
    rw [Mapping.insert, if_neg (Ne.symm absent.1), ih absent.2]
    rfl

/-- Pairs with different keys are a mapping as they stand. -/
theorem Mapping.ofPairs_of_nodup {pairs : Mapping} (nodup : (pairs.map Prod.fst).Nodup) :
    Mapping.ofPairs pairs = pairs := by
  suffices passed : ∀ (entries rest : Mapping), ((entries ++ rest).map Prod.fst).Nodup →
      rest.foldl (fun entries pair => entries.insert pair.1 pair.2) entries = entries ++ rest from
    passed [] pairs nodup
  intro entries rest
  induction rest generalizing entries with
  | nil => exact fun _ => (List.append_nil entries).symm
  | cons pair rest ih =>
    intro nodup
    have absent : pair.1 ∉ entries.map Prod.fst := by
      rw [List.map_append, List.nodup_append] at nodup
      exact fun member => nodup.2.2 _ member _ List.mem_cons_self rfl
    have onward := ih (entries ++ [pair])
    rw [List.append_assoc] at onward
    rw [List.foldl_cons, Mapping.insert_of_not_mem pair.2 absent]
    exact onward nodup

/-- Rows of cells under column names. No two columns have the same name, and each row has one cell for
each column. -/
structure Table where
  names : List String
  rows : List (List Value)
  distinct : names.Nodup
  full : ∀ cells ∈ rows, cells.length = names.length

/-- The forms in which a driver may hand over a table. -/
inductive TableForm where
  /-- A result with rows as mappings and no fields. -/
  | rowList
  /-- A result with rows as mappings, and the names as fields. -/
  | rowsEnvelope
  /-- A result with rows as tuples, and the names as fields. -/
  | rowsAndFields
  /-- A mapping from the words rows and fields. -/
  | record
  /-- A list of the rows and the field descriptions. -/
  | pair
  /-- The list of the rows. -/
  | bare
deriving Repr, DecidableEq

namespace Table

variable (table : Table)

/-- Cells under the names of the columns. -/
def row (cells : List Value) : Row :=
  (table.names.map Key.name).zip cells

/-- The rows as mappings from the names. -/
def mappings : List Value :=
  table.rows.map fun cells => .mapping (table.row cells)

/-- The rows as tuples. -/
def tuples : List Value :=
  table.rows.map .tuple

/-- A field description for each name. -/
def descriptions : Value :=
  .list (table.names.map fun name => .ofFields [("name", .text name)])

/-- The value that a driver hands over. -/
def inForm : TableForm → Value
  | .rowList => .rows .rowList table.mappings []
  | .rowsEnvelope => .rows .rowsEnvelope table.mappings table.names
  | .rowsAndFields => .rows .rowsAndFields table.tuples table.names
  | .record => .ofFields [("rows", .list table.mappings), ("fields", table.descriptions)]
  | .pair => .list [.list table.mappings, table.descriptions]
  | .bare => .list table.mappings

/-- The columns: the names in order, with the types of the first row. Without rows there are none. -/
def columns : List ColumnMeta :=
  match table.rows with
  | [] => []
  | first :: _ => List.zipWith (fun name cell => ⟨name, cell.jsonType.name⟩) table.names first

/-! ### Rows and names of every form

Whatever the form, what is normalized is the rows as mappings. They are in the value from the beginning, or
each is made from a tuple and the names, where it matters that the names are different; the shape of the
result and the fields are not looked at any further. -/

theorem rowMappings_mappings (shape : Shape) (fields : List String) :
    RawResult.rowMappings ⟨shape, table.mappings, fields⟩ = table.rows.map table.row := by
  rw [RawResult.rowMappings, mappings, List.map_map]
  rfl

variable {table}

theorem keys_row {cells : List Value} (member : cells ∈ table.rows) :
    (table.row cells).map Prod.fst = table.names.map Key.name := by
  rw [row, List.map_fst_zip]
  exact Nat.le_of_eq ((List.length_map Key.name).trans (table.full cells member).symm)

/-- A tuple under the field names is the mapping of its row: no name takes the place of another one. -/
theorem rowOfCells_names {cells : List Value} (member : cells ∈ table.rows) :
    rowOfCells table.names cells = table.row cells := by
  have distinct : ((table.row cells).map Prod.fst).Nodup := by
    rw [keys_row member]
    exact List.Nodup.map (fun _ _ same => Key.name.inj same) table.distinct
  have same := Mapping.ofPairs_of_nodup distinct
  cases names : table.names with
  | nil =>
      have size := table.full cells member
      rw [names, List.length_nil, List.length_eq_zero_iff] at size
      rw [size, row, names]
      rfl
  | cons name more =>
      rw [row, names] at same
      rw [row, names]
      exact same

variable (table)

theorem rowMappings_tuples (shape : Shape) :
    RawResult.rowMappings ⟨shape, table.tuples, table.names⟩ = table.rows.map table.row := by
  rw [RawResult.rowMappings, tuples, List.map_map]
  exact List.map_congr_left fun cells member => rowOfCells_names member

theorem fieldNames_descriptions : fieldNames table.descriptions = .ok table.names := by
  have named : ∀ names : List String,
      (names.map fun name => Value.ofFields [("name", .text name)]).mapM fieldName = .ok names := by
    intro names
    induction names with
    | nil => rfl
    | cons name more ih =>
        rw [List.map_cons, List.mapM_cons, ih]
        rfl
  have read : fieldDescriptions table.descriptions =
      .ok (table.names.map fun name => .ofFields [("name", .text name)]) := by
    rw [descriptions]
    cases table.names <;> rfl
  rw [fieldNames, read]
  exact named table.names

/-- Each form holds the same rows. -/
theorem rowsOfValue_inForm (form : TableForm) :
    rowsOfValue (table.inForm form) = .ok (table.rows.map table.row) := by
  rw [rowsOfValue]
  cases form with
  | rowList | rowsEnvelope => exact congrArg Except.ok (table.rowMappings_mappings _ _)
  | rowsAndFields => exact congrArg Except.ok (table.rowMappings_tuples _)
  | record =>
      have raw : RawResult.ofValue (table.inForm .record) =
          (fieldNames table.descriptions).map fun fields => ⟨.rowsEnvelope, table.mappings, fields⟩ := rfl
      rw [raw, table.fieldNames_descriptions]
      exact congrArg Except.ok (table.rowMappings_mappings _ _)
  | pair =>
      have raw : RawResult.ofValue (table.inForm .pair) =
          (fieldNames table.descriptions).map fun fields => ⟨.rowsAndFields, table.mappings, fields⟩ := rfl
      rw [raw, table.fieldNames_descriptions]
      exact congrArg Except.ok (table.rowMappings_mappings _ _)
  | bare =>
      -- The first item is a mapping, so that the list is not taken for a pair.
      have raw : RawResult.ofValue (table.inForm .bare) = .ok ⟨.rowList, table.mappings, []⟩ := by
        rw [inForm, mappings]
        cases table.rows <;> rfl
      rw [raw]
      exact congrArg Except.ok (table.rowMappings_mappings _ _)

theorem columns_row (names : List String) (cells : List Value) :
    ((names.map Key.name).zip cells).mapM columnOfCell =
      .ok (List.zipWith (fun name cell => ⟨name, cell.jsonType.name⟩) names cells) := by
  induction names generalizing cells with
  | nil => rfl
  | cons name more ih =>
      cases cells with
      | nil => rfl
      | cons cell rest =>
          rw [List.map_cons, List.zip_cons_cons, List.mapM_cons, ih]
          rfl

/-- A table has the same columns and the same rows in whatever form it is handed over. -/
theorem normalize_inForm (form : TableForm) :
    normalize (table.inForm form) =
      .ok { columns := table.columns, rows := table.rows.map table.row } := by
  rw [normalize, table.rowsOfValue_inForm form, columns]
  cases table.rows with
  | nil => rfl
  | cons first rest =>
      rw [List.map_cons, row]
      dsimp only
      rw [columns_row]
      rfl

/-- Two people, one of them without a name. -/
def people : Table where
  names := ["id", "name"]
  rows := [[.int 1, .text "ada"], [.int 2, .null]]
  distinct := by decide
  full := by decide

theorem normalize_people :
    normalize (people.inForm .rowsAndFields) = .ok
      { columns := [⟨"id", "number"⟩, ⟨"name", "string"⟩]
        rows := [[(.name "id", .int 1), (.name "name", .text "ada")],
          [(.name "id", .int 2), (.name "name", .null)]] } ∧
    normalize (people.inForm .bare) = normalize (people.inForm .rowsAndFields) :=
  ⟨people.normalize_inForm .rowsAndFields,
    (people.normalize_inForm .bare).trans (people.normalize_inForm .rowsAndFields).symm⟩

end Table

end QueryDesk
