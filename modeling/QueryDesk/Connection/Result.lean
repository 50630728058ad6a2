/-
Module: QueryDesk.Connection.Result
Purpose: Results as drivers shape them, brought to one form. A value is coerced into one of three
  shapes of rows and field names; rows of every kind become mappings from column names; and the
  columns are read off the first row.
Imports: QueryDesk.Value.Cell, QueryDesk.Document.Issue, QueryDesk.Error
Main exports: RawResult, Value.items, RawResult.ofValue, RawResult.rowMappings, ColumnMeta, Normalized,
  Fault, normalize
-/
import QueryDesk.Value.Cell
import QueryDesk.Document.Issue
import QueryDesk.Error

namespace QueryDesk

/-- Rows and field names as a driver returned them. -/
structure RawResult where
  shape : Shape
  rows : List Value := []
  fields : List String := []
deriving Repr, Inhabited, BEq

/-- The name of a shape. -/
def Shape.name : Shape → String
  | .rowList => "row-list"
  | .rowsEnvelope => "rows-envelope"
  | .rowsAndFields => "rows-and-fields"

/-- The name of the kind of a value, as messages give it. -/
def Value.kindName : Value → String
  | .null => "NoneType"
  | .bool _ => "bool"
  | .int _ => "int"
  | .float _ => "float"
  | .decimal _ => "decimal.Decimal"
  | .text _ => "str"
  | .bytes _ => "bytes"
  | .temporal .moment _ => "datetime.datetime"
  | .temporal .day _ => "datetime.date"
  | .temporal .clock _ => "datetime.time"
  | .list _ => "list"
  | .tuple _ => "tuple"
  | .mapping _ => "dict"
  | .record _ => "Record"
  | .named _ => "Named"
  | .object => "object"
  | .rows .rowList _ _ => "RowList"
  | .rows .rowsEnvelope _ _ => "RowsEnvelope"
  | .rows .rowsAndFields _ _ => "RowsAndFields"

/-- The name in a field description: a text itself, the entry or member called name, or the first
item of a sequence. -/
def fieldName : Value → Except Failure String
  | .text name => .ok name
  | .mapping entries => .ok (((Mapping.field? entries "name").map Value.display).getD "")
  | .list (first :: _) => .ok first.display
  | .tuple (first :: _) => .ok first.display
  | .bytes (first :: _) => .ok (toString first)
  | .list [] => .error (.ofMessage .outOfRange "list index out of range")
  | .tuple [] => .error (.ofMessage .outOfRange "tuple index out of range")
  | .bytes [] => .error (.ofMessage .outOfRange "index out of range")
  | .named name => .ok name.display
  | other => .ok other.display

/-- The value that a key stands for. -/
def Key.value : Key → Value
  | .name text => .text text
  | .number n => .int n

/-- The items of a value: those of a sequence, the characters of a text, the octets of bytes, the keys of a
mapping, or the cells of a record. Anything else has no items. -/
def Value.items : Value → Except Failure (List Value)
  | .list items => .ok items
  | .tuple items => .ok items
  | .text characters => .ok (characters.toList.map fun c => .text (String.ofList [c]))
  | .bytes octets => .ok (octets.map fun (octet : Nat) => .int (octet : Int))
  | .mapping entries => .ok (entries.map fun entry => entry.1.value)
  | .record entries => .ok (entries.map fun entry => entry.2)
  | other => .error (.ofMessage .wrongType s!"'{other.kindName}' object is not iterable")

/-- The field descriptions in a value are its items. A value that counts as false has none. -/
def fieldDescriptions (fields : Value) : Except Failure (List Value) :=
  if fields.isTruthy then fields.items else .ok []

/-- The field names in a value, none if there is nothing in it. -/
def fieldNames (fields : Value) : Except Failure (List String) := do
  let descriptions ← fieldDescriptions fields
  descriptions.mapM fieldName

namespace RawResult

/-- The result in a sequence: rows with their fields if the first item is itself a list, and else
the items as rows. -/
def ofItems (items : List Value) : Except Failure RawResult :=
  match items with
  | .list rows :: rest => do
    let fields ← fieldNames (rest.headD .null)
    return { shape := .rowsAndFields, rows := rows, fields := fields }
  | _ => .ok { shape := .rowList, rows := items }

/-- The result in a mapping: its entry called rows if that is a list, and else its values as
rows. -/
def ofMapping (entries : Mapping) : Except Failure RawResult :=
  match entries.field? "rows" with
  | some (.list rows) => do
    let fields ← fieldNames ((entries.field? "fields").getD .null)
    return { shape := .rowsEnvelope, rows := rows, fields := fields }
  | _ => .ok { shape := .rowList, rows := entries.map fun entry => entry.2 }

/-- The result that a driver's value stands for. What holds no rows is an empty list of them. -/
def ofValue : Value → Except Failure RawResult
  | .rows shape rows fields => .ok { shape := shape, rows := rows, fields := fields }
  | .mapping entries => ofMapping entries
  | .list items => ofItems items
  | .tuple items => ofItems items
  | _ => .ok { shape := .rowList }

/-- The value of a result. -/
def toValue (raw : RawResult) : Value :=
  .rows raw.shape raw.rows raw.fields

end RawResult

/-- Names of positions, counted from zero. -/
def positionNames (count : Nat) : List String :=
  (List.range count).map fun position => toString position

/-- The row of a sequence of cells: paired with the field names, or with the positions if there
are no names. Of two cells under one name the later one stays. -/
def rowOfCells (fields : List String) (cells : List Value) : Row :=
  let names := if fields.isEmpty then positionNames cells.length else fields
  Mapping.ofPairs (List.zip (names.map Key.name) cells)

/-- The row in a value: a mapping or record itself, cells under the field names, and anything else
as the single cell of a column called value. -/
def rowOfValue (fields : List String) : Value → Row
  | .mapping entries => entries
  | .record entries => Mapping.ofPairs entries
  | .list cells => rowOfCells fields cells
  | .tuple cells => rowOfCells fields cells
  | other => [(.name "value", other)]

/-- The rows of a result as mappings. -/
def RawResult.rowMappings (raw : RawResult) : List Row :=
  raw.rows.map (rowOfValue raw.fields)

/-- The rows that a driver's value holds. -/
def rowsOfValue (value : Value) : Except Failure (List Row) :=
  (RawResult.ofValue value).map RawResult.rowMappings

/-- A column of a result: its name and the JSON type of its cells. -/
structure ColumnMeta where
  name : String
  type : String
deriving Repr, Inhabited, DecidableEq

/-- Columns and rows in the one form that callers see. -/
structure Normalized where
  columns : List ColumnMeta := []
  rows : List Row := []
deriving Repr, Inhabited, BEq

/-- Why an operation gave no answer: an error of the library, a failure underneath it, or a
document that breaks its rules. -/
inductive Fault where
  | refused (error : DeskError)
  | failed (failure : Failure)
  | malformed (issues : List FieldIssue)
deriving Repr, Inhabited, BEq

/-- The column of a cell. A column without a name is malformed. -/
def columnOfCell : Key × Value → Except Fault ColumnMeta
  | (.name name, cell) => .ok ⟨name, cell.jsonType.name⟩
  | (.number _, _) => .error (.malformed [⟨[.field "name"], .text⟩])

/-- The result of a driver's value. Its columns are those of the first row, typed by the cells of
this row; without rows there are no columns. -/
def normalize (value : Value) : Except Fault Normalized := do
  match rowsOfValue value with
  | .error failure => throw (.failed failure)
  | .ok [] => return {}
  | .ok (first :: rest) =>
    let columns ← first.mapM columnOfCell
    return { columns := columns, rows := first :: rest }

end QueryDesk
