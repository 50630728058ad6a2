/-
Module: QueryDesk.Value.Cell
Purpose: Reading the cells of catalog rows and results: truth values, texts and integers as drivers
  spell them, the JSON type of a cell, and the lookup of a column whatever its letter case.
Imports: QueryDesk.Connection.Failure, QueryDesk.Text.Case, QueryDesk.Text.Utf8
Main exports: Value.asBool, Value.asText?, Value.asTextOrEmpty, Value.asInt, JsonType,
  Value.jsonType, Row.cell?, Row.cell
-/
import QueryDesk.Connection.Failure
import QueryDesk.Text.Case
import QueryDesk.Text.Utf8

namespace QueryDesk

open QueryDesk.Text QueryDesk.Number

/-- The words that catalogs write for true. -/
def trueWords : List String := ["t", "true", "yes", "y", "1"]

/-- A catalog truth value: a word, or the truth of the value. -/
def Value.asBool : Value → Bool
  | .text word => trueWords.contains (lowerString (trimString word))
  | value => value.isTruthy

/-- A catalog text: numbers show themselves and octets are decoded. -/
def Value.asText? : Value → Option String
  | .null => none
  | .bytes octets => some (String.ofList (utf8Decode octets))
  | value => some value.display

/-- A catalog text, empty where there is none. -/
def Value.asTextOrEmpty (value : Value) : String :=
  value.asText?.getD ""

/-- A catalog integer. What writes no integer counts as zero, and an infinite number fails. -/
def Value.asInt : Value → Except Failure Int
  | .bool value => .ok (if value then 1 else 0)
  | .int value => .ok value
  | .float (.infinite _) =>
    .error (.ofMessage .overflow "cannot convert float infinity to integer")
  | .float value => .ok (value.truncate?.getD 0)
  | .decimal (.infinite _) => .error (.ofMessage .overflow "cannot convert Infinity to integer")
  | .decimal value => .ok (value.truncate?.getD 0)
  | .text numeral => .ok ((readInt? numeral.toList).getD 0)
  | .bytes octets =>
    .ok (if octets.all (· < 128) then (readInt? (octets.map Char.ofNat)).getD 0 else 0)
  | _ => .ok 0

/-- The type of a cell at the level of JSON. -/
inductive JsonType where
  | null
  | boolean
  | number
  | string
  | datetime
  | object
deriving Repr, Inhabited, DecidableEq

/-- The name of a type. -/
def JsonType.name : JsonType → String
  | .null => "null"
  | .boolean => "boolean"
  | .number => "number"
  | .string => "string"
  | .datetime => "datetime"
  | .object => "object"

/-- The type of a value: octets and everything with parts are objects. -/
def Value.jsonType : Value → JsonType
  | .null => .null
  | .bool _ => .boolean
  | .int _ => .number
  | .float _ => .number
  | .decimal _ => .number
  | .text _ => .string
  | .temporal _ _ => .datetime
  | _ => .object

/-- The first cell whose column, in lower case, is the given one. A column without a name cannot be
compared and fails. -/
def Row.cellIgnoringCase? (lowered : String) : Row → Except Failure (Option Value)
  | [] => .ok none
  | (.name column, value) :: rest =>
    if lowerString column = lowered then .ok (some value) else cellIgnoringCase? lowered rest
  | (.number _, _) :: _ =>
    .error (.ofMessage .missingMember "'int' object has no attribute 'lower'")

/-- The cell of a column: under its name as given, in upper case or in lower case, and else the
first one whose name differs in letter case only. -/
def Row.cell? (row : Row) (column : String) : Except Failure (Option Value) :=
  match row.field? column with
  | some value => .ok (some value)
  | none =>
    match row.field? (upperString column) with
    | some value => .ok (some value)
    | none =>
      match row.field? (lowerString column) with
      | some value => .ok (some value)
      | none => Row.cellIgnoringCase? (lowerString column) row

/-- The cell of a column, or null. -/
def Row.cell (row : Row) (column : String) : Except Failure Value := do
  let found ← Row.cell? row column
  return found.getD .null

end QueryDesk
