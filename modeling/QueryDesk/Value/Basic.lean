/-
Module: QueryDesk.Value.Basic
Purpose: The values that database drivers hand over and that documents are made of, with ordered
  mappings from keys to values.
Imports: QueryDesk.Number.Decimal, QueryDesk.Number.Measure
Main exports: Key, Shape, Temporal, Value, Mapping.get?, Mapping.insert, Mapping.ofPairs,
  Value.isTruthy
-/
import QueryDesk.Number.Decimal
import QueryDesk.Number.Measure

namespace QueryDesk

open QueryDesk.Number

/-- A key of a mapping: a name, or rarely a number. -/
inductive Key where
  | name (text : String)
  | number (value : Int)
deriving Repr, Inhabited, DecidableEq

/-- The three forms in which a driver returns rows: a bare list of them, a record of rows and
fields, and a pair of rows and fields. -/
inductive Shape where
  | rowList
  | rowsEnvelope
  | rowsAndFields
deriving Repr, Inhabited, DecidableEq

/-- The kinds of calendar and clock values. -/
inductive Temporal where
  | moment
  | day
  | clock
deriving Repr, Inhabited, DecidableEq

/-- A value from a driver. Lists and tuples are told apart, a record has keys without being a
mapping, and an opaque object has nothing to look into. -/
inductive Value where
  | null
  | bool (value : Bool)
  | int (value : Int)
  | float (value : Binary64)
  | decimal (value : Decimal)
  | text (value : String)
  | bytes (octets : List Nat)
  | temporal (kind : Temporal) (iso : String)
  | list (items : List Value)
  | tuple (items : List Value)
  | mapping (entries : List (Key × Value))
  | record (entries : List (Key × Value))
  | named (name : Value)
  | object
  | rows (shape : Shape) (items : List Value) (fields : List String)
deriving Repr, Inhabited, BEq

/-- An insertion-ordered mapping. Keys do not repeat in the mappings that the functions below
build. -/
abbrev Mapping := List (Key × Value)

/-- A row of a result: column names in order, with their cells. -/
abbrev Row := Mapping

namespace Mapping

/-- The value under a key. -/
def get? (entries : Mapping) (key : Key) : Option Value :=
  entries.lookup key

/-- The mapping with a value put under a key. A key that is there keeps its place. -/
def insert (entries : Mapping) (key : Key) (value : Value) : Mapping :=
  match entries with
  | [] => [(key, value)]
  | (k, v) :: rest => if k = key then (k, value) :: rest else (k, v) :: insert rest key value

/-- The mapping that arises by putting pairs in, one after the other. -/
def ofPairs (pairs : List (Key × Value)) : Mapping :=
  pairs.foldl (fun entries pair => entries.insert pair.1 pair.2) []

/-- The value under a name. -/
def field? (entries : Mapping) (name : String) : Option Value :=
  entries.get? (.name name)

end Mapping

namespace Value

/-- The truth of a value: zero, the empty text and everything without elements are false. -/
def isTruthy : Value → Bool
  | .null => false
  | .bool value => value
  | .int value => value != 0
  | .float value => !value.isZero
  | .decimal value => !value.isZero
  | .text value => value != ""
  | .bytes octets => !octets.isEmpty
  | .list items => !items.isEmpty
  | .tuple items => !items.isEmpty
  | .mapping entries => !entries.isEmpty
  | _ => true

/-- A text or null. -/
def ofText? : Option String → Value
  | some value => .text value
  | none => .null

/-- An integer or null. -/
def ofInt? : Option Int → Value
  | some value => .int value
  | none => .null

/-- A measure. -/
def ofMeasure : Measure → Value
  | .whole value => .int value
  | .binary value => .float value

/-- The measure that a value is. -/
def measure? : Value → Option Measure
  | .int value => some (.whole value)
  | .float value => some (.binary value)
  | .bool value => some (.whole (if value then 1 else 0))
  | _ => none

/-- A mapping from names. -/
def ofFields (fields : List (String × Value)) : Value :=
  .mapping (fields.map fun field => (.name field.1, field.2))

/-- A list of texts. -/
def ofTexts (texts : List String) : Value :=
  .list (texts.map .text)

end Value

end QueryDesk
