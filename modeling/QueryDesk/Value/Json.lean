/-
Module: QueryDesk.Value.Json
Purpose: JSON text of values, on one line without blanks and over several lines with an indentation
  of two. Characters outside ASCII stand for themselves.
Imports: QueryDesk.Value.Text
Main exports: Value.compactJson, Value.indentedJson
-/
import QueryDesk.Value.Text

namespace QueryDesk

open QueryDesk.Text QueryDesk.Number

/-- A number in JSON. The numbers that JSON lacks are written as words. -/
def jsonNumber : Binary64 → List Char
  | .nan => "NaN".toList
  | .infinite negative => (if negative then "-Infinity" else "Infinity").toList
  | value => value.text.toList

/-- A key as a JSON string. -/
def Key.json : Key → List Char
  | .name text => jsonString text.toList
  | .number value => jsonString (toString value).toList

/-- Texts with one separator between them. -/
def joinWith (separator : List Char) : List (List Char) → List Char
  | [] => []
  | [only] => only
  | first :: rest => first ++ separator ++ joinWith separator rest

/-- A value without parts. What JSON has no form for is written as the string of its text. -/
def Value.jsonLeaf : Value → List Char
  | .null => "null".toList
  | .bool value => (if value then "true" else "false").toList
  | .int value => (toString value).toList
  | .float value => jsonNumber value
  | value => jsonString value.display.toList

mutual

/-- JSON on one line, without blanks. -/
def Value.compact : Value → List Char
  | .list items => '[' :: (joinWith [','] (Value.compactItems items) ++ [']'])
  | .tuple items => '[' :: (joinWith [','] (Value.compactItems items) ++ [']'])
  | .mapping entries => '\x7b' :: (joinWith [','] (Value.compactEntries entries) ++ ['\x7d'])
  | leaf => leaf.jsonLeaf

/-- The items of a list on one line each. -/
def Value.compactItems : List Value → List (List Char)
  | [] => []
  | item :: rest => item.compact :: Value.compactItems rest

/-- The entries of a mapping on one line each. -/
def Value.compactEntries : List (Key × Value) → List (List Char)
  | [] => []
  | (key, value) :: rest => (key.json ++ ':' :: value.compact) :: Value.compactEntries rest

end

/-- Parts between delimiters, one on a line, indented by the given depth; no parts, no lines. -/
def jsonBlock (opening closing : Char) (depth : Nat) (parts : List (List Char)) : List Char :=
  if parts.isEmpty then [opening, closing]
  else
    let inner := '\n' :: List.replicate (2 * (depth + 1)) ' '
    let outer := '\n' :: List.replicate (2 * depth) ' '
    opening :: (inner ++ joinWith (',' :: inner) parts ++ outer ++ [closing])

mutual

/-- JSON over several lines at a depth. -/
def Value.indented (depth : Nat) : Value → List Char
  | .list items => jsonBlock '[' ']' depth (Value.indentedItems (depth + 1) items)
  | .tuple items => jsonBlock '[' ']' depth (Value.indentedItems (depth + 1) items)
  | .mapping entries =>
    jsonBlock '\x7b' '\x7d' depth (Value.indentedEntries (depth + 1) entries)
  | leaf => leaf.jsonLeaf

/-- The items of a list at a depth. -/
def Value.indentedItems (depth : Nat) : List Value → List (List Char)
  | [] => []
  | item :: rest => item.indented depth :: Value.indentedItems depth rest

/-- The entries of a mapping at a depth. -/
def Value.indentedEntries (depth : Nat) : List (Key × Value) → List (List Char)
  | [] => []
  | (key, value) :: rest =>
    (key.json ++ ':' :: ' ' :: value.indented depth) :: Value.indentedEntries depth rest

end

/-- JSON on one line, without blanks. -/
def Value.compactJson (value : Value) : String :=
  String.ofList value.compact

/-- JSON over several lines, indented by two. -/
def Value.indentedJson (value : Value) : String :=
  String.ofList (value.indented 0)

end QueryDesk
