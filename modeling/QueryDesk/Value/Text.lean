/-
Module: QueryDesk.Value.Text
Purpose: The text of a value as messages and catalog entries show it, and the literal form that a
  value has inside a container.
Imports: QueryDesk.Value.Basic, QueryDesk.Number.Shortest, QueryDesk.Text.Quoted
Main exports: Value.literal, Value.display
-/
import QueryDesk.Value.Basic
import QueryDesk.Number.Shortest
import QueryDesk.Text.Quoted

namespace QueryDesk

open QueryDesk.Text

/-- Texts with a comma between them. -/
def joinComma : List (List Char) → List Char
  | [] => []
  | [only] => only
  | first :: rest => first ++ ',' :: ' ' :: joinComma rest

/-- The items of a tuple in parentheses. A single item keeps a comma behind it. -/
def tupleForm (items : List (List Char)) : List Char :=
  match items with
  | [only] => '(' :: (only ++ [',', ')'])
  | _ => '(' :: (joinComma items ++ [')'])

/-- The numbers in a text. -/
def numbersIn (text : List Char) : List Nat :=
  (splitAtChar ' ' (text.map fun c => if isAsciiDigit c then c else ' ')).filterMap fun run =>
    if run.isEmpty then none
    else some (run.foldl (fun sum c => 10 * sum + (c.toNat - '0'.toNat)) 0)

/-- The numbers of a clock text. Without microseconds the seconds count only if there are any. -/
def clockNumbers (clock : List Char) : List Nat :=
  match numbersIn clock with
  | [hour, minute, 0] => [hour, minute]
  | numbers => numbers

/-- The seconds that the numbers of a distance from UTC stand for. -/
def offsetSeconds : List Nat → Nat
  | hours :: minutes :: seconds => 3600 * hours + 60 * minutes + seconds.headD 0
  | _ => 0

/-- The literal form of a zone at a distance from UTC: whole days, which may be negative, and the
seconds after them. -/
def zoneLiteral (offset : Int) : List Char :=
  if offset == 0 then "datetime.timezone.utc".toList
  else
    let days := Int.fdiv offset 86400
    let dayForm := if days == 0 then [] else "days=".toList ++ (toString days).toList ++ [',', ' ']
    "datetime.timezone(datetime.timedelta(".toList ++ dayForm ++ "seconds=".toList ++
      (toString (Int.fmod offset 86400)).toList ++ "))".toList

/-- The literal form of the distance from UTC at the end of a clock text, if there is one. -/
def offsetLiterals (offset : List Char) : List (List Char) :=
  match offset with
  | sign :: distance =>
    let seconds : Int := offsetSeconds (numbersIn distance)
    ["tzinfo=".toList ++ zoneLiteral (if sign == '-' then -seconds else seconds)]
  | [] => []

/-- The literal form of a clock text, given the numbers before it. -/
def clockLiterals (before : List Nat) (text : List Char) : List (List Char) :=
  let isSign := fun c => c == '+' || c == '-'
  let numbers := before ++ clockNumbers (text.takeWhile (!isSign ·))
  numbers.map (fun n => (toString n).toList) ++ offsetLiterals (text.dropWhile (!isSign ·))

/-- The literal form of a calendar or clock value: its class, its numbers and its zone. -/
def temporalLiteral (kind : Temporal) (iso : String) : List Char :=
  let call := fun (className : String) (parts : List (List Char)) =>
    className.toList ++ '(' :: (joinComma parts ++ [')'])
  match kind with
  | .moment =>
    let day := iso.toList.takeWhile (· != 'T')
    call "datetime.datetime" (clockLiterals (numbersIn day) (iso.toList.drop (day.length + 1)))
  | .day =>
    call "datetime.date" ((numbersIn iso.toList).map fun n => (toString n).toList)
  | .clock => call "datetime.time" (clockLiterals [] iso.toList)

mutual

/-- The literal form of a value, in which texts stand between quotes. -/
def Value.literal : Value → List Char
  | .null => "None".toList
  | .bool value => (if value then "True" else "False").toList
  | .int value => (toString value).toList
  | .float value => value.text.toList
  | .decimal value => "Decimal(".toList ++ literalForm value.text.toList ++ [')']
  | .text value => literalForm value.toList
  | .bytes octets => octetsLiteralForm octets
  | .temporal kind iso => temporalLiteral kind iso
  | .list items => '[' :: (joinComma (Value.literals items) ++ [']'])
  | .tuple items => tupleForm (Value.literals items)
  | .mapping entries => '\x7b' :: (joinComma (Value.entryLiterals entries) ++ ['\x7d'])
  | .record entries => '\x7b' :: (joinComma (Value.entryLiterals entries) ++ ['\x7d'])
  | .named name => Value.literal name
  | .object => "object".toList
  | .rows _ items _ => '[' :: (joinComma (Value.literals items) ++ [']'])

/-- The literal forms of the values of a list. -/
def Value.literals : List Value → List (List Char)
  | [] => []
  | item :: rest => item.literal :: Value.literals rest

/-- The literal forms of the entries of a mapping. -/
def Value.entryLiterals : List (Key × Value) → List (List Char)
  | [] => []
  | (key, value) :: rest =>
    let keyForm :=
      match key with
      | .name label => literalForm label.toList
      | .number n => (toString n).toList
    (keyForm ++ ':' :: ' ' :: value.literal) :: Value.entryLiterals rest

end

/-- The text of a value. Texts, decimal numbers and calendar values show themselves; a moment has a
blank between its day and its hour. -/
def Value.display : Value → String
  | .text value => value
  | .decimal value => value.text
  | .temporal .moment iso => String.ofList (iso.toList.map fun c => if c == 'T' then ' ' else c)
  | .temporal _ iso => iso
  | value => String.ofList value.literal

end QueryDesk
