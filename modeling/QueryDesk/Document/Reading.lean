/-
Module: QueryDesk.Document.Reading
Purpose: Reading documents into records. A reader checks all fields and reports every issue, in the
  order of the fields; a field goes by an external name and by a name, and the external one wins.
Imports: QueryDesk.Document.Issue, QueryDesk.Value.Basic, QueryDesk.Number.Numeral
Main exports: Checked, FieldName, camelCase, Reader, FieldName.required, FieldName.optional,
  readText, readInt, readTruth, readListOf, readRecord, writeRecord
-/
import QueryDesk.Document.Issue
import QueryDesk.Value.Basic
import QueryDesk.Number.Numeral

namespace QueryDesk

open QueryDesk.Text QueryDesk.Number

/-- The outcome of reading: a value, or everything that is wrong. -/
inductive Checked (α : Type) where
  | valid (value : α)
  | invalid (issues : List FieldIssue)
deriving Repr, Inhabited

namespace Checked

variable {α β : Type}

/-- One thing is wrong here. -/
def issue (kind : IssueKind) : Checked α :=
  .invalid [⟨[], kind⟩]

/-- The value under a function. -/
def map (f : α → β) : Checked α → Checked β
  | .valid value => .valid (f value)
  | .invalid issues => .invalid issues

/-- A function and its argument, both checked: the issues of both are reported. -/
def apply (f : Checked (α → β)) (argument : Checked α) : Checked β :=
  match f, argument with
  | .valid f, .valid value => .valid (f value)
  | .valid _, .invalid issues => .invalid issues
  | .invalid issues, .valid _ => .invalid issues
  | .invalid first, .invalid second => .invalid (first ++ second)

/-- A check that needs a valid value. -/
def andThen (checked : Checked α) (next : α → Checked β) : Checked β :=
  match checked with
  | .valid value => next value
  | .invalid issues => .invalid issues

/-- The outcome seen from one step further out. -/
def under (step : PathStep) : Checked α → Checked α
  | .valid value => .valid value
  | .invalid issues => .invalid (issues.map (FieldIssue.under step))

instance : Applicative Checked where
  pure := .valid
  map := Checked.map
  seq f argument := Checked.apply f (argument ())

end Checked

/-- A name with its words joined: each word after the first begins with a capital letter. -/
def camelCase (name : String) : String :=
  match splitAtChar '_' name.toList with
  | [] => ""
  | first :: rest => String.ofList (first ++ rest.flatMap titleWords)

/-- What a field goes by. -/
structure FieldName where
  name : String
  external : String
deriving Repr, Inhabited, DecidableEq

/-- A field whose external name is its name with the words joined. -/
def FieldName.camel (name : String) : FieldName :=
  ⟨name, camelCase name⟩

/-- A field without an external name of its own. -/
def FieldName.plain (name : String) : FieldName :=
  ⟨name, name⟩

/-- The spelling of field names in a document that is written. -/
inductive Spelling where
  | external
  | name
deriving Repr, Inhabited, DecidableEq

/-- A field name in a spelling. -/
def FieldName.spell (field : FieldName) : Spelling → String
  | .external => field.external
  | .name => field.name

/-- The value of a field in a document: under the external name, else under the name. -/
def FieldName.value? (field : FieldName) (document : Mapping) : Option Value :=
  match document.field? field.external with
  | some value => some value
  | none => document.field? field.name

/-- Reads a value. -/
abbrev Reader (α : Type) := Value → Checked α

namespace FieldName

variable {α : Type}

/-- A field that has to be there. -/
def required (field : FieldName) (read : Reader α) (document : Mapping) : Checked α :=
  match field.value? document with
  | some value => (read value).under (.field field.external)
  | none => (Checked.issue .missing).under (.field field.external)

/-- A field that may be left out. -/
def optional (field : FieldName) (default : α) (read : Reader α) (document : Mapping) :
    Checked α :=
  match field.value? document with
  | some value => (read value).under (.field field.external)
  | none => .valid default

end FieldName

/-- A text. -/
def readText : Reader String
  | .text value => .valid value
  | _ => .issue .text

/-- A text of at least one character. -/
def readNonEmptyText (value : Value) : Checked String :=
  (readText value).andThen fun text => if text == "" then .issue .tooShort else .valid text

/-- A truth value. Numbers and words that may stand for one are left out of the documents that are read. -/
def readTruth : Reader Bool
  | .bool value => .valid value
  | _ => .issue .truth

/-- The text before a fraction of zeros. -/
def dropZeroFraction (text : List Char) : List Char :=
  let fraction := text.dropWhile (· != '.')
  match fraction with
  | '.' :: zeros => if zeros.all (· == '0') then text.takeWhile (· != '.') else text
  | _ => text

/-- The integer that a configuration text writes in ASCII digits. A fraction of zeros does not
count. -/
def readConfiguredInt? (text : List Char) : Option Int :=
  let bare := dropZeroFraction (trimNumeral text)
  if bare.all (·.toNat < 128) then readInt? bare else none

/-- An integer, which a text or a whole number without a fraction may write. -/
def readInt : Reader Int
  | .int value => .valid value
  | .bool value => .valid (if value then 1 else 0)
  | .text numeral =>
    match readConfiguredInt? numeral.toList with
    | some value => .valid value
    | none => .issue .wholeNumeral
  | .float value =>
    match value.truncate? with
    | some part => if value == .ofInt part || value.isZero then .valid part else .issue .fraction
    | none => .issue .fraction
  | _ => .issue .wholeNumber

/-- An integer that is not below a minimum. -/
def readIntFrom (minimum : Int) (value : Value) : Checked Int :=
  (readInt value).andThen fun n => if n < minimum then .issue .belowMinimum else .valid n

/-- An integer between two bounds. -/
def readIntBetween (minimum maximum : Int) (value : Value) : Checked Int :=
  (readIntFrom minimum value).andThen fun n =>
    if maximum < n then .issue .aboveMaximum else .valid n

/-- The number that a configuration text writes in ASCII digits. -/
def readConfiguredNumber? (text : List Char) : Option Binary64 :=
  let bare := trimNumeral text
  if bare.all (·.toNat < 128) then readBinary64? bare else none

/-- A number, which a text or an integer may write. -/
def readNumber : Reader Binary64
  | .float value => .valid value
  | .int value => .valid (.ofInt value)
  | .bool value => .valid (.ofInt (if value then 1 else 0))
  | .text numeral =>
    match readConfiguredNumber? numeral.toList with
    | some value => .valid value
    | none => .issue .numeral
  | _ => .issue .number

/-- A number above zero. -/
def readPositiveNumber (value : Value) : Checked Binary64 :=
  (readNumber value).andThen fun x =>
    if x.compare? .zero == some .gt then .valid x else .issue .notAbove

/-- Null or a value. -/
def readNullable {α : Type} (read : Reader α) : Reader (Option α)
  | .null => .valid none
  | value => (read value).map some

/-- The items of a list from a position on. -/
def readItemsFrom {α : Type} (read : Reader α) (position : Nat) : List Value → Checked (List α)
  | [] => .valid []
  | item :: rest =>
    ((read item).under (.index (position : Int))).map List.cons |>.apply
      (readItemsFrom read (position + 1) rest)

/-- A list of values. Tuples are left out as well. -/
def readListOf {α : Type} (read : Reader α) : Reader (List α)
  | .list items => readItemsFrom read 0 items
  | _ => .issue .sequence

/-- A record, read field by field. -/
def readRecord {α : Type} (read : Mapping → Checked α) : Reader α
  | .mapping entries => read entries
  | _ => .issue .record

/-- A mapping, kept as it is. -/
def readMapping : Reader Mapping
  | .mapping entries => .valid entries
  | _ => .issue .record

/-- A document of fields in a spelling. -/
def writeRecord (spelling : Spelling) (fields : List (FieldName × Value)) : Value :=
  .mapping (fields.map fun field => (.name (field.1.spell spelling), field.2))

end QueryDesk
