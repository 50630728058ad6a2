/-
Module: QueryDesk.Validation.Report
Purpose: The report on a submitted text: errors with their places, advisory warnings, a formatted
  copy and the named parameters, with the documents that it is written as and read from.
Imports: QueryDesk.Document.Reading, QueryDesk.Connection.Failure, QueryDesk.Grammar.Tree,
  QueryDesk.Sql.Warning
Main exports: SqlError, ValidationReport, ValidationReport.warningsOf, SqlError.write, SqlError.read,
  SqlWarning.write, SqlWarning.read, ValidationReport.write, ValidationReport.read
-/
import QueryDesk.Document.Reading
import QueryDesk.Connection.Failure
import QueryDesk.Grammar.Tree
import QueryDesk.Sql.Warning

namespace QueryDesk

open QueryDesk.Grammar

/-- An error in a text, with its place if it has one. -/
structure SqlError where
  message : String
  line : Option Int := none
  column : Option Int := none
  offset : Option Int := none
deriving Repr, Inhabited, DecidableEq

/-- An error as a document. -/
def SqlError.write (spelling : Spelling) (error : SqlError) : Value :=
  writeRecord spelling
    [(.camel "message", .text error.message), (.camel "line", .ofInt? error.line),
      (.camel "column", .ofInt? error.column), (.camel "offset", .ofInt? error.offset)]

/-- An error in a document. -/
def SqlError.read (document : Mapping) : Checked SqlError :=
  SqlError.mk
    <$> (FieldName.camel "message").required readNonEmptyText document
    <*> (FieldName.camel "line").optional none (readNullable readInt) document
    <*> (FieldName.camel "column").optional none (readNullable readInt) document
    <*> (FieldName.camel "offset").optional none (readNullable readInt) document

/-- The category of a warning. -/
def readWarningType : Reader WarningType
  | .text name =>
    match WarningType.ofName? name with
    | some known => .valid known
    | none => .issue .choice
  | _ => .issue .choice

/-- The category with a name. -/
def WarningType.ofName (text : String) : Except Failure WarningType :=
  match WarningType.ofName? text with
  | some known => .ok known
  | none => .error (.notAMember text "WarningType")

/-- A warning as a document. -/
def SqlWarning.write (spelling : Spelling) (warning : SqlWarning) : Value :=
  writeRecord spelling
    [(.camel "message", .text warning.message), (.camel "type", .text warning.type.name),
      (.camel "line", .ofInt? warning.line), (.camel "column", .ofInt? warning.column)]

/-- A warning in a document. -/
def SqlWarning.read (document : Mapping) : Checked SqlWarning :=
  SqlWarning.mk
    <$> (FieldName.camel "message").required readText document
    <*> (FieldName.camel "type").required readWarningType document
    <*> (FieldName.camel "line").optional none (readNullable readInt) document
    <*> (FieldName.camel "column").optional none (readNullable readInt) document

/-- What is known about a text. The trees of its statements are no part of a document. -/
structure ValidationReport where
  isValid : Bool
  errors : List SqlError := []
  warnings : List SqlWarning := []
  syntaxTrees : Option (List Tree) := none
  formatted : Option String := none
  parameters : List String := []
  statementCount : Int := 0
deriving Repr, Inhabited, BEq

namespace ValidationReport

/-- The report of one error without a place. -/
def ofMessage (message : String) : ValidationReport :=
  { isValid := false, errors := [{ message := message }] }

/-- The warnings of one category. -/
def warningsOf (report : ValidationReport) (type : WarningType) : List SqlWarning :=
  report.warnings.filter fun warning => warning.type == type

/-- The formatted copy in a document. -/
def formattedField : FieldName := ⟨"formatted_sql", "formattedSQL"⟩

/-- A report as a document. -/
def write (spelling : Spelling) (report : ValidationReport) : Value :=
  writeRecord spelling
    [(.camel "is_valid", .bool report.isValid),
      (.camel "errors", .list (report.errors.map (SqlError.write spelling))),
      (.camel "warnings", .list (report.warnings.map (SqlWarning.write spelling))),
      (formattedField, .ofText? report.formatted),
      (.camel "parameters", .ofTexts report.parameters),
      (.camel "statement_count", .int report.statementCount)]

/-- A report in a document. -/
def read (document : Mapping) : Checked ValidationReport :=
  ValidationReport.mk
    <$> (FieldName.camel "is_valid").required readTruth document
    <*> (FieldName.camel "errors").optional [] (readListOf (readRecord SqlError.read)) document
    <*> (FieldName.camel "warnings").optional [] (readListOf (readRecord SqlWarning.read)) document
    <*> pure none
    <*> formattedField.optional none (readNullable readText) document
    <*> (FieldName.camel "parameters").optional [] (readListOf readText) document
    <*> (FieldName.camel "statement_count").optional 0 readInt document

end ValidationReport

end QueryDesk
