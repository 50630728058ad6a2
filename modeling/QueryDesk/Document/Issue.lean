/-
Module: QueryDesk.Document.Issue
Purpose: What is wrong with a document that is read into a record: each issue names the place by the
  path that leads there, and the rule that the value at this place breaks.
Imports: none
Main exports: PathStep, IssueKind, IssueKind.label, FieldIssue
-/

namespace QueryDesk

/-- A step of a path into a document. -/
inductive PathStep where
  | field (name : String)
  | index (position : Int)
deriving Repr, Inhabited, DecidableEq

/-- The rule that a value breaks. -/
inductive IssueKind where
  | missing
  | wholeNumeral
  | numeral
  | wholeNumber
  | number
  | fraction
  | text
  | truth
  | sequence
  | record
  | choice
  | tooShort
  | belowMinimum
  | notAbove
  | aboveMaximum
  | refused (reason : String)
deriving Repr, Inhabited, DecidableEq

/-- The name under which an issue is reported. -/
def IssueKind.label : IssueKind → String
  | .missing => "missing"
  | .wholeNumeral => "int_parsing"
  | .numeral => "float_parsing"
  | .wholeNumber => "int_type"
  | .number => "float_type"
  | .fraction => "int_from_float"
  | .text => "string_type"
  | .truth => "bool_type"
  | .sequence => "list_type"
  | .record => "model_type"
  | .choice => "enum"
  | .tooShort => "string_too_short"
  | .belowMinimum => "greater_than_equal"
  | .notAbove => "greater_than"
  | .aboveMaximum => "less_than_equal"
  | .refused _ => "value_error"

/-- The words that go with an issue, if its name does not say everything. -/
def IssueKind.words? : IssueKind → Option String
  | .refused reason => some ("Value error, " ++ reason)
  | _ => none

/-- An issue at a place. -/
structure FieldIssue where
  path : List PathStep
  kind : IssueKind
deriving Repr, Inhabited, DecidableEq

/-- The issue seen from one step further out. -/
def FieldIssue.under (step : PathStep) (issue : FieldIssue) : FieldIssue :=
  ⟨step :: issue.path, issue.kind⟩

end QueryDesk
