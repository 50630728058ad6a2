/-
Module: QueryDesk.Grammar.Written
Purpose: The text of a phrase in a dialect. IS among comparisons stands in brackets, for dialects
  disagree on which of them binds more tightly.
Imports: QueryDesk.Grammar.Layout, QueryDesk.Grammar.SqlServer
Main exports: Phrase.guarded, Phrase.written
-/
import QueryDesk.Grammar.Layout
import QueryDesk.Grammar.SqlServer

namespace QueryDesk.Grammar

namespace Phrase

/-- Whether a phrase compares two values. -/
def isComparison (phrase : Phrase) : Bool :=
  match phrase.label with
  | .operation operator => operator.compares
  | _ => false

/-- Whether a phrase says what a value is. -/
def isIdentity (phrase : Phrase) : Bool :=
  phrase.label == .operation .is

/-- A phrase in brackets if it passes a test. -/
def enclosedIf (test : Phrase → Bool) (phrase : Phrase) : Phrase :=
  if test phrase then .node .enclosed [phrase] else phrase

/-- A label over operands, with brackets between IS and comparisons. -/
def guarded (label : Label) (parts : List Phrase) : Phrase :=
  match label with
  | .operation operator =>
    if operator == .is then .node label (parts.map (enclosedIf isComparison))
    else if operator.compares then .node label (parts.map (enclosedIf isIdentity))
    else .node label parts
  | _ => .node label parts

/-- How a phrase is written. -/
def written (dialect : Dialect) (phrase : Phrase) : String :=
  let clear := phrase.rebuild guarded
  let put := if dialect == .sqlserver then clear.forSqlServer else clear
  (put.layout dialect).text

end Phrase

end QueryDesk.Grammar
