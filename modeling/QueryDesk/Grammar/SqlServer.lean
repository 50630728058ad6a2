/-
Module: QueryDesk.Grammar.SqlServer
Purpose: How phrases are put for SQL Server, which has no truth values to select, names every column
  of a derived table, bounds queries by TOP or FETCH, and has WITH clauses only in front of
  statements.
Imports: QueryDesk.Grammar.Phrase, QueryDesk.Text.CharClass
Main exports: Phrase.forSqlServer
-/
import QueryDesk.Grammar.Phrase
import QueryDesk.Text.CharClass

namespace QueryDesk.Grammar

open QueryDesk.Text

namespace Label

/-- Whether the operands or the content below a label are conditions. -/
def takesConditions : Label → Bool
  | .operation .and => true
  | .operation .or => true
  | .negation => true
  | .condition => true
  | .having => true
  | _ => false

/-- Whether a truth value right below a label is a value, and not a condition. -/
def takesValues : Label → Bool
  | .operation .equal => true
  | .operation .unequal => true
  | .operation .is => true
  | .among => true
  | .within => true
  | .select _ _ => true
  | .renamed _ => true
  | _ => false

/-- Whether a part of a query gets no name: an item that has one, a star, or no item at all. -/
def namesItself : Label → Bool
  | .renamed _ => true
  | .star => true
  | .starOf _ => true
  | .definitions => true
  | label => label.isClause

/-- Whether truth values anywhere below a label are values: they are in the rows of VALUES, but not
in queries there. -/
def holdsValues (around : Bool) : Label → Bool
  | .values => true
  | .select _ _ => false
  | _ => around

end Label

namespace Phrase

mutual

/-- A phrase without WITH clauses. -/
def withoutDefinitions : Phrase → Phrase
  | .node label parts => .node label (withoutDefinitionsAll parts)

/-- Phrases without WITH clauses. -/
def withoutDefinitionsAll : List Phrase → List Phrase
  | [] => []
  | .node .definitions _ :: rest => withoutDefinitionsAll rest
  | .node label parts :: rest =>
    .node label (withoutDefinitionsAll parts) :: withoutDefinitionsAll rest

end

/-- The definitions below a label and that of the label itself, if it is one. They are given for each
part. -/
def definitionsAt (label : Label) (parts : List Phrase) (each : List (Label × List Phrase)) :
    List Phrase :=
  let (own, inner) := each.partition fun part => part.1 == .definitions
  let found := (own ++ inner).flatMap Prod.snd
  match label with
  | .definition _ => found ++ [.node label (withoutDefinitionsAll parts)]
  | _ => found

mutual

/-- The definitions in a phrase, each behind those that it holds itself. What a query defines comes
before what its parts define. -/
def definitionsIn : Phrase → List Phrase
  | .node label parts => definitionsAt label parts (definitionsOfEach parts)

/-- The definitions in several phrases, each with the label of its phrase. -/
def definitionsOfEach : List Phrase → List (Label × List Phrase)
  | [] => []
  | .node label parts :: rest =>
    (label, definitionsAt label parts (definitionsOfEach parts)) :: definitionsOfEach rest

end

/-- A statement with all its definitions in one WITH clause. -/
def hoisted (phrase : Phrase) : Phrase :=
  match phrase.definitionsIn with
  | [] => phrase
  | found => phrase.withoutDefinitions.attach [.node .definitions found]

/-- An integer. -/
def integer (digits : String) : Phrase := .leaf (.integer digits)

/-- A phrase that has to differ from zero. -/
def unequalToZero (phrase : Phrase) : Phrase :=
  .node (.operation .unequal) [phrase, integer "0"]

/-- A phrase as a condition. Columns and numerals hold when they differ from zero. -/
def asCondition (phrase : Phrase) : Phrase :=
  match phrase with
  | .node (.column _ _) _ => unequalToZero phrase
  | .node (.integer _) _ => unequalToZero phrase
  | .node .negative [.node (.integer _) _] => unequalToZero phrase
  | _ => phrase

/-- A label over parts that are conditions where it takes conditions. -/
def conditioned (label : Label) (parts : List Phrase) : Phrase :=
  .node label (if label.takesConditions then parts.map asCondition else parts)

/-- A label over parts. What is a truth value equals it. -/
def identified (label : Label) (parts : List Phrase) : Phrase :=
  match label, parts with
  | .operation .is, [left, .node (.truth value) _] =>
    .node (.operation .equal) [left, .leaf (.truth value)]
  | _, _ => .node label parts

/-- A truth value: one or zero, or as a condition whether one is that. -/
def truthPhrase (asValue value : Bool) : Phrase :=
  let bit := integer (if value then "1" else "0")
  if asValue then bit else .node .row [.node (.operation .equal) [integer "1", bit]]

mutual

/-- A phrase without truth values of its own. Those right at the top, and those anywhere below, may
be values. -/
def bitwise (top below : Bool) : Phrase → Phrase
  | .node (.truth value) _ => truthPhrase (top || below) value
  | .node label parts =>
    .node label (bitwiseAll label.takesValues (label.holdsValues below) parts)

/-- Phrases without truth values of their own. -/
def bitwiseAll (top below : Bool) : List Phrase → List Phrase
  | [] => []
  | part :: rest => bitwise top below part :: bitwiseAll top below rest

end

/-- The name of a column that a text gives, if there is any text. It is quoted unless it is a plain
word. -/
def nameOfText? (text : String) : Option Name :=
  match text.toList with
  | [] => none
  | first :: rest => some ⟨text, !((first == '_' || isAsciiLetter first) && rest.all isWord)⟩

/-- The name of the column that an item of a query gives, if it has one. -/
def outputName? : Phrase → Option Name
  | .node (.column _ name) _ => some name
  | .node (.integer digits) _ => nameOfText? digits
  | .node (.text content) _ => nameOfText? content
  | .node .enclosed [.node (.column _ name) _] => nameOfText? name.text
  | .node .enclosed [.node (.integer digits) _] => nameOfText? digits
  | .node .enclosed [.node (.text content) _] => nameOfText? content
  | _ => none

mutual

/-- A query whose items have names. -/
def withNames : Phrase → Phrase
  | .node (.select distinct top) parts => .node (.select distinct top) (nameItems 0 parts)
  | other => other

/-- Queries whose items have names. -/
def withNamesAll : List Phrase → List Phrase
  | [] => []
  | part :: rest => withNames part :: withNamesAll rest

/-- The parts of a query from a place on, with names for the items among them. -/
def nameItems (place : Nat) : List Phrase → List Phrase
  | [] => []
  | .node label parts :: rest =>
    let placeName : Name := ⟨s!"_col_{place}", false⟩
    let item : Phrase :=
      match label with
      | .subquery none => .node (.subquery (some placeName)) (withNamesAll parts)
      | _ =>
        if label.namesItself then .node label parts
        else
          .node (.renamed (((Phrase.node label parts).outputName?).getD placeName))
            [.node label parts]
    item :: nameItems (place + 1) rest

end

/-- A label over parts. The columns of what it names have names. -/
def named (label : Label) (parts : List Phrase) : Phrase :=
  match label with
  | .definition _ => .node label (withNamesAll parts)
  | .subquery (some _) => .node label (withNamesAll parts)
  | _ => .node label parts

/-- The parts with one of some labels, and the others. -/
def partsOf (labels : List Label) (parts : List Phrase) : List Phrase × List Phrase :=
  parts.partition fun part => labels.contains part.label

/-- The order that puts nothing in order. -/
def noOrdering : Phrase :=
  let null : Phrase := .node (.select false none) [.leaf .null]
  .node .ordering [.node (.ordered none) [.node (.subquery none) [null]]]

/-- A query whose bounds are TOP, or FETCH where it skips rows, for which it needs an order. -/
def bounded (label : Label) (parts : List Phrase) : Phrase :=
  let (limits, others) := partsOf [.limit] parts
  let (offsets, others) := partsOf [.offset] others
  match label, limits, offsets with
  | .select distinct _, [.node _ [.node (.integer digits) _]], [] =>
    .node (.select distinct (some digits)) others
  | .select _ _, _, _ :: _ =>
    let ordering := if others.any (·.label == .ordering) then [] else [noOrdering]
    let fetched := limits.map fun limit => .node .fetch limit.parts
    .node label (others ++ ordering ++ offsets ++ fetched)
  | _, _, _ => .node label parts

/-- A label over parts. A union that is limited is a derived table of a query, since TOP needs a
SELECT of its own; a union may be put in order as it is. -/
def derived (label : Label) (parts : List Phrase) : Phrase :=
  match label, partsOf [.ordering, .limit, .definitions] parts with
  | .union all, (outer, united) =>
    if outer.any (·.label == .limit) then
      let table : Phrase := .node (.subquery (some ⟨"_l_0", false⟩)) [.node (.union all) united]
      .node (.select false none) (.leaf .star :: .node .source [table] :: outer)
    else .node label parts
  | _, _ => .node label parts

/-- A statement as it is put for SQL Server. -/
def forSqlServer (phrase : Phrase) : Phrase :=
  let steps := [conditioned, derived, named, bounded, identified]
  (steps.foldl (fun done step => done.rebuild step) phrase.hoisted).bitwise false false

end Phrase

end QueryDesk.Grammar
