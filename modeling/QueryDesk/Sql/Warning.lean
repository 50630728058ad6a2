/-
Module: QueryDesk.Sql.Warning
Purpose: Advisory findings on raw SQL text. A rule fires when one of its patterns occurs and the
  pattern that excuses it does not. The rules know no dialect and never block a statement.
Imports: QueryDesk.Sql.Clause
Main exports: WarningType, SqlWarning, Rule, securityRules, performanceRules, scanSecurity,
  scanPerformance
-/
import QueryDesk.Sql.Clause

namespace QueryDesk

/-- The category of a finding. -/
inductive WarningType where
  | performance
  | security
  | style
deriving Repr, Inhabited, DecidableEq

namespace WarningType

/-- The name of a category. -/
def name : WarningType → String
  | .performance => "performance"
  | .security => "security"
  | .style => "style"

/-- The category with a name. -/
def ofName? (text : String) : Option WarningType :=
  [WarningType.performance, .security, .style].find? fun known => known.name == text

end WarningType

/-- An advisory finding, with its position if it has one. -/
structure SqlWarning where
  message : String
  type : WarningType
  line : Option Int := none
  column : Option Int := none
deriving Repr, Inhabited, DecidableEq

end QueryDesk

namespace QueryDesk.Sql

open QueryDesk.Text

/-- A pattern without groups, from a function that drops what it matches. -/
def plainPattern (after? : List Char → Option (List Char)) : Pattern := fun _ text =>
  (after? text).map fun rest => upTo text rest []

/-- A pattern that has to begin a word. -/
def wordPattern (after? : List Char → Option (List Char)) : Pattern := fun before text =>
  if wordBegins before then plainPattern after? before text else none

/-- One of several words at the head of a text, with what follows it. -/
def oneOf? (words : List String) (after? : List Char → List Char → Option (List Char))
    (text : List Char) : Option (List Char) :=
  words.findSome? fun word => after? word.toList text

/-- A whole word. -/
def wholeWord (word : String) : Pattern :=
  wordPattern (wholeWord? word.toList)

/-- DROP of something that holds data. -/
def dropStatement : Pattern :=
  wordPattern fun text =>
    ((keyword? "drop".toList text).bind blanks1?).bind
      (oneOf? ["table", "database", "index", "view"] wholeWord?)

/-- DELETE FROM. -/
def deleteFrom : Pattern :=
  wordPattern fun text =>
    ((keyword? "delete".toList text).bind blanks1?).bind (wholeWord? "from".toList)

/-- Whether a character delimits a string. -/
def isStringQuote (c : Char) : Bool :=
  c == '\x27' || c == '\x22'

/-- A quote, a semicolon and the start of a line comment, with nothing but blanks between them. -/
def quotedTermination : Pattern :=
  plainPattern fun text =>
    match text with
    | c :: rest =>
      if isStringQuote c then
        ((char? ';' (blanks rest)).bind fun after => char? '-' (blanks after)).bind (char? '-')
      else none
    | [] => none

/-- The text after a single quote, if there is one. -/
def optionalQuote (text : List Char) : List Char :=
  (char? '\x27' text).getD text

/-- A quote, the word OR, and an equation of numbers that may be quoted. -/
def quotedTautology : Pattern :=
  plainPattern fun text => do
    let opened ← char? '\x27' text
    let number ← (keyword? "or".toList (blanks opened)).bind blanks1?
    let left ← digits1? (optionalQuote number)
    let right ← char? '=' (blanks (optionalQuote left))
    digits1? (optionalQuote (blanks right))

/-- SELECT of everything. -/
def selectStar : Pattern :=
  wordPattern fun text =>
    ((keyword? "select".toList text).bind blanks1?).bind (char? '*')

/-- LIKE with a pattern that begins with a wildcard. -/
def leadingWildcard : Pattern :=
  wordPattern fun text =>
    match (keyword? "like".toList text).bind blanks1? with
    | some (c :: rest) => if isStringQuote c then char? '%' rest else none
    | _ => none

/-- A call of a function that hides a column from an index. -/
def columnFunction : Pattern :=
  wordPattern fun text =>
    (oneOf? ["upper", "lower", "trim", "substring", "cast", "convert"] keyword? text).bind
      fun rest => char? '(' (blanks rest)

/-- WHERE with a pattern somewhere behind it. -/
def whereThen (later : Pattern) : Pattern :=
  wordPattern fun text =>
    match wholeWord? "where".toList text with
    | some rest => if occursFrom later (some 'e') rest then some rest else none
    | none => none

/-- A heuristic rule. -/
structure Rule where
  patterns : List Pattern
  message : String
  type : WarningType
  excuses : List Pattern := []

/-- Whether a rule fires. -/
def Rule.fires (rule : Rule) (text : List Char) : Bool :=
  (rule.patterns.any fun pattern => occurs pattern text) &&
    !(rule.excuses.any fun pattern => occurs pattern text)

/-- The rules on what endangers data. -/
def securityRules : List Rule :=
  [{ patterns := [dropStatement]
     message := "DROP statement detected - this will permanently delete data"
     type := .security },
   { patterns := [wholeWord "truncate"]
     message := "TRUNCATE statement detected - this will delete all rows"
     type := .security },
   { patterns := [deleteFrom]
     message := "DELETE without WHERE clause - this will delete all rows"
     type := .security
     excuses := [wholeWord "where"] },
   { patterns := [wholeWord "update"]
     message := "UPDATE without WHERE clause - this will update all rows"
     type := .security
     excuses := [wholeWord "where"] },
   { patterns := [quotedTermination, quotedTautology]
     message := "Potential SQL injection pattern detected"
     type := .security }]

/-- The rules on what may be slow. -/
def performanceRules : List Rule :=
  [{ patterns := [selectStar]
     message := "SELECT * detected - consider selecting only needed columns"
     type := .performance },
   { patterns := [wholeWord "select"]
     message := "Query without LIMIT - consider adding a limit for large tables"
     type := .performance
     excuses := [wholeWord "limit", wholeWord "top"] },
   { patterns := [leadingWildcard]
     message := "LIKE with leading wildcard may prevent index usage"
     type := .performance },
   { patterns := [whereThen (wholeWord "or")]
     message := "OR in WHERE clause may prevent optimal index usage - consider UNION"
     type := .performance },
   { patterns := [whereThen columnFunction]
     message := "Function on column in WHERE clause may prevent index usage"
     type := .performance }]

/-- The findings of the rules that fire, in the order of the rules. -/
def scan (rules : List Rule) (text : List Char) : List SqlWarning :=
  (rules.filter fun rule => rule.fires text).map fun rule =>
    { message := rule.message, type := rule.type }

/-- The security findings on a text. -/
def scanSecurity (text : List Char) : List SqlWarning :=
  scan securityRules text

/-- The performance findings on a text. -/
def scanPerformance (text : List Char) : List SqlWarning :=
  scan performanceRules text

end QueryDesk.Sql
