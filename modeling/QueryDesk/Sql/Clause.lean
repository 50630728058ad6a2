/-
Module: QueryDesk.Sql.Clause
Purpose: The clauses that bound and page a query, as patterns on masked text. Keywords are compared
  without regard to letter case, and a keyword that has to be a whole word neither follows nor
  precedes a word character.
Imports: QueryDesk.Sql.Nesting, QueryDesk.Text.Case
Main exports: keyword?, wholeWord?, blanks, blanks1?, digits1?, limitClause, offsetKeyword,
  topClause, fetchClause, orderByClause, selectHead, passthrough
-/
import QueryDesk.Sql.Nesting
import QueryDesk.Text.Case

namespace QueryDesk.Sql

open QueryDesk.Text

/-- The text after a keyword at its head. The keyword is given in lower case. -/
def keyword? : List Char → List Char → Option (List Char)
  | [], text => some text
  | _ :: _, [] => none
  | k :: word, c :: rest => if foldKeyword c == k then keyword? word rest else none

/-- Whether a word cannot go on: at the end, or before a character that is no word character. -/
def wordEnds : List Char → Bool
  | [] => true
  | c :: _ => !isWord c

/-- Whether a word can begin after a character. -/
def wordBegins : Option Char → Bool
  | none => true
  | some c => !isWord c

/-- The text after a keyword at its head that ends there. -/
def wholeWord? (word text : List Char) : Option (List Char) :=
  match keyword? word text with
  | some rest => if wordEnds rest then some rest else none
  | none => none

/-- The text after its leading blanks. -/
def blanks (text : List Char) : List Char :=
  text.dropWhile isBlank

/-- The text after its leading blanks, of which there is at least one. -/
def blanks1? : List Char → Option (List Char)
  | c :: rest => if isBlank c then some (blanks rest) else none
  | [] => none

/-- The text after its leading digits, of which there is at least one. -/
def digits1? : List Char → Option (List Char)
  | c :: rest => if isDigit c then some (rest.dropWhile isDigit) else none
  | [] => none

/-- The text after its leading word characters, of which there is at least one. -/
def word1? : List Char → Option (List Char)
  | c :: rest => if isWord c then some (rest.dropWhile isWord) else none
  | [] => none

/-- The text after a character at its head. -/
def char? (expected : Char) : List Char → Option (List Char)
  | c :: rest => if c == expected then some rest else none
  | [] => none

/-- The stretch between two ends of one text: from where the longer end begins to where the
shorter one begins. -/
def between (text longer shorter : List Char) : Span :=
  ⟨text.length - longer.length, text.length - shorter.length⟩

/-- The match that covers a text up to one of its ends. -/
def upTo (text rest : List Char) (groups : List (Option Span)) : Match :=
  ⟨text.length - rest.length, groups⟩

/-- A placeholder: a question mark, a numbered dollar sign, or a named colon. -/
def placeholder? (text : List Char) : Option (List Char) :=
  match text with
  | '?' :: rest => some rest
  | '$' :: rest => digits1? rest
  | ':' :: rest => word1? rest
  | _ => none

/-- A row count: digits, which may follow a minus, the word ALL, or a placeholder. -/
def rowCount? (text : List Char) : Option (List Char) :=
  match text with
  | '-' :: rest => digits1? rest
  | _ =>
    match digits1? text with
    | some rest => some rest
    | none =>
      match wholeWord? "all".toList text with
      | some rest => some rest
      | none => placeholder? text

/-- A second row count after a comma: digits or a placeholder. -/
def secondCount? (text : List Char) : Option (List Char × List Char) :=
  match char? ',' (blanks text) with
  | some afterComma =>
    let start := blanks afterComma
    match digits1? start with
    | some rest => some (start, rest)
    | none => (placeholder? start).map fun rest => (start, rest)
  | none => none

/-- LIMIT with one or two counts. The groups are the counts. -/
def limitClause : Pattern := fun before text =>
  if wordBegins before then
    match (keyword? "limit".toList text).bind blanks1? with
    | some start =>
      match rowCount? start with
      | some rest =>
        match secondCount? rest with
        | some (second, after) =>
          some (upTo text after [some (between text start rest), some (between text second after)])
        | none => some (upTo text rest [some (between text start rest), none])
      | none => none
    | none => none
  else none

/-- The keyword OFFSET. -/
def offsetKeyword : Pattern := fun before text =>
  if wordBegins before then
    match wholeWord? "offset".toList text with
    | some rest => some (upTo text rest [])
    | none => none
  else none

/-- TOP with a count, which may stand in parentheses. The groups are the opening parenthesis with
the blanks after it, and the count. -/
def topClause : Pattern := fun before text =>
  if wordBegins before then
    match (keyword? "top".toList text).map blanks with
    | some start =>
      match char? '(' start with
      | some opened =>
        let count := blanks opened
        match digits1? count with
        | some rest =>
          match char? ')' (blanks rest) with
          | some after =>
            some (upTo text after [some (between text start count), some (between text count rest)])
          | none => none
        | none => none
      | none =>
        match digits1? start with
        | some rest => some (upTo text rest [none, some (between text start rest)])
        | none => none
    | none => none
  else none

/-- The word ROW or ROWS. -/
def rowsWord? (text : List Char) : Option (List Char) :=
  match wholeWord? "rows".toList text with
  | some rest => some rest
  | none => wholeWord? "row".toList text

/-- The word NEXT or FIRST. -/
def nextOrFirst? (text : List Char) : Option (List Char) :=
  match keyword? "next".toList text with
  | some rest => some rest
  | none => keyword? "first".toList text

/-- FETCH NEXT or FETCH FIRST with a count, which may be missing. The group is the count. -/
def fetchClause : Pattern := fun before text =>
  if wordBegins before then
    match (((keyword? "fetch".toList text).bind blanks1?).bind nextOrFirst?).bind blanks1? with
    | some start =>
      match digits1? start with
      | some rest =>
        match (blanks1? rest).bind rowsWord? with
        | some after => some (upTo text after [some (between text start rest)])
        | none => none
      | none =>
        match rowsWord? start with
        | some after => some (upTo text after [none])
        | none => none
    | none => none
  else none

/-- The words ORDER BY. -/
def orderByClause : Pattern := fun before text =>
  if wordBegins before then
    match ((keyword? "order".toList text).bind blanks1?).bind (wholeWord? "by".toList) with
    | some rest => some (upTo text rest [])
    | none => none
  else none

/-- The word DISTINCT or ALL. -/
def distinctOrAll? (text : List Char) : Option (List Char) :=
  match wholeWord? "distinct".toList text with
  | some rest => some rest
  | none => wholeWord? "all".toList text

/-- SELECT with an optional DISTINCT or ALL. -/
def selectHead : Pattern := fun before text =>
  if wordBegins before then
    match keyword? "select".toList text with
    | some rest =>
      match (blanks1? rest).bind distinctOrAll? with
      | some after => some (upTo text after [])
      | none => some (upTo text rest [])
    | none => none
  else none

/-- The words that begin a statement which is passed through. -/
def passthroughWords : List (List Char) :=
  ["show".toList, "describe".toList, "desc".toList, "explain".toList]

/-- A passed-through statement, which only matches at the start of a text. The group is its first
word. -/
def passthrough : Pattern := fun before text =>
  match before with
  | some _ => none
  | none =>
    let start := blanks text
    match passthroughWords.findSome? fun word => wholeWord? word start with
    | some rest => some (upTo text rest [some (between text start rest)])
    | none => none

end QueryDesk.Sql
