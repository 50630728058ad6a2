/-
Module: QueryDesk.Grammar.Refusal
Purpose: What a parser answers: statements, or a refusal in its own words. A refusal is described by
  its first line without terminal colors, and by a line and a column, which the parser points at or
  names in its words. A number in its words that is too long is a failure.
Imports: QueryDesk.Connection.Failure, QueryDesk.Grammar.Tree, QueryDesk.Sql.Clause
Main exports: RefusalKind, Refusal, ParserFault, Parsed, Refusal.message, Refusal.lineOf,
  Refusal.columnOf
-/
import QueryDesk.Connection.Failure
import QueryDesk.Grammar.Tree
import QueryDesk.Sql.Clause

namespace QueryDesk.Grammar

open QueryDesk.Text QueryDesk.Number QueryDesk.Sql

/-- What a parser objects to: the grammar, the tokens, something that it does not support, or
anything else. -/
inductive RefusalKind where
  | parse
  | token
  | unsupported
  | general
deriving Repr, Inhabited, DecidableEq

/-- The name that a refusal goes by when it has no words. -/
def RefusalKind.name : RefusalKind → String
  | .parse => "ParseError"
  | .token => "TokenError"
  | .unsupported => "UnsupportedError"
  | .general => "SqlglotError"

/-- A parser refuses a text: the kind of the refusal, its words, and the first place that it points
at. -/
structure Refusal where
  kind : RefusalKind
  text : String
  line : Option Int := none
  column : Option Int := none
deriving Repr, Inhabited, DecidableEq

/-- Why there are no statements: the parser refuses the text, or it fails itself. -/
inductive ParserFault where
  | refused (refusal : Refusal)
  | broken (failure : Failure)
deriving Repr, Inhabited

/-- What a parser answers. A statement that holds nothing is absent. -/
abbrev Parsed := Except ParserFault (List (Option Tree))

/-- The length of the color escape at the head of a text. -/
def colorEscape? : List Char → Option Nat
  | '\x1b' :: '[' :: rest =>
    let codes := rest.takeWhile fun c => isAsciiDigit c || c == ';'
    match rest.drop codes.length with
    | 'm' :: _ => some (codes.length + 3)
    | _ => none
  | _ => none

/-- A text without color escapes, past some characters of the escape that it is in. -/
def dropColorsAfter : Nat → List Char → List Char
  | _, [] => []
  | skip + 1, _ :: rest => dropColorsAfter skip rest
  | 0, c :: rest =>
    match colorEscape? (c :: rest) with
    | some length => dropColorsAfter (length - 1) rest
    | none => c :: dropColorsAfter 0 rest

/-- A text without color escapes. -/
def dropColors (text : List Char) : List Char :=
  dropColorsAfter 0 text

/-- The numeral behind a word at the head of a text, with a colon or without. -/
def labelledNumeral? (text : List Char) (word : String) : Option (List Char) :=
  (keyword? word.toList text).bind fun afterWord =>
    let afterBlanks := blanks afterWord
    let numeral := (blanks ((char? ':' afterBlanks).getD afterBlanks)).takeWhile isDigit
    if numeral.isEmpty then none else some numeral

/-- The first numeral that is labelled with one of several words, in a text after a character. -/
def numeralBehind (words : List String) (before : Option Char) : List Char → Option (List Char)
  | [] => none
  | c :: rest =>
    match if wordBegins before then words.findSome? (labelledNumeral? (c :: rest)) else none with
    | some found => some found
    | none => numeralBehind words (some c) rest

/-- The number that a numeral of decimal digits stands for. A numeral of too many digits is not
read. -/
def readNumeral (numeral : List Char) : Except Failure Int :=
  if numeralLimit < numeral.length then .error (.longNumeral numeral.length)
  else .ok ((digitsValue? numeral).getD 0)

namespace Refusal

/-- The words of a refusal without colors and the blanks around them. -/
def plainText (refusal : Refusal) : List Char :=
  trim (dropColors refusal.text.toList)

/-- The first line of a refusal, or its name if it has no words. -/
def message (refusal : Refusal) : String :=
  match trim (firstLine refusal.plainText) with
  | [] => refusal.kind.name
  | line => String.ofList line

/-- The numeral in the words of a refusal that stands for something that it does not point at. -/
def numeral? (refusal : Refusal) (words : List String) (pointed : Option Int) : Option (List Char) :=
  match pointed with
  | some _ => none
  | none => numeralBehind words none refusal.plainText

/-- Where a refusal points, or the number that its words give instead. -/
def coordinate (refusal : Refusal) (words : List String) (pointed : Option Int) :
    Except Failure (Option Int) :=
  match refusal.numeral? words pointed with
  | some numeral => (readNumeral numeral).map some
  | none => .ok pointed

/-- The line of a refusal. -/
def lineOf (refusal : Refusal) : Except Failure (Option Int) :=
  refusal.coordinate ["line"] refusal.line

/-- The column of a refusal. -/
def columnOf (refusal : Refusal) : Except Failure (Option Int) :=
  refusal.coordinate ["column", "col"] refusal.column

end Refusal

end QueryDesk.Grammar
