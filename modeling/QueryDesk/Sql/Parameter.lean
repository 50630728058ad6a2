/-
Module: QueryDesk.Sql.Parameter
Purpose: Parameters in SQL text: the named ones that a masked text mentions, and neutral
  question marks spelled in the style of a driver.
Imports: QueryDesk.Sql.Clause
Main exports: namedParameter, parameterNames, ParamStyle, spellPlaceholders
-/
import QueryDesk.Sql.Clause

namespace QueryDesk.Sql

open QueryDesk.Text

/-- A colon with a name, where no colon and no word character stands before it. The group is the
name. -/
def namedParameter : Pattern := fun before text =>
  match text with
  | ':' :: rest =>
    let free := match before with
      | none => true
      | some c => !(c == ':' || isWord c)
    if free && rest.head?.any isNameStart then
      some (upTo text (rest.dropWhile isNameChar)
        [some (between text rest (rest.dropWhile isNameChar))])
    else none
  | _ => none

/-- A list without its repetitions, each element at its first place. -/
def distinct {α : Type} [BEq α] (items : List α) : List α :=
  items.foldl (fun seen item => if seen.contains item then seen else seen ++ [item]) []

/-- The names of the parameters of a masked text, in the order in which they first appear. -/
def parameterNames (masked : List Char) : List (List Char) :=
  distinct ((hits namedParameter masked).filterMap fun hit =>
    (hit.group? 0).map fun span => span.slice masked)

/-- How a driver writes parameters: as question marks, as format conversions, or as numbered dollar
signs. The numbered style goes by several names. -/
inductive ParamStyle where
  | questionMark
  | format
  | numbered (name : String)
deriving Repr, Inhabited, DecidableEq

/-- The style with a name. -/
def ParamStyle.ofName (name : String) : ParamStyle :=
  if name == "qmark" then .questionMark
  else if name == "format" then .format
  else .numbered name

/-- The name of a style. -/
def ParamStyle.name : ParamStyle → String
  | .questionMark => "qmark"
  | .format => "format"
  | .numbered name => name

/-- The text with its live question marks replaced, given its mask and the count of the question
marks before it. A driver that interpolates takes each percent sign for a conversion, so these are
doubled wherever they stand. -/
def spellFrom (style : ParamStyle) (count : Nat) : List Char → List Char → List Char
  | c :: text, m :: masked =>
    if style = .format && c == '%' then '%' :: '%' :: spellFrom style count text masked
    else if c == '?' && m == '?' then
      let replacement :=
        if style = .format then ['%', 's'] else '$' :: (toString (count + 1)).toList
      replacement ++ spellFrom style (count + 1) text masked
    else c :: spellFrom style count text masked
  | _, _ => []

/-- The text with its neutral placeholders in the style of a driver. Question marks in literals and
comments are left alone. -/
def spellPlaceholders (style : ParamStyle) (text : List Char) : List Char :=
  if style = .questionMark then text
  else spellFrom style 0 text (Lexis.mask {} text)

end QueryDesk.Sql
