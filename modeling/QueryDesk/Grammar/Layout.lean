/-
Module: QueryDesk.Grammar.Layout
Purpose: How phrases are written: keywords and functions in upper case, a clause on a line of its own,
  lists of items one below the other and indented, and brackets around indented lines.
Imports: QueryDesk.Grammar.Phrase, QueryDesk.Grammar.Token, QueryDesk.Sql.Dialect, QueryDesk.Text.Case
Main exports: Layout, Phrase.layout
-/
import QueryDesk.Grammar.Phrase
import QueryDesk.Grammar.Token
import QueryDesk.Sql.Dialect
import QueryDesk.Text.Case

namespace QueryDesk.Grammar

open QueryDesk.Text

/-- Lines of text, from top to bottom. -/
abbrev Layout := List (List Char)

namespace Layout

/-- One line. -/
def line (text : String) : Layout := [text.toList]

/-- A layout that goes on in the last line of another one. -/
def beside : Layout → Layout → Layout
  | [], right => right
  | [last], [] => [last]
  | [last], first :: right => (last ++ first) :: right
  | top :: left, right => top :: beside left right

/-- Every line two columns further in. -/
def indented (layout : Layout) : Layout :=
  layout.map fun text => ' ' :: ' ' :: text

/-- Indented lines in brackets. -/
def bracketed (layout : Layout) : Layout :=
  line "(" ++ indented layout ++ line ")"

/-- Items on one line, parted by commas. -/
def commaInline : List Layout → Layout
  | [] => []
  | [item] => item
  | item :: rest => beside (beside item (line ", ")) (commaInline rest)

/-- Items one below the other, with commas at the ends of lines. -/
def commaLines : List Layout → Layout
  | [] => []
  | [item] => item
  | item :: rest => beside item (line ",") ++ commaLines rest

/-- Layouts in a row. -/
def row (layouts : List Layout) : Layout :=
  layouts.foldl beside []

/-- Items on one line in brackets. -/
def tuple (items : List Layout) : Layout :=
  row [line "(", commaInline items, line ")"]

/-- A layout behind a minus sign. A blank parts it from another one, for two begin a comment. -/
def signed (layout : Layout) : Layout :=
  let doubled := (layout.head?.bind List.head?) == some '-'
  beside (line (if doubled then "- " else "-")) layout

/-- A heading over indented lines. -/
def under (heading : String) (body : Layout) : Layout :=
  line heading ++ indented body

/-- The text of a layout. -/
def text (layout : Layout) : String :=
  String.ofList (List.intercalate ['\n'] layout)

end Layout

/-- A text with a quote before and after it, and quotes inside of it doubled. -/
def inQuotes (opening closing : Char) (text : String) : String :=
  let inside := text.toList.flatMap fun c => if c == closing then [c, c] else [c]
  String.ofList (opening :: inside ++ [closing])

/-- How a character is written in a string: a quote twice, and in MySQL some characters behind a
backslash. -/
def writtenChar (dialect : Dialect) (c : Char) : List Char :=
  match dialect, escapedChars.find? fun escape => escape.2 == c with
  | .mysql, some (letter, _) => ['\\', letter]
  | _, _ => if c == '\x27' then [c, c] else [c]

/-- How a string is written in a dialect. -/
def stringText (dialect : Dialect) (content : String) : String :=
  String.ofList ('\x27' :: content.toList.flatMap (writtenChar dialect) ++ ['\x27'])

/-- How a name is written in a dialect. -/
def Name.written (dialect : Dialect) (name : Name) : String :=
  if name.quoted then
    match dialect with
    | .mysql => inQuotes '\x60' '\x60' name.text
    | .sqlserver => inQuotes '[' ']' name.text
    | _ => inQuotes '\x22' '\x22' name.text
  else name.text

/-- How a named parameter is written in a dialect. -/
def parameterText (dialect : Dialect) (name : String) : String :=
  match dialect with
  | .postgres => "%(" ++ name ++ ")s"
  | _ => ":" ++ name

/-- A name behind its qualifier. -/
def qualified (dialect : Dialect) (qualifier : Option Name) (name : String) : String :=
  match qualifier with
  | some found => found.written dialect ++ "." ++ name
  | none => name

/-- A layout with an alias behind it. -/
def withAlias (dialect : Dialect) (layout : Layout) (aliasName : Option Name) : Layout :=
  match aliasName with
  | some name => layout.beside (Layout.line (" AS " ++ name.written dialect))
  | none => layout

/-- The words of an optional keyword, with a blank behind them. -/
def optionalWord : Option String → String
  | some word => word ++ " "
  | none => ""

/-- The lines of parts one below the other. -/
def stacked (parts : List (Label × Layout)) : Layout :=
  parts.flatMap Prod.snd

/-- The lines of clauses, each kind of clause at its place. -/
def inPlace (clauses : List (Label × Layout)) : Layout :=
  stacked ((List.range 10).flatMap fun place =>
    clauses.filter fun clause => clause.1.clausePlace == some place)

namespace Layout

/-- A heading with items beside it, over clauses. -/
def besideItems (heading : String) (parts : List (Label × Layout)) : Layout :=
  let items := parts.takeWhile fun part => !part.1.isClause
  let clauses := parts.drop items.length
  (line heading).beside (commaInline (items.map Prod.snd)) ++ inPlace clauses

/-- A heading with items below it, over clauses. -/
def overItems (heading : Layout) (parts : List (Label × Layout)) : Layout :=
  let items := parts.takeWhile fun part => !part.1.isClause
  let clauses := parts.drop items.length
  heading ++ indented (commaLines (items.map Prod.snd)) ++ inPlace clauses

end Layout

/-- How the parts of a DELETE are arranged. SQL Server writes what it returns first. -/
def Label.arrangeDelete (dialect : Dialect) (parts : List (Label × Layout)) : Layout :=
  let (returned, others) := parts.partition fun part => part.1 == .returning
  match dialect, returned with
  | .sqlserver, _ :: _ =>
    Layout.line "DELETE" ++ (stacked returned).beside (Layout.besideItems " FROM " others)
  | _, _ => Layout.besideItems "DELETE FROM " parts

/-- How a label arranges the layouts of its parts, a WITH clause apart. -/
def Label.arrange (dialect : Dialect) (label : Label) (parts : List (Label × Layout)) : Layout :=
  let layouts := parts.map Prod.snd
  match label, layouts with
  | .integer digits, _ => Layout.line digits
  | .text content, _ => Layout.line (stringText dialect content)
  | .null, _ => Layout.line "NULL"
  | .truth true, _ => Layout.line "TRUE"
  | .truth false, _ => Layout.line "FALSE"
  | .parameter name, _ => Layout.line (parameterText dialect name)
  | .star, _ => Layout.line "*"
  | .starOf owner, _ => Layout.line (qualified dialect (some owner) "*")
  | .column owner name, _ => Layout.line (qualified dialect owner (name.written dialect))
  | .call function, _ => (Layout.line (upperString function)).beside (Layout.tuple layouts)
  | .enclosed, _ => Layout.bracketed layouts.flatten
  | .negation, _ => Layout.row (Layout.line "NOT " :: layouts)
  | .negative, _ => Layout.signed layouts.flatten
  | .operation operator, [left, right] =>
    Layout.row [left, Layout.line s!" {operator.text} ", right]
  | .among, left :: choices => Layout.row [left, Layout.line " IN ", Layout.tuple choices]
  | .within, [left, query] => Layout.row [left, Layout.line " IN ", query]
  | .between, [value, low, high] =>
    Layout.row [value, Layout.line " BETWEEN ", low, Layout.line " AND ", high]
  | .renamed aliasName, _ => withAlias dialect layouts.flatten (some aliasName)
  | .subquery aliasName, _ => withAlias dialect (Layout.bracketed layouts.flatten) aliasName
  | .table schema name aliasName, _ =>
    withAlias dialect (Layout.line (qualified dialect schema (name.written dialect))) aliasName
  | .tableColumns names, _ =>
    let columns := names.map fun name => Layout.line (name.written dialect)
    Layout.row [layouts.flatten, Layout.line " ", Layout.bracketed (Layout.commaLines columns)]
  | .values, _ => Layout.under "VALUES" (Layout.commaLines layouts)
  | .row, _ => Layout.tuple layouts
  | .select distinct top, _ =>
    let heading := Layout.line (if distinct then "SELECT DISTINCT" else "SELECT")
    let topLine := (top.map fun count => "TOP ".toList ++ count.toList).toList
    Layout.overItems (heading ++ topLine) parts
  | .union all, left :: right :: _ =>
    left ++ Layout.line (if all then "UNION ALL" else "UNION") ++ right ++ inPlace (parts.drop 2)
  | .insert, target :: rows => (Layout.line "INSERT INTO ").beside target ++ rows.flatten
  | .update, target :: _ =>
    (Layout.row [Layout.line "UPDATE ", target]).beside
      (Layout.besideItems " SET " (parts.drop 1))
  | .delete, _ => Label.arrangeDelete dialect parts
  | .drop relation ifExists, _ =>
    (Layout.line (s!"DROP {relation} " ++ if ifExists then "IF EXISTS " else "")).beside
      layouts.flatten
  | .describe, _ => (Layout.line "DESCRIBE ").beside layouts.flatten
  | .commit, _ => Layout.line (if dialect == .sqlserver then "COMMIT TRANSACTION" else "COMMIT")
  | .command name, _ => Layout.line name
  | .source, _ => (Layout.line "FROM ").beside layouts.flatten
  | .join side, joined :: conditions =>
    (Layout.line (optionalWord side ++ "JOIN ")).beside joined ++
      Layout.indented ((Layout.line "ON ").beside conditions.flatten)
  | .condition, _ => Layout.under "WHERE" layouts.flatten
  | .grouping, _ => Layout.under "GROUP BY" (Layout.commaLines layouts)
  | .having, _ => Layout.under "HAVING" layouts.flatten
  | .ordering, _ => Layout.under "ORDER BY" (Layout.commaLines layouts)
  | .ordered direction, _ =>
    Layout.beside layouts.flatten (Layout.line ((direction.map (" " ++ ·)).getD ""))
  | .limit, _ => (Layout.line "LIMIT ").beside layouts.flatten
  | .offset, _ =>
    let counted := (Layout.line "OFFSET ").beside layouts.flatten
    if dialect == .sqlserver then counted.beside (Layout.line " ROWS") else counted
  | .fetch, _ => Layout.row (Layout.line "FETCH FIRST " :: layouts ++ [Layout.line " ROWS ONLY"])
  | .returning, _ =>
    (Layout.line (if dialect == .sqlserver then "OUTPUT " else "RETURNING ")).beside
      (Layout.commaInline layouts)
  | .definitions, _ => (Layout.line "WITH ").beside (Layout.commaInline layouts)
  | .definition name, _ =>
    (Layout.line (name.written dialect ++ " AS ")).beside (Layout.bracketed layouts.flatten)
  | _, _ => layouts.flatten

/-- How a label arranges the layouts of all its parts: a WITH clause is written first. -/
def Label.arrangeAll (dialect : Dialect) (label : Label) (parts : List (Label × Layout)) :
    Layout :=
  let (first, others) := parts.partition fun part => part.1 == .definitions
  stacked first ++ label.arrange dialect others

namespace Phrase

mutual

/-- The lines of a phrase. -/
def layout (dialect : Dialect) : Phrase → Layout
  | .node label parts => label.arrangeAll dialect (layouts dialect parts)

/-- The lines of several phrases, each with its label. -/
def layouts (dialect : Dialect) : List Phrase → List (Label × Layout)
  | [] => []
  | .node label parts :: rest =>
    (label, label.arrangeAll dialect (layouts dialect parts)) :: layouts dialect rest

end

end Phrase

end QueryDesk.Grammar
