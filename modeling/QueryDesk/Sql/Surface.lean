/-
Module: QueryDesk.Sql.Surface
Purpose: What is done with SQL text without reading its tokens. The gate lets only reads through: an allow-list
  on the leading keyword of the text, the one hard boundary, which does not parse. A line and a column are
  brought to an offset. Identifiers are quoted, with each delimiter inside written twice.
Imports: QueryDesk.Error, QueryDesk.Text.Case
Main exports: readKeywords, isRead, ensureRead, lineStart, offsetOf?, doubleChar, quoteWith, quoteMysql,
  quoteSqlite
-/
import QueryDesk.Error
import QueryDesk.Text.Case

namespace QueryDesk.Sql

open QueryDesk.Text

/-- The keywords that a read begins with. -/
def readKeywords : List (List Char) :=
  ["SELECT".toList, "WITH".toList, "EXPLAIN".toList, "SHOW".toList, "DESCRIBE".toList]

/-- Whether the text, without the blanks around it and in upper case, begins with a keyword of a
read. -/
def isRead (text : List Char) : Bool :=
  readKeywords.any fun word => word.isPrefixOf (upper (trim text))

/-- Refuses what does not read. -/
def ensureRead (text : List Char) : Except DeskError Unit :=
  if isRead text then .ok () else .error .readsOnly

/-- The offset at which a line begins, counted from line zero. -/
def lineStart (lines : List (List Char)) (line : Nat) : Nat :=
  (lines.take line).foldr (fun text total => text.length + 1 + total) 0

/-- The offset of a line and a column, both counted from one. It is absent when there is no such line or
the column is not positive, and a column beyond the end of the text stands for the end. -/
def offsetOf? (text : List Char) (line column : Int) : Option Nat :=
  let lines := splitAtChar '\n' text
  if line < 1 || column < 1 || (lines.length : Int) < line then none
  else some (min (lineStart lines (line - 1).toNat + (column - 1).toNat) text.length)

/-- The text with every occurrence of a character written twice. -/
def doubleChar (delimiter : Char) (text : List Char) : List Char :=
  text.flatMap fun c => if c == delimiter then [c, c] else [c]

/-- The text between delimiters. -/
def quoteWith (delimiter : Char) (text : List Char) : List Char :=
  delimiter :: (doubleChar delimiter text ++ [delimiter])

/-- A name between backticks. -/
def quoteMysql (name : String) : String :=
  String.ofList (quoteWith '\x60' name.toList)

/-- A name between double quotes. -/
def quoteSqlite (name : String) : String :=
  String.ofList (quoteWith '\x22' name.toList)

end QueryDesk.Sql
