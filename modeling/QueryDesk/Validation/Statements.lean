/-
Module: QueryDesk.Validation.Statements
Purpose: Checks on parsed statements: what read-only mode forbids, which WITH queries change rows,
  the formatted text, and the tables and columns that occur.
Imports: QueryDesk.Grammar.Refusal, QueryDesk.Sql.Parameter, QueryDesk.Sql.Surface,
  QueryDesk.Validation.Report
Main exports: statementsOf, forbidden?, changesRowsInWith, validate, format, tablesOf, columnsOf
-/
import QueryDesk.Grammar.Refusal
import QueryDesk.Sql.Parameter
import QueryDesk.Sql.Surface
import QueryDesk.Validation.Report

namespace QueryDesk.Validation

open QueryDesk.Text QueryDesk.Grammar QueryDesk.Sql

/-- The statements that a parser found. Those that hold nothing are dropped. -/
def statementsOf (parsed : Parsed) : Except ParserFault (List Tree) :=
  parsed.map fun statements => statements.filterMap id

/-- The names that WITH binds in a statement. -/
def boundNames (statement : Tree) : List String :=
  (statement.ofKind .cte).map fun cte =>
    if cte.info.aliasName == "" then cte.info.name else cte.info.aliasName

/-- The bodies of the WITH queries of a statement. -/
def withBodies (statement : Tree) : List Tree :=
  (statement.ofKind .cte).filterMap fun cte => cte.children.head?

/-- The end of the words of every read-only error. -/
def readOnlyNote : String := "(read-only queries only)"

/-- The words of the first WITH query of a statement that changes rows. -/
def forbiddenBody? (statement : Tree) : Option String :=
  ((withBodies statement).find? fun body => body.kind.changesRows).map fun body =>
    s!"CTE contains forbidden statement type '{body.kind.name}' " ++ readOnlyNote

/-- The words about a statement whose type is forbidden. -/
def forbiddenType (name : String) : String :=
  s!"Statement type '{name}' is not allowed " ++ readOnlyNote

/-- Why read-only mode forbids a statement. A command is judged by its written form, so a command
that cannot be written is a failure. -/
def forbiddenStatement? (statement : Tree) : Except Failure (Option String) :=
  if statement.kind.changesAnything then .ok (some (forbiddenType statement.kind.name))
  else if statement.kind == .command then
    match statement.info.written with
    | none => .error ⟨.unsupported, []⟩
    | some text =>
      if isRead text.toList then .ok (forbiddenBody? statement)
      else
        let name := statement.info.name
        .ok (some (forbiddenType (if name == "" then statement.kind.name else name)))
  else .ok (forbiddenBody? statement)

/-- Why read-only mode forbids the first forbidden statement. -/
def forbidden? : List Tree → Except Failure (Option String)
  | [] => .ok none
  | statement :: rest => do
    match ← forbiddenStatement? statement with
    | some reason => return some reason
    | none => forbidden? rest

/-- Whether a statement changes rows inside a WITH query, or changes rows itself under one. -/
def changesRowsInWith (statement : Tree) : Bool :=
  (statement.kind.changesRows && statement.info.opensWith) ||
    (withBodies statement).any fun body => body.kind.changesRows

/-- The warning about a WITH query that changes rows. -/
def writableWithWarning : SqlWarning :=
  { message := "Data-modifying statement inside a WITH query - it passes the read-only gate but " ++
      "changes data on engines with writable CTEs"
    type := .security }

/-- What stands between formatted statements. -/
def statementSeparator : String := ";\n\n"

/-- The formatted text of statements, if every one of them can be written. -/
def formatted? (statements : List Tree) : Option String :=
  (statements.mapM fun (statement : Tree) => statement.info.written).map fun written =>
    String.intercalate statementSeparator written

/-- The offset of a place in a text, if both its line and its column are known. -/
def offsetAt? (sql : String) (line column : Option Int) : Option Int :=
  match line, column with
  | some line, some column => (offsetOf? sql.toList line column).map Int.ofNat
  | _, _ => none

/-- The report on a text that its parser refuses: one error, with its place if there is one. -/
def refusedReport (sql : String) (refusal : Refusal) : Except Failure ValidationReport := do
  let line ← refusal.lineOf
  let column ← refusal.columnOf
  return {
    isValid := false
    errors :=
      [{ message := refusal.message
         line := line
         column := column
         offset := offsetAt? sql line column }] }

/-- The report on statements. -/
def reportOn (dialect : Dialect) (readOnly : Bool) (sql : String) (statements : List Tree) :
    Except Failure ValidationReport := do
  let reason ← if readOnly then forbidden? statements else .ok none
  let text := sql.toList
  let writable := if statements.any changesRowsInWith then [writableWithWarning] else []
  return {
    isValid := reason.isNone
    errors := reason.toList.map fun message => { message := message }
    warnings := scanSecurity text ++ writable ++ scanPerformance text
    syntaxTrees := some statements
    formatted := formatted? statements
    parameters := (parameterNames ((Lexis.ofDialect dialect).mask text)).map String.ofList
    statementCount := statements.length }

/-- The report on a text, with what its parser answered. Only a failure of the parser itself, of
reading its words, or of writing a statement, fails. -/
def validate (dialect : Dialect) (readOnly : Bool) (sql : String) (parsed : Parsed) :
    Except Failure ValidationReport :=
  if isBlankText sql.toList then .ok (.ofMessage "SQL query cannot be empty")
  else
    match statementsOf parsed with
    | .ok [] => .ok (.ofMessage "No valid SQL statement found")
    | .ok statements => reportOn dialect readOnly sql statements
    | .error (.refused refusal) => refusedReport sql refusal
    | .error (.broken failure) => .error failure

/-- A text in its formatted form, or as it is where it cannot be parsed or written. A refusal is described
before it is dropped, so one that cannot be described is a failure. -/
def format (sql : String) (parsed : Parsed) : Except Failure String :=
  match statementsOf parsed with
  | .ok statements =>
    .ok (match formatted? statements with
      | some text => if text == "" then sql else text
      | none => sql)
  | .error (.refused refusal) => (refusedReport sql refusal).map fun _ => sql
  | .error (.broken failure) => .error failure

/-- The statements that a parser found, none where it found fault. -/
def foundStatements (parsed : Parsed) : List Tree :=
  match statementsOf parsed with
  | .ok statements => statements
  | .error _ => []

/-- The names of the tables of a statement that no WITH query binds. -/
def statementTables (statement : Tree) : List String :=
  let bound := boundNames statement
  ((statement.ofKind .table).map fun table => table.info.name).filter fun name =>
    name != "" && !bound.contains name

/-- The names of the columns of a statement. -/
def statementColumns (statement : Tree) : List String :=
  ((statement.ofKind .column).map fun column => column.info.name).filter fun name =>
    name != "" && name != "*"

/-- The names of the tables that occur, each once, in the order of discovery. -/
def tablesOf (parsed : Parsed) : List String :=
  distinct ((foundStatements parsed).flatMap statementTables)

/-- The names of the columns that occur, each once, in the order of discovery. -/
def columnsOf (parsed : Parsed) : List String :=
  distinct ((foundStatements parsed).flatMap statementColumns)

end QueryDesk.Validation
