/-
Module: QueryDesk.CommandLine.Program
Purpose: The commands of the program: checking, formatting and paging of SQL text, and the
  introspection of a SQLite database. What a command prints is a function of its arguments, the
  environment, the input, and the answers of the parser and of the database.
Imports: QueryDesk.Catalog.Document, QueryDesk.Catalog.Introspection, QueryDesk.CommandLine.Help,
  QueryDesk.Connection.Adapter, QueryDesk.Page.Document, QueryDesk.Page.Paging,
  QueryDesk.Service.Settings, QueryDesk.Validation.Statements, QueryDesk.Value.Json
Main exports: Invocation, Session, Surroundings, run
-/
import QueryDesk.Catalog.Document
import QueryDesk.Catalog.Introspection
import QueryDesk.CommandLine.Help
import QueryDesk.Connection.Adapter
import QueryDesk.Page.Document
import QueryDesk.Page.Paging
import QueryDesk.Service.Settings
import QueryDesk.Validation.Statements
import QueryDesk.Value.Json

namespace QueryDesk.CommandLine

open QueryDesk.Number QueryDesk.Sql QueryDesk.Catalog QueryDesk.Grammar QueryDesk.Validation

/-- The name that the program goes by. -/
def programName : String := "sqlscope"

/-- What the program does, in a line. -/
def programDescription : String :=
  "SQL validation, pagination rewriting and schema introspection"

/-- The option for the client type. -/
def clientTypeOption : OptionSpec := ⟨["--client-type", "-t"], .takes .text, ""⟩

/-- The option for read-only mode. -/
def readOnlyOption : OptionSpec :=
  ⟨["--read-only"], .switch, "Reject statements that are not reads"⟩

/-- The option for the size of a page. -/
def limitOption : OptionSpec := ⟨["--limit"], .takes .whole, ""⟩

/-- The option for the rows before a page. -/
def offsetOption : OptionSpec := ⟨["--offset"], .takes .whole, ""⟩

/-- The option for the seconds that an introspection may take. -/
def budgetOption : OptionSpec := ⟨["--budget"], .takes .number, "Seconds"⟩

/-- The option for the count of workers. -/
def concurrencyOption : OptionSpec := ⟨["--concurrency"], .takes .whole, ""⟩

/-- A command on SQL text. -/
def sqlCommand (name help : String) (options : List OptionSpec) : CommandSpec :=
  ⟨name, help, "sql", "SQL text, or \"-\" to read stdin", clientTypeOption :: options⟩

/-- The command that checks a text. -/
def validateCommand : CommandSpec :=
  sqlCommand "validate" "Validate SQL" [readOnlyOption]

/-- The command that formats a text. -/
def formatCommand : CommandSpec :=
  sqlCommand "format" "Pretty-print SQL" []

/-- The command that bounds a text to a page. -/
def pageCommand : CommandSpec :=
  sqlCommand "rewrite" "Apply server-side pagination" [limitOption, offsetOption]

/-- The command that introspects a database. -/
def introspectCommand : CommandSpec :=
  ⟨"introspect-sqlite", "Introspect a SQLite database file", "path", "Database file path",
    [budgetOption, concurrencyOption]⟩

/-- All commands. -/
def commands : List CommandSpec :=
  [validateCommand, formatCommand, pageCommand, introspectCommand]

namespace CommandReading

/-- The text of an option. -/
def text? (reading : CommandReading) (spec : OptionSpec) : Option String :=
  match reading.value? (spec.names.headD "") with
  | some (.text value) => some value
  | _ => none

/-- The integer of an option. -/
def whole? (reading : CommandReading) (spec : OptionSpec) : Option Int :=
  match reading.value? (spec.names.headD "") with
  | some (.whole value) => some value
  | _ => none

/-- The number of an option. -/
def number? (reading : CommandReading) (spec : OptionSpec) : Option Binary64 :=
  match reading.value? (spec.names.headD "") with
  | some (.number value) => some value
  | _ => none

/-- Whether a switch is on. -/
def isOn (reading : CommandReading) (spec : OptionSpec) : Bool :=
  (reading.value? (spec.names.headD "")).isSome

/-- The dialect of a command. -/
def dialect (reading : CommandReading) : Dialect :=
  Dialect.resolve (some ((reading.text? clientTypeOption).getD defaultClientType))

end CommandReading

/-- How the program is started. -/
structure Invocation where
  arguments : List String
  environment : List (String × String) := []
  envFile : Option String := none
  input : String := ""
deriving Repr, Inhabited

/-- What the program works with: a parser, databases by their paths, and the time that log lines
show. -/
structure Surroundings where
  parser : Dialect → String → Parsed
  database : String → String → List Value → CursorAnswers
  stamp : String

/-- What the program leaves: its exit code, its output, the databases that it opened, and what
reached their driver. -/
structure Session where
  exitCode : Nat
  output : String := ""
  opened : List String := []
  sent : List DriverEvent := []
deriving Repr

/-- A session that prints a document. -/
def Session.ofDocument (document : Value) (exitCode : Nat := 0) : Session :=
  { exitCode := exitCode, output := document.indentedJson ++ "\n" }

/-- The SQL text that a command is given. A dash stands for the input. -/
def sqlText (invocation : Invocation) (reading : CommandReading) : String :=
  match reading.positional with
  | some "-" => invocation.input
  | some text => text
  | none => ""

/-- The session of a check. Its exit code tells whether the text is valid. -/
def runValidate (around : Surroundings) (invocation : Invocation) (reading : CommandReading) :
    Except Fault Session :=
  let sql := sqlText invocation reading
  match validate reading.dialect (reading.isOn readOnlyOption) sql
      (around.parser reading.dialect sql) with
  | .error failure => .error (.failed failure)
  | .ok report => .ok (.ofDocument (report.write .external) (if report.isValid then 0 else 1))

/-- The session of a formatting. -/
def runFormat (around : Surroundings) (invocation : Invocation) (reading : CommandReading) :
    Except Fault Session :=
  let sql := sqlText invocation reading
  match format sql (around.parser reading.dialect sql) with
  | .error failure => .error (.failed failure)
  | .ok text => .ok { exitCode := 0, output := text ++ "\n" }

/-- The session of a paging. -/
def runPage (settings : Settings) (invocation : Invocation) (reading : CommandReading) :
    Except Fault Session :=
  let offset := (reading.whole? offsetOption).getD 0
  match boundQuery reading.dialect settings.policy (reading.whole? limitOption) (some offset)
      (sqlText invocation reading) with
  | .error failure => .error (.failed failure)
  | .ok paged => .ok (.ofDocument (paged.write .external))

/-- A database as a connection that is never late. -/
def databaseConnection (answers : String → List Value → CursorAnswers) : Catalog.Connection :=
  fun _ call =>
    let (_, _, outcome) := (Adapter.blocking .questionMark).execute answers call
    { answer := outcome.map RawResult.toValue }

/-- What reaches the driver of a database with a call. -/
def driverEvents (answers : String → List Value → CursorAnswers) (call : Call) :
    List DriverEvent :=
  ((Adapter.blocking .questionMark).execute answers call).2.1

/-- The bounds of an introspection. A bound of zero is the same as none. -/
def boundsOf (settings : Settings) (reading : CommandReading) : IntrospectionBounds :=
  let budget := (reading.number? budgetOption).filter fun seconds => !seconds.isZero
  let concurrency := (reading.whole? concurrencyOption).filter fun count => count != 0
  ⟨budget.getD settings.introspectionBudget,
    concurrency.getD settings.introspectionConcurrency⟩

/-- The session of an introspection. -/
def runIntrospect (around : Surroundings) (settings : Settings) (reading : CommandReading) :
    Except Fault Session :=
  let path := reading.positional.getD ""
  let answers := around.database path
  let bounds := boundsOf settings reading
  match introspect .sqlite (databaseConnection answers) bounds.budget bounds.concurrency with
  | .error failure => .error (.failed failure)
  | .ok found =>
    .ok
      { Session.ofDocument ((found.report around.stamp).write .external) with
        opened := [path]
        sent := (sentCalls found.progress.happened).flatMap (driverEvents answers) ++
          Adapter.close }

/-- The session of a command. -/
def runCommand (around : Surroundings) (settings : Settings) (invocation : Invocation)
    (command : CommandSpec) (reading : CommandReading) : Except Fault Session :=
  if command == validateCommand then runValidate around invocation reading
  else if command == formatCommand then runFormat around invocation reading
  else if command == pageCommand then runPage settings invocation reading
  else runIntrospect around settings reading

/-- The settings of an invocation. -/
def settingsOf (invocation : Invocation) : Except Fault Settings :=
  match Settings.ofVariables invocation.environment invocation.envFile with
  | .valid settings => .ok settings
  | .invalid issues => .error (.malformed issues)

/-- The session of an invocation. Help and misuse come before the settings are looked at. -/
def run (around : Surroundings) (invocation : Invocation) : Except Fault Session :=
  match readArguments commands invocation.arguments with
  | .misuse => .ok { exitCode := 2 }
  | .programHelp =>
    .ok { exitCode := 0, output := programHelp programName programDescription commands }
  | .commandHelp command => .ok { exitCode := 0, output := commandHelp programName command }
  | .nothing => do
    let _ ← settingsOf invocation
    return { exitCode := 1, output := programHelp programName programDescription commands }
  | .command command reading => do
    let settings ← settingsOf invocation
    runCommand around settings invocation command reading

end QueryDesk.CommandLine
