/-
Module: QueryDesk.Main
Purpose: The program: it collects its arguments, its environment and its input, and prints what the
  command leaves. No SQLite engine is built in, so every database fails to open.
Imports: QueryDesk.CommandLine.Program, QueryDesk.Grammar.Parse, QueryDesk.Moment,
  Std.Time.DateTime.Timestamp
Main exports: main
-/
import QueryDesk.CommandLine.Program
import QueryDesk.Grammar.Parse
import QueryDesk.Moment
import Std.Time.DateTime.Timestamp

namespace QueryDesk.CommandLine

/-- All of a stream. -/
partial def readAll (stream : IO.FS.Stream) (seen : String) : IO String := do
  let line ← stream.getLine
  if line.isEmpty then return seen else readAll stream (seen ++ line)

/-- The variables of the settings that are set. -/
def settingVariables : IO (List (String × String)) := do
  let found ← Settings.variableNames.mapM fun name => do
    return (← IO.getEnv name).toList.map fun value => (name, value)
  return found.flatten

/-- The file of variables in the current directory, if there is one. -/
def settingFile : IO (Option String) := do
  try
    return some (← IO.FS.readFile ".env")
  catch _ => return none

/-- The time at hand. -/
def now : IO Moment := do
  let moment ← Std.Time.Timestamp.now
  return ⟨moment.toNanosecondsSinceUnixEpoch.val.toNat / 1000⟩

/-- A database that cannot be opened. -/
def missingDatabase : CursorAnswers :=
  { executed := .error (.ofMessage .sqliteOperational "unable to open database file") }

/-- The words of a fault. -/
def faultText : Fault → String
  | .refused error => error.message
  | .failed failure => failure.kind.label ++ ": " ++ failure.text
  | .malformed issues =>
    ", ".intercalate (issues.map fun issue => issue.kind.words?.getD issue.kind.label)

/-- Runs the program and returns its exit code. -/
def start (arguments : List String) : IO UInt32 := do
  let input ← if arguments.contains "-" then readAll (← IO.getStdin) "" else pure ""
  let around : Surroundings :=
    { parser := Grammar.parse
      database := fun _ _ _ => missingDatabase
      stamp := (← now).text }
  let invocation : Invocation :=
    { arguments := arguments
      environment := ← settingVariables
      envFile := ← settingFile
      input := input }
  match run around invocation with
  | .ok session =>
    IO.print session.output
    return session.exitCode.toUInt32
  | .error fault =>
    IO.eprintln (faultText fault)
    return 1

end QueryDesk.CommandLine

/-- The entry point of the program. -/
def main (arguments : List String) : IO UInt32 :=
  QueryDesk.CommandLine.start arguments
