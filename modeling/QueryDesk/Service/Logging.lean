/-
Module: QueryDesk.Service.Logging
Purpose: Which events a log shows and what their lines hold, and the warning about slow queries.
Imports: QueryDesk.Connection.Failure, QueryDesk.Log, QueryDesk.Text.Case
Main exports: LogLevel.ofText, LogEvent.isShown, LogEvent.fields, slowQuery?
-/
import QueryDesk.Connection.Failure
import QueryDesk.Log
import QueryDesk.Text.Case

namespace QueryDesk

open QueryDesk.Number QueryDesk.Text

/-- The level with a name, whatever its letter case. -/
def LogLevel.ofText (text : String) : Except Failure LogLevel :=
  match LogLevel.all.find? fun level => upperString level.name == upperString text with
  | some level => .ok level
  | none => .error (.ofMessage .badValue s!"Unknown log level: {text}")

/-- Whether a log of a level shows an event. -/
def LogEvent.isShown (threshold : LogLevel) (event : LogEvent) : Bool :=
  threshold.rank ≤ event.level.rank

/-- The fields of a line, its time apart. -/
def LogEvent.fields (event : LogEvent) : Mapping :=
  event.context ++ [(.name "event", .text event.event), (.name "level", .text event.level.name)]

/-- How much of a slow query the log shows. -/
def slowQueryPreview : Nat := 200

/-- The warning about a query that took at least the threshold. Only a preview of its text is
shown. -/
def slowQuery? (threshold duration : Measure) (sql : String) (context : Mapping) :
    Option LogEvent :=
  if duration.lessThan threshold then none
  else
    some
      { level := .warning
        event := "slow_query_detected"
        context :=
          [(.name "duration_seconds", .ofMeasure (duration.round 3)),
            (.name "threshold_seconds", .ofMeasure threshold),
            (.name "sql_preview", .text (String.ofList (sql.toList.take slowQueryPreview))),
            (.name "sql_length", .int sql.length)] ++ context }

end QueryDesk
