/-
Module: QueryDesk.Log
Purpose: Structured log events: a level, a text, and a context of named values.
Imports: QueryDesk.Value.Basic
Main exports: LogLevel, LogLevel.name, LogLevel.rank, LogEvent
-/
import QueryDesk.Value.Basic

namespace QueryDesk

/-- How much an event matters. -/
inductive LogLevel where
  | debug
  | info
  | warning
  | error
  | critical
deriving Repr, Inhabited, DecidableEq

namespace LogLevel

/-- The name of a level. -/
def name : LogLevel → String
  | .debug => "debug"
  | .info => "info"
  | .warning => "warning"
  | .error => "error"
  | .critical => "critical"

/-- The levels, from the least to the greatest. -/
def all : List LogLevel :=
  [.debug, .info, .warning, .error, .critical]

/-- The rank of a level among all levels. -/
def rank : LogLevel → Nat
  | .debug => 0
  | .info => 1
  | .warning => 2
  | .error => 3
  | .critical => 4

end LogLevel

/-- Something that happened. -/
structure LogEvent where
  level : LogLevel
  event : String
  context : Mapping := []
deriving Repr, Inhabited, BEq

end QueryDesk
