/-
Module: QueryDesk.Catalog.Procedure
Purpose: Catalog procedures: programs that ask a connection, leave log entries, and end with a value
  or a failure. Run against a connection, a procedure becomes a trace: legs of things that happen at
  one moment, with a wait after each leg.
Imports: QueryDesk.Connection.Call, QueryDesk.Connection.Result, QueryDesk.Log
Main exports: Procedure, Procedure.query, Procedure.note, Procedure.recover, Happening, Leg, Trace,
  Procedure.trace, Trace.duration, Trace.happeningsWithin
-/
import QueryDesk.Connection.Call
import QueryDesk.Connection.Result
import QueryDesk.Log

namespace QueryDesk.Catalog

/-- A program that asks a connection and leaves log entries. -/
inductive Procedure (α : Type) where
  | done (outcome : Except Failure α)
  | ask (call : Call) (next : Except Failure Value → Procedure α)
  | log (entry : LogEvent) (next : Procedure α)

namespace Procedure

variable {α β : Type}

/-- One procedure after another. A failure ends both. -/
def bind (first : Procedure α) (next : α → Procedure β) : Procedure β :=
  match first with
  | .done (.ok value) => next value
  | .done (.error failure) => .done (.error failure)
  | .ask call continuation => .ask call fun answer => (continuation answer).bind next
  | .log entry rest => .log entry (rest.bind next)

instance : Monad Procedure where
  pure value := .done (.ok value)
  bind := Procedure.bind

/-- An outcome without any question. -/
def ofOutcome (outcome : Except Failure α) : Procedure α := .done outcome

/-- Leaves a log entry. -/
def note (message : String) : Procedure Unit :=
  .log { level := .info, event := message } (.done (.ok ()))

/-- Asks for the rows of a statement, in the driver's shape. -/
def raw (sql : String) (params : Option (List Value) := none) : Procedure RawResult :=
  .ask { sql := sql, params := params } fun answer => .done (answer.bind RawResult.ofValue)

/-- Asks for the rows of a statement. -/
def query (sql : String) (params : Option (List Value) := none) : Procedure (List Row) :=
  .ask { sql := sql, params := params } fun answer => .done (answer.bind rowsOfValue)

/-- Turns a failure into a value, with what is left behind. -/
def recover (procedure : Procedure α) (handle : Failure → Procedure α) : Procedure α :=
  match procedure with
  | .done (.ok value) => .done (.ok value)
  | .done (.error failure) => handle failure
  | .ask call next => .ask call fun answer => (next answer).recover handle
  | .log entry rest => .log entry (rest.recover handle)

end Procedure

/-- Something that happens while a procedure runs. -/
inductive Happening where
  | sent (call : Call)
  | logged (entry : LogEvent)
deriving Repr, Inhabited, BEq

/-- What happens at one moment, and the wait after it. -/
structure Leg where
  happenings : List Happening
  delay : Rat
deriving Repr, Inhabited, BEq

/-- A procedure run against a connection: the legs before its last moment, what happens then, and
how it ends. -/
structure Trace (α : Type) where
  legs : List Leg
  last : List Happening
  outcome : Except Failure α

/-- The trace of a procedure, given the replies to its questions, the number of questions asked
before, and what has happened at this moment. A reply without delay is there at once. -/
def Procedure.trace {α : Type} (reply : Nat → Call → Reply) (turn : Nat)
    (happened : List Happening) : Procedure α → Trace α
  | .done outcome => ⟨[], happened, outcome⟩
  | .log entry next => next.trace reply turn (happened ++ [.logged entry])
  | .ask call next =>
    let answered := reply turn call
    if 0 < answered.delay then
      let rest := (next answered.answer).trace reply (turn + 1) []
      { rest with legs := ⟨happened ++ [.sent call], answered.delay⟩ :: rest.legs }
    else (next answered.answer).trace reply (turn + 1) (happened ++ [.sent call])

namespace Trace

variable {α : Type}

/-- The seconds that a trace takes. -/
def duration (trace : Trace α) : Rat :=
  trace.legs.foldr (fun leg total => leg.delay + total) 0

/-- All that happens. -/
def happenings (trace : Trace α) : List Happening :=
  trace.legs.flatMap Leg.happenings ++ trace.last

/-- What happens in legs that begin before a moment, counted from the start of the first leg. -/
def legsBefore (moment : Rat) : List Leg → List Happening
  | [] => []
  | leg :: rest =>
    if 0 < moment then leg.happenings ++ legsBefore (moment - leg.delay) rest else []

/-- What happens within a limit. -/
def happeningsWithin (trace : Trace α) (limit : TimeLimit) : List Happening :=
  match limit with
  | .unlimited => trace.happenings
  | .within seconds =>
    if limit.allows trace.duration then trace.happenings else legsBefore seconds trace.legs

end Trace

/-- The log entries among what happened. -/
def logEntries (happened : List Happening) : List LogEvent :=
  happened.filterMap fun
    | .logged entry => some entry
    | .sent _ => none

/-- The calls among what happened. -/
def sentCalls (happened : List Happening) : List Call :=
  happened.filterMap fun
    | .sent call => some call
    | .logged _ => none

end QueryDesk.Catalog
