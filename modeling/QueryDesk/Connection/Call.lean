/-
Module: QueryDesk.Connection.Call
Purpose: Calls on a connection, the replies to them, and how long a caller waits for one. A reply
  says how many seconds pass before it arrives; time is exact.
Imports: QueryDesk.Connection.Failure
Main exports: Call, Reply, TimeLimit, TimeLimit.ofMeasure?, TimeLimit.starts, TimeLimit.allows
-/
import QueryDesk.Connection.Failure

namespace QueryDesk

open QueryDesk.Number

/-- A statement given to a connection, with its parameters and the seconds the driver may take. -/
structure Call where
  sql : String
  params : Option (List Value) := none
  timeout : Option Measure := none
deriving Repr, Inhabited, BEq

/-- What a connection makes of a call: after a delay in seconds, a value or a failure. -/
structure Reply where
  delay : Rat := 0
  answer : Except Failure Value
deriving Repr, Inhabited

/-- The later one of two moments. -/
def later (x y : Rat) : Rat :=
  if x ≤ y then y else x

/-- How long a caller waits. -/
inductive TimeLimit where
  | unlimited
  | within (seconds : Rat)
deriving Repr, Inhabited, DecidableEq

namespace TimeLimit

/-- The limit of so many seconds. An infinite number sets no limit. Seconds are taken to be a number, and
what is none sets no limit either. -/
def ofSeconds (seconds : Binary64) : TimeLimit :=
  match seconds with
  | .infinite true => .within 0
  | other =>
    match other.toRat? with
    | some value => .within value
    | none => .unlimited

/-- The limit that a measure sets, if there is one. -/
def ofMeasure? : Option Measure → TimeLimit
  | some (.whole seconds) => .within seconds
  | some (.binary seconds) => ofSeconds seconds
  | none => .unlimited

/-- Whether there is any time at all. A caller without time does not even start. -/
def starts : TimeLimit → Bool
  | .unlimited => true
  | .within seconds => 0 < seconds

/-- Whether something that takes so many seconds is done in time. -/
def allows (limit : TimeLimit) (delay : Rat) : Bool :=
  match limit with
  | .unlimited => true
  | .within seconds => 0 < seconds && delay < seconds

end TimeLimit

/-- The answer that reaches a caller who waits so long. -/
def Reply.within (reply : Reply) (limit : TimeLimit) : Except Failure Value :=
  if limit.allows reply.delay then reply.answer else .error .elapsed

end QueryDesk
