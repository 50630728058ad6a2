/-
Module: QueryDesk.Catalog.Pool
Purpose: A pool of worker slots. Tasks arrive, take a free slot or wait in line, run leg by leg, and
  hand their slot to the first in line when they end. A step of one task is an action; the clock
  chooses the actions of a run.
Imports: QueryDesk.Catalog.Procedure
Main exports: TaskState, Pool, Pool.ofTraces, Action, Pool.act, Pool.runUntil
-/
import QueryDesk.Catalog.Procedure

namespace QueryDesk.Catalog

/-- Where a task stands: not yet run, waiting in line, called up with a slot handed to it, holding a
slot until its next answer is there, ended with an outcome, or cancelled. -/
inductive TaskState (α : Type) where
  | created (trace : Trace α)
  | waiting (trace : Trace α)
  | woken (trace : Trace α)
  | running (wake : Rat) (trace : Trace α)
  | finished (outcome : Except Failure α)
  | cancelled

/-- Free slots, the line of waiting tasks, all tasks, and what has happened so far. -/
structure Pool (α : Type) where
  free : Nat
  line : List Nat := []
  tasks : List (TaskState α)
  happened : List Happening := []

/-- A step of one task. -/
inductive Action where
  | arrive (task : Nat)
  | enter (task : Nat)
  | resume (task : Nat)
  | cancel (task : Nat)
deriving Repr, Inhabited, DecidableEq

namespace Pool

variable {α : Type}

/-- A pool with so many slots, before any task has run. -/
def ofTraces (slots : Nat) (traces : List (Trace α)) : Pool α :=
  { free := slots, tasks := traces.map .created }

/-- Puts a task into a state. -/
def put (pool : Pool α) (task : Nat) (state : TaskState α) : Pool α :=
  { pool with tasks := pool.tasks.set task state }

/-- Gives up a slot: it goes to the first in line, or becomes free. -/
def release (pool : Pool α) : Pool α :=
  match pool.line with
  | [] => { pool with free := pool.free + 1 }
  | next :: rest =>
    match pool.tasks[next]? with
    | some (.waiting trace) => { pool.put next (.woken trace) with line := rest }
    | _ => { pool with line := rest, free := pool.free + 1 }

/-- A task that holds a slot goes on with its trace until the next wait or its end. -/
def proceed (pool : Pool α) (now : Rat) (task : Nat) (trace : Trace α) : Pool α :=
  match trace.legs with
  | [] =>
    release { pool.put task (.finished trace.outcome) with
      happened := pool.happened ++ trace.last }
  | leg :: rest =>
    { pool.put task (.running (now + leg.delay) { trace with legs := rest }) with
      happened := pool.happened ++ leg.happenings }

/-- A task runs for the first time: it takes a slot if one is free and nobody waits, and else
stands in line. -/
def arrive (pool : Pool α) (now : Rat) (task : Nat) (trace : Trace α) : Pool α :=
  if 0 < pool.free && pool.line.isEmpty then
    { pool with free := pool.free - 1 }.proceed now task trace
  else { pool.put task (.waiting trace) with line := pool.line ++ [task] }

/-- A task is cancelled. It leaves the line, or gives up the slot that it holds. -/
def cancel (pool : Pool α) (task : Nat) : Pool α :=
  match pool.tasks[task]? with
  | some (.created _) => pool.put task .cancelled
  | some (.waiting _) => { pool.put task .cancelled with line := pool.line.erase task }
  | some (.woken _) => (pool.put task .cancelled).release
  | some (.running _ _) => (pool.put task .cancelled).release
  | _ => pool

/-- One action at a moment, if it is possible. -/
def act (pool : Pool α) (now : Rat) : Action → Option (Pool α)
  | .arrive task =>
    match pool.tasks[task]? with
    | some (.created trace) => some (pool.arrive now task trace)
    | _ => none
  | .enter task =>
    match pool.tasks[task]? with
    | some (.woken trace) => some (pool.proceed now task trace)
    | _ => none
  | .resume task =>
    match pool.tasks[task]? with
    | some (.running _ trace) => some (pool.proceed now task trace)
    | _ => none
  | .cancel task =>
    match pool.tasks[task]? with
    | some (.finished _) => none
    | some .cancelled => none
    | some _ => some (pool.cancel task)
    | none => none

/-- Whether a task has not run yet. -/
def isCreated : TaskState α → Bool
  | .created _ => true
  | _ => false

/-- Whether a task has been handed a slot. -/
def isWoken : TaskState α → Bool
  | .woken _ => true
  | _ => false

/-- Whether a task has ended. -/
def isFinished : TaskState α → Bool
  | .finished _ => true
  | _ => false

/-- The moment at which a task goes on, if it holds a slot. -/
def wake? : TaskState α → Option Rat
  | .running wake _ => some wake
  | _ => none

/-- The earliest wake among tasks from an index on, with its task. Of equal ones the first
counts. -/
def earliestFrom (index : Nat) : List (TaskState α) → Option (Nat × Rat)
  | [] => none
  | state :: rest =>
    match wake? state, earliestFrom (index + 1) rest with
    | some wake, some (later, other) => if other < wake then some (later, other) else some (index, wake)
    | some wake, none => some (index, wake)
    | none, found => found

/-- The next action and its moment: arrivals in the order of creation, then tasks that were handed
a slot, then the earliest answer. -/
def nextAction (pool : Pool α) (now : Rat) : Option (Rat × Action) :=
  match pool.tasks.findIdx? isCreated with
  | some task => some (now, .arrive task)
  | none =>
    match pool.tasks.findIdx? isWoken with
    | some task => some (now, .enter task)
    | none => (earliestFrom 0 pool.tasks).map fun (task, wake) => (wake, .resume task)

/-- Whether a moment comes before a deadline. -/
def isBefore (moment : Rat) : Option Rat → Bool
  | none => true
  | some deadline => moment < deadline

/-- Whether an action waits for an answer. -/
def awaits : Action → Bool
  | .resume _ => true
  | _ => false

/-- The most actions that are left for a task. -/
def workLeft : TaskState α → Nat
  | .created trace => trace.legs.length + 2
  | .waiting trace => trace.legs.length + 1
  | .woken trace => trace.legs.length + 1
  | .running _ trace => trace.legs.length + 1
  | .finished _ => 0
  | .cancelled => 0

/-- A run of at most so many actions from a moment. It ends when no task can go on before the
deadline. -/
def runFor (deadline : Option Rat) : Nat → Rat → Pool α → Rat × Pool α
  | 0, now, pool => (now, pool)
  | fuel + 1, now, pool =>
    match pool.nextAction now with
    | none => (now, pool)
    | some (moment, action) =>
      if awaits action && !isBefore moment deadline then (now, pool)
      else
        match pool.act moment action with
        | some next => runFor deadline fuel moment next
        | none => (now, pool)

/-- The run of a pool up to a deadline: the moment of its last action, and the pool then. -/
def runUntil (deadline : Option Rat) (now : Rat) (pool : Pool α) : Rat × Pool α :=
  runFor deadline (pool.tasks.foldr (fun task total => workLeft task + total) 0) now pool

/-- The number of tasks that have not ended. -/
def pending (pool : Pool α) : Nat :=
  (pool.tasks.filter fun state => !isFinished state).length

/-- The values of the tasks that ended with one, in the order of creation. -/
def results (pool : Pool α) : List α :=
  pool.tasks.filterMap fun
    | .finished (.ok value) => some value
    | _ => none

end Pool

end QueryDesk.Catalog
