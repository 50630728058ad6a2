/-
Module: QueryDesk.Proofs.Connection.Threads
Purpose: Calls that share a connection of a blocking driver. Each call has a worker of its own, and the
  workers take turns under a lock. A caller whose time is up goes away at once, but a worker that has begun
  goes on until the driver returns. Whatever fails, and in whatever order the workers and callers move, a
  call sends one statement or none; a worker that has ended has closed its cursor and left the lock, and
  has done what its call does on a connection of its own.
Imports: QueryDesk.Connection.Adapter, Mathlib.Data.List.Forall2
Main exports: CursorAnswers.Explains, runBlocking_explained, Request, Request.alone, Stage, Job, Move,
  Job.move?, Job.OnCourse, Crew, Crew.act, Crew.follow, Crew.Sound, Crew.Sound.follow, Crew.Tidy,
  Crew.tidy_of_follow
-/
import QueryDesk.Connection.Adapter
import Mathlib.Data.List.Forall2

namespace QueryDesk

open QueryDesk.Sql

namespace CursorAnswers

/-- The failures that a driver raises itself. -/
def Raises (answers : CursorAnswers) (failure : Failure) : Prop :=
  answers.opened = .error failure ∨ answers.executed = .error failure ∨
    answers.fetched = .error failure ∨ answers.closed = .error failure

/-- A driver explains the outcome of a statement. A failure is one that it raises, or that of a row without
items. Else nothing was raised, and the result has the rows as tuples of their items, under the names that
are described; it is empty without a description. -/
def Explains (answers : CursorAnswers) : Except Failure RawResult → Prop
  | .error failure =>
    answers.Raises failure ∨
      ∃ rows, answers.fetched = .ok rows ∧ ∃ row ∈ rows, row.items = .error failure
  | .ok raw =>
    answers.opened = .ok () ∧ answers.executed = .ok () ∧ answers.closed = .ok () ∧
      raw.shape = .rowsAndFields ∧
      ((answers.columns = none ∧ raw.rows = [] ∧ raw.fields = []) ∨
        ∃ names rows, answers.columns = some names ∧ answers.fetched = .ok rows ∧ raw.fields = names ∧
          List.Forall₂ (fun row tuple => ∃ cells, row.items = .ok cells ∧ tuple = .tuple cells)
            rows raw.rows)

end CursorAnswers

namespace Adapter

/-- Rows become tuples one by one. The first row without items fails. -/
theorem mapM_items_cases (rows : List Value) :
    (∃ tuples, rows.mapM (fun row => row.items.map Value.tuple) = .ok tuples ∧
      List.Forall₂ (fun row tuple => ∃ cells, row.items = .ok cells ∧ tuple = .tuple cells)
        rows tuples) ∨
    ∃ failure, rows.mapM (fun row => row.items.map Value.tuple) = .error failure ∧
      ∃ row ∈ rows, row.items = .error failure := by
  induction rows with
  | nil => exact .inl ⟨[], rfl, .nil⟩
  | cons row rest ih =>
    rw [List.mapM_cons]
    cases first : row.items with
    | error failure => exact .inr ⟨failure, rfl, row, List.mem_cons_self, first⟩
    | ok cells =>
      rcases ih with ⟨tuples, read, each⟩ | ⟨failure, read, other, member, failed⟩
      · rw [read]
        exact .inl ⟨.tuple cells :: tuples, rfl, .cons ⟨cells, first, rfl⟩ each⟩
      · rw [read]
        exact .inr ⟨failure, rfl, other, List.mem_cons_of_mem row member, failed⟩

/-- The outcome of a statement is explained by the answers to it. -/
theorem runBlocking_explained (answers : CursorAnswers) (sql : String) (params : List Value) :
    answers.Explains (runBlocking answers sql params).2 := by
  unfold runBlocking
  split
  next failure raised => exact .inl (.inl raised)
  next opened =>
    unfold closing
    split
    next closed =>
      dsimp only
      split
      next failure raised => exact .inl (.inr (.inl raised))
      next executed =>
        unfold tupleRows
        split
        next undescribed => exact ⟨opened, executed, closed, rfl, .inl ⟨undescribed, rfl, rfl⟩⟩
        next names described =>
          cases fetched : answers.fetched with
          | error failure => exact .inl (.inr (.inr (.inl fetched)))
          | ok rows =>
            rcases mapM_items_cases rows with ⟨tuples, read, each⟩ | ⟨failure, read, row, member, failed⟩
            · simp only [bind, Except.bind, read]
              exact ⟨opened, executed, closed, rfl, .inr ⟨names, rows, described, fetched, rfl, each⟩⟩
            · simp only [bind, Except.bind, read]
              exact .inr ⟨rows, fetched, row, member, failed⟩
    next failure raised => exact .inl (.inr (.inr (.inr raised)))

end Adapter

/-! ### The course of a worker

A worker is taken for what it still has to do: what it is to send, and the outcome that it is to have. Each
of its steps moves some of that to what has been done, so that the two together stay what the call does
alone, and what the caller does in the meantime changes neither. -/

/-- A call on a connection, and how the driver answers the statement of this call. -/
structure Request where
  call : Call
  answers : String → List Value → CursorAnswers

namespace Request

variable (style : ParamStyle) (request : Request)

/-- How long the caller waits. -/
def limit : TimeLimit := .ofMeasure? request.call.timeout

/-- The statement of the call, as the driver gets it. -/
def statement : String := (Adapter.blocking style).statement request.call

/-- The parameters of the call. -/
def params : List Value := request.call.params.getD []

/-- The driver's answers to the call. -/
def answered : CursorAnswers := request.answers (request.statement style) request.params

/-- What the call does on a connection of its own: what reaches the driver, and the outcome. -/
def alone : List DriverEvent × Except Failure RawResult :=
  ((Adapter.blocking style).execute request.answers request.call).2

/-- What a call sends to the driver at most: its statement, and the end of its cursor. -/
def sends : List DriverEvent :=
  [.execute (request.statement style) (some request.params), .closeCursor]

theorem alone_eq : request.alone style =
    if request.limit.starts then
      Adapter.runBlocking (request.answered style) (request.statement style) request.params
    else ([], .error .elapsed) := rfl

end Request

/-- How far the worker of a call is: nobody has taken it up, it is given up before that, it waits for the
lock, it opens a cursor, executes the statement, reads the rows, closes the cursor, leaves the lock, or has
ended. -/
inductive Stage where
  | queued
  | dropped
  | waiting
  | opening
  | executing
  | reading
  | closing (outcome : Except Failure RawResult)
  | leaving (outcome : Except Failure RawResult)
  | ended (outcome : Except Failure RawResult)

namespace Stage

/-- Whether a worker is inside the lock. -/
def isInside : Stage → Bool
  | .opening | .executing | .reading | .closing _ | .leaving _ => true
  | _ => false

/-- Whether there is nothing left to do for a worker. -/
def isOver : Stage → Bool
  | .dropped | .ended _ => true
  | _ => false

/-- The most steps until a worker has left the lock. -/
def turns : Stage → Nat
  | .opening => 5
  | .executing => 4
  | .reading => 3
  | .closing _ => 2
  | .leaving _ => 1
  | _ => 0

/-- What a worker inside the lock does next with its cursor, and what reaches the driver. -/
def next? (answers : CursorAnswers) (sql : String) (params : List Value) :
    Stage → Option (Stage × List DriverEvent)
  | .opening =>
    match answers.opened with
    | .error failure => some (.leaving (.error failure), [])
    | .ok () => some (.executing, [])
  | .executing =>
    match answers.executed with
    | .error failure => some (.closing (.error failure), [.execute sql (some params)])
    | .ok () => some (.reading, [.execute sql (some params)])
  | .reading => some (.closing (Adapter.tupleRows answers), [])
  | .closing outcome =>
    match answers.closed with
    | .error failure => some (.leaving (.error failure), [.closeCursor])
    | .ok () => some (.leaving outcome, [.closeCursor])
  | _ => none

/-- What is still to come of a worker: what it is to send, and its outcome. -/
def ahead (answers : CursorAnswers) (sql : String) (params : List Value) :
    Stage → List DriverEvent × Except Failure RawResult
  | .queued | .waiting | .opening => Adapter.runBlocking answers sql params
  | .dropped => ([], .error .elapsed)
  | .executing =>
    Adapter.closing answers [.execute sql (some params)]
      (match answers.executed with
      | .error failure => .error failure
      | .ok () => Adapter.tupleRows answers)
  | .reading => Adapter.closing answers [] (Adapter.tupleRows answers)
  | .closing outcome => Adapter.closing answers [] outcome
  | .leaving outcome | .ended outcome => ([], outcome)

end Stage

/-- A call on a shared connection: its request, how far its worker is, what reached the driver, and the
reply to its caller. -/
structure Job where
  request : Request
  stage : Stage
  events : List DriverEvent := []
  reply : Option (Except Failure RawResult) := none

/-- A step of one call: a worker takes it up, enters the lock, goes on with its cursor or leaves the lock;
the time of its caller is up; or its caller gets the outcome. -/
inductive Move where
  | start
  | enter
  | run
  | leave
  | elapse
  | answer
deriving Repr, DecidableEq

namespace Job

/-- A call that comes in. Without any time it is given up at once. -/
def ofRequest (request : Request) : Job :=
  if request.limit.starts then { request := request, stage := .queued }
  else { request := request, stage := .dropped, reply := some (.error .elapsed) }

/-- What becomes of a call with a step, if the step is possible. A call whose time is up is given up only if
no worker has taken it up before. -/
def move? (style : ParamStyle) (job : Job) : Move → Option Job
  | .start =>
    match job.stage with
    | .queued => some { job with stage := .waiting }
    | _ => none
  | .enter =>
    match job.stage with
    | .waiting => some { job with stage := .opening }
    | _ => none
  | .run =>
    (job.stage.next? (job.request.answered style) (job.request.statement style)
      job.request.params).map fun (stage, events) =>
        { job with stage := stage, events := job.events ++ events }
  | .leave =>
    match job.stage with
    | .leaving outcome => some { job with stage := .ended outcome }
    | _ => none
  | .elapse =>
    match job.reply, job.request.limit with
    | none, .within _ =>
      match job.stage with
      | .queued => some { job with stage := .dropped, reply := some (.error .elapsed) }
      | _ => some { job with reply := some (.error .elapsed) }
    | _, _ => none
  | .answer =>
    match job.reply, job.stage with
    | none, .ended outcome => some { job with reply := some outcome }
    | _, _ => none

variable {style : ParamStyle} {job next : Job} {move : Move}

/-- What reaches the driver over the whole course of a worker, and its outcome. -/
def course (style : ParamStyle) (job : Job) : List DriverEvent × Except Failure RawResult :=
  let ahead := job.stage.ahead (job.request.answered style) (job.request.statement style)
    job.request.params
  (job.events ++ ahead.1, ahead.2)

/-- What holds of a call at any moment. A worker that is not given up does what the call does alone. The
reply is the outcome of the worker, or the time of the caller was up. -/
structure OnCourse (style : ParamStyle) (job : Job) : Prop where
  course_eq : job.stage ≠ .dropped → job.request.limit.starts = true ∧
    job.course style = job.request.alone style
  unsent : job.stage = .queued ∨ job.stage = .dropped → job.events = []
  dropped : job.stage = .dropped → job.reply = some (.error .elapsed)
  replied : ∀ reply ∈ job.reply,
    (reply = .error .elapsed ∧ job.request.limit ≠ .unlimited) ∨ job.stage = .ended reply

theorem onCourse_ofRequest (style : ParamStyle) (request : Request) :
    (ofRequest request).OnCourse style := by
  unfold ofRequest
  split
  next starts =>
    refine ⟨fun _ => ⟨starts, ?_⟩, fun _ => rfl, nofun, nofun⟩
    rw [Request.alone_eq, if_pos starts]
    rfl
  next late =>
    refine ⟨fun kept => absurd rfl kept, fun _ => rfl, fun _ => rfl, ?_⟩
    rintro reply ⟨⟩
    refine .inl ⟨rfl, fun endless => late ?_⟩
    change request.limit = .unlimited at endless
    rw [endless]
    rfl

/-- Closing a cursor comes after whatever was sent before. -/
theorem closing_append (answers : CursorAnswers) (events : List DriverEvent)
    (outcome : Except Failure RawResult) :
    Adapter.closing answers events outcome =
      (events ++ (Adapter.closing answers [] outcome).1, (Adapter.closing answers [] outcome).2) := by
  unfold Adapter.closing
  split <;> rfl

/-- A step of a worker inside the lock sends the next part of what is still to come. -/
theorem ahead_of_next? {answers : CursorAnswers} {sql : String} {params : List Value}
    {stage after : Stage} {events : List DriverEvent}
    (moved : stage.next? answers sql params = some (after, events)) :
    stage.ahead answers sql params =
      (events ++ (after.ahead answers sql params).1, (after.ahead answers sql params).2) := by
  cases stage with
  | opening =>
    simp only [Stage.next?] at moved
    split at moved
    next failure raised =>
      cases moved
      simp [Stage.ahead, Adapter.runBlocking, raised]
    next opened =>
      cases moved
      simp only [Stage.ahead, Adapter.runBlocking, opened]
      rfl
  | executing =>
    simp only [Stage.next?] at moved
    split at moved
    next failure raised =>
      cases moved
      simp only [Stage.ahead, raised]
      exact closing_append _ _ _
    next executed =>
      cases moved
      simp only [Stage.ahead, executed]
      exact closing_append _ _ _
  | reading =>
    cases moved
    rfl
  | closing outcome =>
    simp only [Stage.next?] at moved
    split at moved
    next failure raised =>
      cases moved
      simp [Stage.ahead, Adapter.closing, raised]
    next closed =>
      cases moved
      simp [Stage.ahead, Adapter.closing, closed]
  | _ => cases moved

/-- What a step can do: the request stays, and the stage, what was sent and the reply change together. -/
theorem move?_cases (moved : job.move? style move = some next) :
    (move = .start ∧ job.stage = .queued ∧ next = { job with stage := .waiting }) ∨
    (move = .enter ∧ job.stage = .waiting ∧ next = { job with stage := .opening }) ∨
    (move = .run ∧ ∃ after events,
      job.stage.next? (job.request.answered style) (job.request.statement style)
        job.request.params = some (after, events) ∧
      next = { job with stage := after, events := job.events ++ events }) ∨
    (move = .leave ∧ ∃ outcome, job.stage = .leaving outcome ∧
      next = { job with stage := .ended outcome }) ∨
    (move = .elapse ∧ job.reply = none ∧ job.request.limit ≠ .unlimited ∧
      next = { job with
        stage := if job.stage matches .queued then .dropped else job.stage
        reply := some (.error .elapsed) }) ∨
    (move = .answer ∧ job.reply = none ∧ ∃ outcome, job.stage = .ended outcome ∧
      next = { job with reply := some outcome }) := by
  obtain ⟨request, stage, events, reply⟩ := job
  cases move with
  | start =>
    simp only [move?] at moved
    split at moved
    next => exact .inl ⟨rfl, rfl, (Option.some.inj moved).symm⟩
    next => cases moved
  | enter =>
    simp only [move?] at moved
    split at moved
    next => exact .inr (.inl ⟨rfl, rfl, (Option.some.inj moved).symm⟩)
    next => cases moved
  | run =>
    obtain ⟨⟨after, sent⟩, ran, rfl⟩ := Option.map_eq_some_iff.1 moved
    exact .inr (.inr (.inl ⟨rfl, after, sent, ran, rfl⟩))
  | leave =>
    simp only [move?] at moved
    split at moved
    next outcome => exact .inr (.inr (.inr (.inl ⟨rfl, outcome, rfl, (Option.some.inj moved).symm⟩)))
    next => cases moved
  | elapse =>
    simp only [move?] at moved
    split at moved
    next seconds limited =>
      refine .inr (.inr (.inr (.inr (.inl ⟨rfl, rfl, by simp [limited], ?_⟩))))
      split at moved <;> exact (Option.some.inj moved).symm
    next => cases moved
  | answer =>
    simp only [move?] at moved
    split at moved
    next outcome =>
      exact .inr (.inr (.inr (.inr (.inr ⟨rfl, rfl, outcome, rfl, (Option.some.inj moved).symm⟩))))
    next => cases moved

/-- A worker inside the lock stays inside as long as it goes on with its cursor. -/
theorem isInside_of_next? {answers : CursorAnswers} {sql : String} {params : List Value}
    {stage after : Stage} {events : List DriverEvent}
    (moved : stage.next? answers sql params = some (after, events)) :
    stage.isInside = true ∧ after.isInside = true := by
  cases stage <;> simp only [Stage.next?] at moved <;>
    (try split at moved) <;> cases moved <;> exact ⟨rfl, rfl⟩

/-- No step of a call leaves its course. -/
theorem OnCourse.preserved (onCourse : job.OnCourse style) (moved : job.move? style move = some next) :
    next.OnCourse style := by
  obtain ⟨request, stage, events, reply⟩ := job
  obtain ⟨course_eq, unsent, dropped, replied⟩ := onCourse
  -- While a worker has not ended, a reply can only be due to time.
  have timed (busy : ∀ outcome, stage ≠ .ended outcome) : ∀ given ∈ reply,
      given = .error .elapsed ∧ request.limit ≠ .unlimited := fun given member =>
    (replied given member).resolve_right (busy given)
  rcases move?_cases moved with ⟨-, rfl, rfl⟩ | ⟨-, rfl, rfl⟩ | ⟨-, after, sent, ran, rfl⟩ |
    ⟨-, outcome, rfl, rfl⟩ | ⟨-, rfl, limited, rfl⟩ | ⟨-, rfl, outcome, rfl, rfl⟩
  -- Taking a worker up, letting it enter and letting it leave send nothing.
  · exact ⟨fun _ => course_eq nofun, nofun, nofun,
      fun given member => .inl (timed nofun given member)⟩
  · exact ⟨fun _ => course_eq nofun, nofun, nofun,
      fun given member => .inl (timed nofun given member)⟩
  · obtain ⟨inside, stays⟩ := isInside_of_next? ran
    refine ⟨fun _ => ?_, ?_, ?_, fun given member => .inl (timed ?_ given member)⟩
    · have kept : stage ≠ .dropped := by
        rintro rfl
        cases inside
      obtain ⟨starts, same⟩ := course_eq kept
      refine ⟨starts, same ▸ ?_⟩
      simp only [course, ahead_of_next? ran, List.append_assoc]
    · rintro (rfl | rfl) <;> cases stays
    · rintro rfl
      cases stays
    · rintro outcome rfl
      cases inside
  · exact ⟨fun _ => course_eq nofun, nofun, nofun,
      fun given member => .inl (timed nofun given member)⟩
  -- The time of the caller is up: only a worker that nobody has taken up is given up with it.
  · have given_up : ∀ given ∈ some (Except.error Failure.elapsed : Except Failure RawResult),
        given = .error .elapsed ∧ request.limit ≠ .unlimited := by
      rintro given ⟨⟩
      exact ⟨rfl, limited⟩
    cases stage with
    | queued =>
      exact ⟨fun kept => absurd rfl kept, fun _ => unsent (.inl rfl), fun _ => rfl,
        fun given member => .inl (given_up given member)⟩
    | dropped => cases dropped rfl
    | _ => exact ⟨course_eq, unsent, fun _ => rfl, fun given member => .inl (given_up given member)⟩
  · refine ⟨fun _ => course_eq nofun, nofun, nofun, ?_⟩
    rintro given ⟨⟩
    exact .inr rfl

/-- Only entering and leaving the lock changes whether a worker is inside. -/
theorem isInside_move? (moved : job.move? style move = some next) :
    (move = .enter ∧ job.stage.isInside = false ∧ next.stage.isInside = true) ∨
    (move = .leave ∧ job.stage.isInside = true ∧ next.stage.isInside = false) ∨
    (move ≠ .enter ∧ move ≠ .leave ∧ next.stage.isInside = job.stage.isInside) := by
  obtain ⟨request, stage, events, reply⟩ := job
  rcases move?_cases moved with ⟨rfl, rfl, rfl⟩ | ⟨rfl, rfl, rfl⟩ | ⟨rfl, after, sent, ran, rfl⟩ |
    ⟨rfl, outcome, rfl, rfl⟩ | ⟨rfl, -, -, rfl⟩ | ⟨rfl, -, outcome, rfl, rfl⟩
  · exact .inr (.inr ⟨nofun, nofun, rfl⟩)
  · exact .inl ⟨rfl, rfl, rfl⟩
  · obtain ⟨inside, stays⟩ := isInside_of_next? ran
    exact .inr (.inr ⟨nofun, nofun, stays.trans inside.symm⟩)
  · exact .inr (.inl ⟨rfl, rfl, rfl⟩)
  · refine .inr (.inr ⟨nofun, nofun, ?_⟩)
    cases stage <;> rfl
  · exact .inr (.inr ⟨nofun, nofun, rfl⟩)

end Job

/-! ### A shared connection

The calls share nothing but the lock. So it is enough that no step of one call changes another one, that
only the holder of the lock is inside, and that the holder can always go on. -/

/-- The calls on a connection, and the one whose worker holds the lock. -/
structure Crew where
  holder : Option Nat := none
  jobs : List Job := []

/-- A step on a shared connection: a call comes in, or one of the calls makes a step. -/
inductive CrewAction where
  | call (request : Request)
  | move (job : Nat) (move : Move)

namespace Crew

/-- The holder of the lock after a step. -/
def holderAfter (holder : Option Nat) (job : Nat) : Move → Option Nat
  | .enter => some job
  | .leave => none
  | _ => holder

/-- What becomes of the calls with an action, if it is possible. Only a free lock can be entered. -/
def act (style : ParamStyle) (crew : Crew) : CrewAction → Option Crew
  | .call request => some { crew with jobs := crew.jobs ++ [.ofRequest request] }
  | .move place move =>
    if crew.holder.isSome && move == .enter then none
    else
      match crew.jobs[place]? with
      | none => none
      | some job =>
        (job.move? style move).map fun next =>
          { holder := holderAfter crew.holder place move, jobs := crew.jobs.set place next }

/-- What becomes of the calls with one action after the other. -/
def follow (style : ParamStyle) (crew : Crew) : List CrewAction → Option Crew
  | [] => some crew
  | action :: rest => (crew.act style action).bind fun next => next.follow style rest

variable {style : ParamStyle} {crew next last : Crew} {action : CrewAction}
  {schedule : List CrewAction}

/-- What an action can do. -/
theorem act_cases (acted : crew.act style action = some next) :
    (∃ request, action = .call request ∧
      next = { crew with jobs := crew.jobs ++ [.ofRequest request] }) ∨
    ∃ place move job moved, action = .move place move ∧ (move = .enter → crew.holder = none) ∧
      crew.jobs[place]? = some job ∧ job.move? style move = some moved ∧
      next = { holder := holderAfter crew.holder place move, jobs := crew.jobs.set place moved } := by
  cases action with
  | call request => exact .inl ⟨request, rfl, (Option.some.inj acted).symm⟩
  | move place move =>
    simp only [act] at acted
    split at acted
    next => cases acted
    next enterable =>
      split at acted
      next => cases acted
      next job here =>
        obtain ⟨moved, ran, rfl⟩ := Option.map_eq_some_iff.1 acted
        refine .inr ⟨place, move, job, moved, rfl, ?_, here, ran, rfl⟩
        rintro rfl
        simpa using enterable

/-- What holds at any moment: every call is on its course, and the holder of the lock is the one call whose
worker is inside. -/
structure Sound (style : ParamStyle) (crew : Crew) : Prop where
  onCourse : ∀ job ∈ crew.jobs, job.OnCourse style
  holder_iff : ∀ place, crew.holder = some place ↔
    ∃ job, crew.jobs[place]? = some job ∧ job.stage.isInside = true

theorem sound_empty (style : ParamStyle) : Sound style {} where
  onCourse := List.forall_mem_nil _
  holder_iff := by
    intro place
    refine iff_of_false nofun ?_
    rintro ⟨job, here, -⟩
    cases here

theorem isInside_ofRequest (request : Request) : (Job.ofRequest request).stage.isInside = false := by
  cases starts : request.limit.starts <;> simp [Job.ofRequest, starts, Stage.isInside]

theorem holderAfter_of_ne {holder : Option Nat} {place : Nat} {move : Move} (stays : move ≠ .enter)
    (keeps : move ≠ .leave) : holderAfter holder place move = holder := by
  cases move with
  | enter => exact absurd rfl stays
  | leave => exact absurd rfl keeps
  | _ => rfl

/-- No action takes a call off its course, or lets two workers into the lock. -/
theorem Sound.act (sound : crew.Sound style) (acted : crew.act style action = some next) :
    next.Sound style := by
  obtain ⟨onCourse, holder_iff⟩ := sound
  rcases act_cases acted with ⟨request, rfl, rfl⟩ | ⟨place, move, job, moved, rfl, free, here, ran, rfl⟩
  · constructor
    · intro job member
      rcases List.mem_append.1 member with old | new
      · exact onCourse job old
      · exact List.mem_singleton.1 new ▸ Job.onCourse_ofRequest style request
    · intro place
      refine (holder_iff place).trans ?_
      rw [List.getElem?_append]
      split
      next => rfl
      next outside =>
        refine iff_of_false ?_ ?_
        · rintro ⟨job, here, -⟩
          exact outside (List.getElem?_eq_some_iff.1 here).1
        · rintro ⟨job, here, inside⟩
          have new := List.mem_singleton.1 (List.mem_of_getElem? here)
          rw [new, isInside_ofRequest] at inside
          cases inside
  · constructor
    · intro other member
      rcases List.mem_or_eq_of_mem_set member with old | rfl
      · exact onCourse other old
      · exact (onCourse job (List.mem_of_getElem? here)).preserved ran
    · intro other
      have held := holder_iff place
      simp only [here, Option.some.injEq, exists_eq_left'] at held
      by_cases same : place = other
      · subst same
        have placed : (crew.jobs.set place moved)[place]? = some moved :=
          List.getElem?_set_self (List.getElem?_eq_some_iff.1 here).1
        simp only [placed, Option.some.injEq, exists_eq_left']
        rcases Job.isInside_move? ran with ⟨rfl, -, inside⟩ | ⟨rfl, -, outside⟩ | ⟨stays, keeps, unmoved⟩
        · exact iff_of_true rfl inside
        · exact iff_of_false nofun (by simp [outside])
        · rw [holderAfter_of_ne stays keeps, held, unmoved]
      · rw [List.getElem?_set_ne same, ← holder_iff other]
        rcases Job.isInside_move? ran with ⟨rfl, -, -⟩ | ⟨rfl, inside, -⟩ | ⟨stays, keeps, -⟩
        · rw [free rfl]
          exact iff_of_false (fun taken => same (Option.some.inj taken)) nofun
        · rw [held.2 inside]
          exact iff_of_false nofun fun taken => same (Option.some.inj taken)
        · rw [holderAfter_of_ne stays keeps]

theorem Sound.follow (sound : crew.Sound style) (followed : crew.follow style schedule = some last) :
    last.Sound style := by
  induction schedule generalizing crew with
  | nil =>
    cases followed
    exact sound
  | cons action rest ih =>
    obtain ⟨next, acted, followed⟩ := Option.bind_eq_some_iff.1 followed
    exact ih (sound.act acted) followed

end Crew

/-- A call on its own sends all that it sends at most, or nothing if it does not get a cursor. -/
theorem Request.events_alone (style : ParamStyle) (request : Request)
    (starts : request.limit.starts = true) :
    (request.alone style).1 =
      match (request.answered style).opened with
      | .ok () => request.sends style
      | .error _ => [] := by
  rw [alone_eq, if_pos starts, Adapter.runBlocking]
  cases (request.answered style).opened with
  | error failure => rfl
  | ok =>
    dsimp only
    unfold Adapter.closing
    split <;> rfl

section Course

variable {style : ParamStyle} {job : Job} {outcome : Except Failure RawResult}

/-- A worker that has ended has done what its call does alone. -/
theorem Job.OnCourse.eq_alone (onCourse : job.OnCourse style) (stage : job.stage = .ended outcome) :
    job.request.limit.starts = true ∧ (job.events, outcome) = job.request.alone style := by
  obtain ⟨starts, course⟩ := onCourse.course_eq (by simp [stage])
  refine ⟨starts, ?_⟩
  rw [← course, Job.course, stage]
  simp [Stage.ahead]

/-- What a worker has sent is the beginning of what its call sends at most. -/
theorem Job.OnCourse.isPrefix_sends (onCourse : job.OnCourse style) :
    job.events <+: job.request.sends style := by
  by_cases stage : job.stage = .dropped
  · rw [onCourse.unsent (.inr stage)]
    exact List.nil_prefix
  · obtain ⟨starts, course⟩ := onCourse.course_eq stage
    have whole := (Prod.ext_iff.1 course).1
    rw [Request.events_alone style _ starts] at whole
    split at whole
    · exact ⟨_, whole⟩
    · rw [(List.append_eq_nil_iff.1 whole).1]
      exact List.nil_prefix

/-- The driver explains the outcome of a worker that has ended. -/
theorem Job.OnCourse.explains (onCourse : job.OnCourse style) (stage : job.stage = .ended outcome) :
    (job.request.answered style).Explains outcome := by
  obtain ⟨starts, alone⟩ := onCourse.eq_alone stage
  rw [Request.alone_eq, if_pos starts] at alone
  have explained := Adapter.runBlocking_explained (job.request.answered style)
    (job.request.statement style) job.request.params
  rwa [← alone] at explained

/-- A worker that has ended has sent its statement and closed its cursor, if it got one. -/
theorem Job.OnCourse.events_eq_sends (onCourse : job.OnCourse style)
    (stage : job.stage = .ended outcome) (opened : (job.request.answered style).opened = .ok ()) :
    job.events = job.request.sends style := by
  obtain ⟨starts, alone⟩ := onCourse.eq_alone stage
  have whole := (Prod.ext_iff.1 alone).1
  rwa [Request.events_alone style _ starts, opened] at whole

/-- The caller of a worker inside the lock waits, or its time was up. -/
theorem Job.OnCourse.elapsed_of_isInside (onCourse : job.OnCourse style)
    (inside : job.stage.isInside = true) : ∀ reply ∈ job.reply,
      reply = .error .elapsed ∧ job.request.limit ≠ .unlimited := by
  intro reply member
  refine (onCourse.replied reply member).resolve_right fun finished => ?_
  rw [finished] at inside
  cases inside

end Course

theorem Stage.isOver_of_isInside {stage : Stage} (inside : stage.isInside = true) :
    stage.isOver = false := by
  cases stage <;> first | rfl | cases inside

theorem Stage.turns_pos {stage : Stage} (inside : stage.isInside = true) : 0 < stage.turns := by
  cases stage <;> simp [isInside, turns] at inside ⊢

/-- A worker inside the lock goes on with its cursor, whatever the driver answers, until it leaves. -/
theorem Stage.exists_next? (answers : CursorAnswers) (sql : String) (params : List Value) {stage : Stage}
    (inside : stage.isInside = true) :
    (∃ outcome, stage = .leaving outcome) ∨
      ∃ after events, stage.next? answers sql params = some (after, events) ∧
        after.turns < stage.turns := by
  cases stage with
  | opening =>
    cases opened : answers.opened with
    | error failure =>
      exact .inr ⟨.leaving (.error failure), [], by simp [next?, opened], by simp [turns]⟩
    | ok => exact .inr ⟨.executing, [], by simp [next?, opened], by simp [turns]⟩
  | executing =>
    cases executed : answers.executed with
    | error failure =>
      exact .inr ⟨.closing (.error failure), _, by simp [next?, executed]; rfl, by simp [turns]⟩
    | ok => exact .inr ⟨.reading, _, by simp [next?, executed]; rfl, by simp [turns]⟩
  | reading => exact .inr ⟨.closing (Adapter.tupleRows answers), [], rfl, by simp [turns]⟩
  | closing outcome =>
    cases closed : answers.closed with
    | error failure =>
      exact .inr ⟨.leaving (.error failure), _, by simp [next?, closed]; rfl, by simp [turns]⟩
    | ok => exact .inr ⟨.leaving outcome, _, by simp [next?, closed]; rfl, by simp [turns]⟩
  | leaving outcome => exact .inl ⟨outcome, rfl⟩
  | _ => cases inside

/-- The worker that holds the lock leaves it by its own steps. -/
theorem Crew.exists_leave (style : ParamStyle) {place : Nat} (left : Nat) {crew : Crew} {job : Job}
    (held : crew.holder = some place) (here : crew.jobs[place]? = some job)
    (inside : job.stage.isInside = true) (few : job.stage.turns ≤ left) :
    ∃ moves : List Move, moves.length ≤ left ∧
      ∃ last, crew.follow style (moves.map (.move place)) = some last ∧ last.holder = none := by
  induction left generalizing crew job with
  | zero =>
    exact absurd few (Nat.not_le.2 (Stage.turns_pos inside))
  | succ left ih =>
    have going (move : Move) (stays : move ≠ .enter) (next : Job)
        (moved : job.move? style move = some next) : crew.act style (.move place move) =
          some ⟨holderAfter crew.holder place move, crew.jobs.set place next⟩ := by
      rw [act, if_neg (by simp [stays]), here]
      simp only [moved, Option.map_some]
    rcases Stage.exists_next? (job.request.answered style) (job.request.statement style)
      job.request.params inside with ⟨outcome, leaving⟩ | ⟨after, events, ran, fewer⟩
    · have left_lock := going .leave nofun _ (by rw [Job.move?, leaving])
      refine ⟨[.leave], by simp, ⟨none, crew.jobs.set place { job with stage := .ended outcome }⟩, ?_, rfl⟩
      rw [List.map_singleton, follow, left_lock]
      rfl
    · let next : Job := { job with stage := after, events := job.events ++ events }
      have moved : job.move? style .run = some next := by
        rw [Job.move?, ran]
        rfl
      have placed : (crew.jobs.set place next)[place]? = some next :=
        List.getElem?_set_self (List.getElem?_eq_some_iff.1 here).1
      obtain ⟨moves, short, last, followed, free⟩ :=
        @ih ⟨crew.holder, crew.jobs.set place next⟩ next held placed (Job.isInside_of_next? ran).2
          (Nat.le_of_lt_succ (Nat.lt_of_lt_of_le fewer few))
      refine ⟨.run :: moves, by simpa using short, last, ?_, free⟩
      rw [List.map_cons, follow, going .run nofun _ moved]
      exact followed

/-- What holds of the calls on a shared connection at any moment. A call sends its statement at most once,
and closes its cursor at most once, after that. A worker that has ended has done what its call does alone,
with an outcome that the driver explains, and has closed its cursor if it got one; a call that is given up
has sent nothing. The reply to a caller is the outcome of the worker, or the time of the caller was up. The
lock is held by the one worker inside, whose caller waits or has run out of time. This worker leaves it in at
most five steps of its own, and the lock is free when all workers have ended or are given up. -/
structure Crew.Tidy (style : ParamStyle) (crew : Crew) : Prop where
  sends_once : ∀ job ∈ crew.jobs, job.events <+: job.request.sends style
  ended : ∀ job ∈ crew.jobs, ∀ outcome, job.stage = .ended outcome →
    (job.events, outcome) = job.request.alone style ∧ (job.request.answered style).Explains outcome
  closed : ∀ job ∈ crew.jobs, ∀ outcome, job.stage = .ended outcome →
    (job.request.answered style).opened = .ok () → job.events = job.request.sends style
  dropped : ∀ job ∈ crew.jobs, job.stage = .dropped → job.events = []
  replied : ∀ job ∈ crew.jobs, ∀ reply ∈ job.reply,
    (reply = .error .elapsed ∧ job.request.limit ≠ .unlimited) ∨ job.stage = .ended reply
  holder_iff : ∀ place, crew.holder = some place ↔
    ∃ job, crew.jobs[place]? = some job ∧ job.stage.isInside = true
  owed : ∀ place ∈ crew.holder, ∀ job, crew.jobs[place]? = some job →
    ∀ reply ∈ job.reply, reply = .error .elapsed ∧ job.request.limit ≠ .unlimited
  leaves : ∀ place ∈ crew.holder, ∃ moves : List Move, moves.length ≤ 5 ∧
    ∃ last, crew.follow style (moves.map (.move place)) = some last ∧ last.holder = none
  free : (∀ job ∈ crew.jobs, job.stage.isOver = true) → crew.holder = none

/-- However workers and callers move, and whatever the driver raises, the calls on a connection are tidy. -/
theorem Crew.tidy_of_follow {style : ParamStyle} {schedule : List CrewAction} {crew : Crew}
    (followed : Crew.follow style {} schedule = some crew) : crew.Tidy style := by
  obtain ⟨onCourse, holder_iff⟩ := (sound_empty style).follow followed
  constructor
  case sends_once => exact fun job member => (onCourse job member).isPrefix_sends
  case ended =>
    intro job member outcome stage
    exact ⟨((onCourse job member).eq_alone stage).2, (onCourse job member).explains stage⟩
  case closed =>
    intro job member outcome stage opened
    exact (onCourse job member).events_eq_sends stage opened
  case dropped => exact fun job member stage => (onCourse job member).unsent (.inr stage)
  case replied => exact fun job member => (onCourse job member).replied
  case holder_iff => exact holder_iff
  case owed =>
    intro place held job here
    obtain ⟨other, there, inside⟩ := (holder_iff place).1 held
    obtain rfl : job = other := Option.some.inj (here.symm.trans there)
    exact (onCourse job (List.mem_of_getElem? here)).elapsed_of_isInside inside
  case leaves =>
    intro place held
    obtain ⟨job, here, inside⟩ := (holder_iff place).1 held
    refine exists_leave style 5 held here inside ?_
    cases job.stage <;> simp [Stage.turns]
  case free =>
    intro all_over
    refine Option.eq_none_iff_forall_not_mem.2 fun place held => ?_
    obtain ⟨job, here, inside⟩ := (holder_iff place).1 held
    have finished := all_over job (List.mem_of_getElem? here)
    rw [Stage.isOver_of_isInside inside] at finished
    cases finished

/-- A call with a second of time, on a driver that has one row for it. -/
def shortRequest : Request where
  call := { sql := "SELECT a FROM t", timeout := some (.whole 1) }
  answers := fun _ _ => { columns := some ["a"], fetched := .ok [.tuple [.int 1]] }

/-- The time of the first caller is up when its statement has been executed, and the time of the second
one while its worker waits for the lock. -/
def lateSchedule : List CrewAction :=
  [.call shortRequest, .move 0 .start, .move 0 .enter, .move 0 .run, .move 0 .run, .move 0 .elapse,
    .call shortRequest, .move 1 .start, .move 1 .elapse]

/-- Where the calls are then. -/
def lateCrew : Crew where
  holder := some 0
  jobs :=
    [{ request := shortRequest, stage := .reading, events := [.execute "SELECT a FROM t" (some [])]
       reply := some (.error .elapsed) },
     { request := shortRequest, stage := .waiting, reply := some (.error .elapsed) }]

theorem follow_lateSchedule : Crew.follow .questionMark {} lateSchedule = some lateCrew := rfl

/-- The worker whose caller has gone away leaves the lock all the same. -/
theorem Crew.tidy_lateCrew :
    Crew.follow .questionMark {} lateSchedule = some lateCrew ∧ lateCrew.Tidy .questionMark ∧
      ∃ moves : List Move, moves.length ≤ 5 ∧
        ∃ last, lateCrew.follow .questionMark (moves.map (.move 0)) = some last ∧
          last.holder = none := by
  have tidy := Crew.tidy_of_follow follow_lateSchedule
  exact ⟨follow_lateSchedule, tidy, tidy.leaves 0 rfl⟩

/-- After its caller has gone away, a worker may still hold the lock and have an open cursor, so that the
next call runs out of time without a statement. And a row that is a number fails, though the driver raises
nothing and no time is up. -/
theorem Crew.untidy_lateCrew :
    (∃ crew, Crew.follow .questionMark {} lateSchedule = some crew ∧
      crew.holder = some 0 ∧
      crew.jobs.map Job.reply = [some (.error .elapsed), some (.error .elapsed)] ∧
      crew.jobs.map Job.events = [[.execute "SELECT a FROM t" (some [])], []]) ∧
    ((Adapter.blocking .questionMark).execute
        (fun _ _ => { columns := some ["a"], fetched := .ok [.int 5] })
        { sql := "SELECT a FROM t" }).2 =
      ([.execute "SELECT a FROM t" (some []), .closeCursor],
        .error (.ofMessage .wrongType "'int' object is not iterable")) :=
  ⟨⟨lateCrew, follow_lateSchedule, rfl, rfl, rfl⟩, rfl⟩

end QueryDesk
