/-
Module: QueryDesk.Proofs.Catalog.Schedule
Purpose: Schedules of a pool. Whatever the order in which tasks take slots, get their answers and end,
  a pool in which no task can go on holds the outcomes that the traces of its tasks promised; and the
  run by the clock is one of these schedules, the same for every deadline that it ends before.
Imports: QueryDesk.Proofs.Catalog.Answers, QueryDesk.Proofs.Catalog.Slots
Main exports: TaskState.promise, Action.Continues, Pool.follow, Pool.Stuck, Pool.length_of_follow,
  Pool.tasks_of_follow, Pool.exists_follow_runFor, Pool.stuck_runFor, Pool.tasks_of_runUntil,
  Pool.Timely, Pool.runFor_of_endsBefore
-/
import QueryDesk.Proofs.Catalog.Answers
import QueryDesk.Proofs.Catalog.Slots

namespace QueryDesk.Catalog

variable {α : Type}

/-- The outcome that a task has or will have, absent for one that was cancelled. -/
def TaskState.promise : TaskState α → Option (Except Failure α)
  | .created trace => some trace.outcome
  | .waiting trace => some trace.outcome
  | .woken trace => some trace.outcome
  | .running _ trace => some trace.outcome
  | .finished outcome => some outcome
  | .cancelled => none

/-- The state of a task that has ended as promised. -/
def TaskState.ofPromise : Option (Except Failure α) → TaskState α
  | some outcome => .finished outcome
  | none => .cancelled

/-- An action with which a task goes on. -/
def Action.Continues (action : Action) : Prop :=
  ∀ task, action ≠ .cancel task

namespace Pool

/-- The pool after so many actions, each at its moment, if all of them are possible. -/
def follow (pool : Pool α) : List (Rat × Action) → Option (Pool α)
  | [] => some pool
  | (now, action) :: rest =>
    match pool.act now action with
    | some next => next.follow rest
    | none => none

/-- A pool in which no task can go on. -/
def Stuck (pool : Pool α) : Prop :=
  ∀ (now : Rat) (action : Action), action.Continues → pool.act now action = none

variable {pool next last : Pool α} {now moment : Rat} {task slots : Nat} {action : Action}
  {schedule : List (Rat × Action)}

/-! ### Promised outcomes

What a task will end with is fixed by its trace, which was made from the answers before the pool began to
run. An action moves a task along its trace and keeps the promise; at the end nothing but the promises is
left. -/

theorem promises_release (pool : Pool α) :
    pool.release.tasks.map TaskState.promise = pool.tasks.map TaskState.promise := by
  unfold release
  split
  next => rfl
  next first rest _ =>
    split
    next trace here => exact map_set_of_eq TaskState.promise here rfl
    next => rfl

theorem promises_proceed {old : TaskState α} {trace : Trace α} (here : pool.tasks[task]? = some old)
    (same : old.promise = some trace.outcome) :
    (pool.proceed now task trace).tasks.map TaskState.promise =
      pool.tasks.map TaskState.promise := by
  unfold proceed
  split
  next =>
    rw [promises_release]
    exact map_set_of_eq TaskState.promise here same.symm
  next => exact map_set_of_eq TaskState.promise here same.symm

theorem promises_arrive {trace : Trace α} (here : pool.tasks[task]? = some (.created trace)) :
    (pool.arrive now task trace).tasks.map TaskState.promise =
      pool.tasks.map TaskState.promise := by
  unfold arrive
  split
  next => exact @promises_proceed _ { pool with free := pool.free - 1 } _ _ _ _ here rfl
  next => exact map_set_of_eq TaskState.promise here rfl

/-- A task that goes on changes no promised outcome. -/
theorem promises_act (continues : action.Continues) (acted : pool.act now action = some next) :
    next.tasks.map TaskState.promise = pool.tasks.map TaskState.promise := by
  rcases act_cases acted with ⟨task, trace, -, here, rfl⟩ | ⟨task, trace, -, here, rfl⟩ |
    ⟨task, wake, trace, -, here, rfl⟩ | ⟨task, rfl, -⟩
  · exact promises_arrive here
  · exact promises_proceed here rfl
  · exact promises_proceed here rfl
  · exact absurd rfl (continues task)

@[simp] theorem workLeft_finished (outcome : Except Failure α) :
    workLeft (.finished outcome) = 0 := rfl

@[simp] theorem workLeft_running (wake : Rat) (trace : Trace α) :
    workLeft (.running wake trace) = trace.legs.length + 1 := rfl

theorem work_release (pool : Pool α) :
    total workLeft pool.release.tasks = total workLeft pool.tasks := by
  unfold release
  split
  next => rfl
  next first rest _ =>
    split
    next trace here => exact Nat.add_right_cancel (total_set workLeft here (.woken trace))
    next => rfl

theorem work_proceed {old : TaskState α} {trace : Trace α} (here : pool.tasks[task]? = some old)
    (more : trace.legs.length < workLeft old) :
    total workLeft (pool.proceed now task trace).tasks < total workLeft pool.tasks := by
  unfold proceed
  split
  next =>
    have changed := total_set workLeft here (.finished trace.outcome)
    rw [work_release]
    change total workLeft (pool.tasks.set task (.finished trace.outcome)) < _
    rw [workLeft_finished] at changed
    omega
  next leg rest legs =>
    have changed := total_set workLeft here (.running (now + leg.delay) { trace with legs := rest })
    change total workLeft (pool.tasks.set task _) < _
    rw [workLeft_running] at changed
    rw [legs, List.length_cons] at more
    dsimp only at changed
    omega

theorem work_arrive {trace : Trace α} (here : pool.tasks[task]? = some (.created trace)) :
    total workLeft (pool.arrive now task trace).tasks < total workLeft pool.tasks := by
  unfold arrive
  split
  next =>
    exact @work_proceed _ { pool with free := pool.free - 1 } _ _ _ _ here
      (Nat.lt_add_of_pos_right Nat.two_pos)
  next =>
    have changed := total_set workLeft here (.waiting trace)
    change total workLeft (pool.tasks.set task (.waiting trace)) < _
    simp only [workLeft] at changed
    omega

/-- Every action with which a task goes on takes away from the work that is left. -/
theorem work_act (continues : action.Continues) (acted : pool.act now action = some next) :
    total workLeft next.tasks < total workLeft pool.tasks := by
  rcases act_cases acted with ⟨task, trace, -, here, rfl⟩ | ⟨task, trace, -, here, rfl⟩ |
    ⟨task, wake, trace, -, here, rfl⟩ | ⟨task, rfl, -⟩
  · exact work_arrive here
  · exact work_proceed here (Nat.lt_succ_self _)
  · exact work_proceed here (Nat.lt_succ_self _)
  · exact absurd rfl (continues task)

/-- In a sound pool with a slot in which no task can go on, every task has ended or was cancelled. -/
theorem Stuck.ended {state : TaskState α} (stuck : pool.Stuck) (sound : pool.Sound slots 0)
    (enough : 1 ≤ slots) (member : state ∈ pool.tasks) :
    (∃ outcome, state = .finished outcome) ∨ state = .cancelled := by
  have not_woken : ∀ (task : Nat) (trace : Trace α), pool.tasks[task]? ≠ some (.woken trace) := by
    intro task trace here
    have acted := stuck 0 (.enter task) (by simp [Action.Continues])
    simp [act, here] at acted
  have not_running : ∀ (task : Nat) (wake : Rat) (trace : Trace α),
      pool.tasks[task]? ≠ some (.running wake trace) := by
    intro task wake trace here
    have acted := stuck 0 (.resume task) (by simp [Action.Continues])
    simp [act, here] at acted
  have idle : total slotsHeld pool.tasks = 0 := by
    refine List.sum_eq_zero fun held inside => ?_
    obtain ⟨other, among, rfl⟩ := List.mem_map.1 inside
    obtain ⟨task, here⟩ := List.mem_iff_getElem?.1 among
    cases other with
    | woken trace => exact absurd here (not_woken task trace)
    | running wake trace => exact absurd here (not_running task wake trace)
    | _ => rfl
  obtain ⟨task, here⟩ := List.mem_iff_getElem?.1 member
  cases state with
  | created trace =>
    have acted := stuck 0 (.arrive task) (by simp [Action.Continues])
    simp [act, here] at acted
  | waiting trace => exact absurd here (sound.not_waiting enough idle)
  | woken trace => exact absurd here (not_woken task trace)
  | running wake trace => exact absurd here (not_running task wake trace)
  | finished outcome => exact .inl ⟨outcome, rfl⟩
  | cancelled => exact .inr rfl

theorem follow_cons {step : Rat × Action} (followed : pool.follow (step :: schedule) = some last) :
    ∃ next, pool.act step.1 step.2 = some next ∧ next.follow schedule = some last := by
  simp only [follow] at followed
  split at followed
  next next acted => exact ⟨next, acted, followed⟩
  next => cases followed

theorem sound_follow (sound : pool.Sound slots 0) (followed : pool.follow schedule = some last) :
    last.Sound slots 0 := by
  induction schedule generalizing pool with
  | nil =>
    cases followed
    exact sound
  | cons step rest ih =>
    obtain ⟨next, acted, followed⟩ := follow_cons followed
    exact ih (sound_act sound acted) followed

theorem length_follow (followed : pool.follow schedule = some last) :
    last.tasks.length = pool.tasks.length := by
  induction schedule generalizing pool with
  | nil =>
    cases followed
    rfl
  | cons step rest ih =>
    obtain ⟨next, acted, followed⟩ := follow_cons followed
    rw [ih followed, length_act acted]

theorem length_of_follow {traces : List (Trace α)}
    (followed : (ofTraces slots traces).follow schedule = some last) :
    last.tasks.length = traces.length :=
  (length_follow followed).trans (List.length_map _)

theorem promises_follow (continues : ∀ step ∈ schedule, step.2.Continues)
    (followed : pool.follow schedule = some last) :
    last.tasks.map TaskState.promise = pool.tasks.map TaskState.promise := by
  induction schedule generalizing pool with
  | nil =>
    cases followed
    rfl
  | cons step rest ih =>
    obtain ⟨next, acted, followed⟩ := follow_cons followed
    rw [ih (fun other member => continues other (List.mem_cons_of_mem step member)) followed,
      promises_act (continues step List.mem_cons_self) acted]

/-- A schedule is never longer than the work that there is. -/
theorem length_le_of_follow (continues : ∀ step ∈ schedule, step.2.Continues)
    (followed : pool.follow schedule = some last) :
    schedule.length + total workLeft last.tasks ≤ total workLeft pool.tasks := by
  induction schedule generalizing pool with
  | nil =>
    cases followed
    exact Nat.le_of_eq (Nat.zero_add _)
  | cons step rest ih =>
    obtain ⟨next, acted, followed⟩ := follow_cons followed
    have others := ih (fun other member => continues other (List.mem_cons_of_mem step member)) followed
    have first := work_act (continues step List.mem_cons_self) acted
    rw [List.length_cons]
    omega

/-- At the end of every schedule of a pool with a slot, every task has ended with the outcome of its
trace. -/
theorem tasks_of_follow {traces : List (Trace α)} (enough : 1 ≤ slots)
    (continues : ∀ step ∈ schedule, step.2.Continues)
    (followed : (ofTraces slots traces).follow schedule = some last) (stuck : last.Stuck) :
    last.tasks = traces.map fun trace => .finished trace.outcome := by
  have sound := sound_follow (sound_ofTraces slots traces) followed
  have kept : ∀ state ∈ last.tasks, TaskState.ofPromise state.promise = state := by
    intro state member
    rcases stuck.ended sound enough member with ⟨outcome, rfl⟩ | rfl
    · rfl
    · rfl
  calc last.tasks
      = last.tasks.map fun state => .ofPromise state.promise := by
        rw [List.map_congr_left kept, List.map_id']
    _ = (last.tasks.map TaskState.promise).map .ofPromise := by
        rw [List.map_map]
        rfl
    _ = ((ofTraces slots traces).tasks.map TaskState.promise).map .ofPromise := by
        rw [promises_follow continues followed]
    _ = traces.map fun trace => .finished trace.outcome := by
        rw [ofTraces, List.map_map, List.map_map]
        rfl

theorem pending_of_tasks_eq {traces : List (Trace α)}
    (ended : pool.tasks = traces.map fun trace => .finished trace.outcome) : pool.pending = 0 := by
  rw [pending, ended, List.length_eq_zero_iff, List.filter_eq_nil_iff]
  intro state member
  obtain ⟨trace, -, rfl⟩ := List.mem_map.1 member
  simp [isFinished]

theorem results_of_tasks_eq {traces : List (Trace α)}
    (ended : pool.tasks = traces.map fun trace => .finished trace.outcome) :
    pool.results = (traces.map Trace.outcome).filterMap Except.toOption := by
  rw [results, ended, List.filterMap_map, List.filterMap_map]
  refine List.filterMap_congr fun trace _ => ?_
  cases outcome : trace.outcome <;> simp [outcome, Except.toOption]

/-! ### The run by the clock

The clock is one way to choose the next action. It always finds one if some task can go on, so that its run
is a schedule that ends in a pool where none can, and all that holds of schedules holds of it. -/

theorem exists_running_of_wake? {state : TaskState α} {wake : Rat} (awaited : wake? state = some wake) :
    ∃ trace, state = .running wake trace := by
  cases state with
  | running other trace =>
    cases awaited
    exact ⟨trace, rfl⟩
  | _ => cases awaited

theorem earliestFrom_eq_none_iff {tasks : List (TaskState α)} {first : Nat} :
    earliestFrom first tasks = none ↔ ∀ state ∈ tasks, wake? state = none := by
  induction tasks generalizing first with
  | nil => simp [earliestFrom]
  | cons state rest ih =>
    rw [List.forall_mem_cons, ← @ih (first + 1), earliestFrom]
    split
    next wake later other here others => simp [here, others]; split <;> simp
    next wake here others => simp [here]
    next found here => simp [here]

/-- The earliest wake is that of a running task, and no task wakes before it. -/
theorem earliestFrom_spec {tasks : List (TaskState α)} {first : Nat} {wake : Rat}
    (found : earliestFrom first tasks = some (task, wake)) :
    (∃ index trace, task = first + index ∧ tasks[index]? = some (.running wake trace)) ∧
      ∀ state ∈ tasks, ∀ other, wake? state = some other → wake ≤ other := by
  induction tasks generalizing first task wake with
  | nil => cases found
  | cons state rest ih =>
    have shifted : ∀ {later : Nat} {other : Rat},
        (∃ index trace, later = first + 1 + index ∧ rest[index]? = some (.running other trace)) →
        ∃ index trace, later = first + index ∧ (state :: rest)[index]? = some (.running other trace) := by
      rintro later other ⟨index, trace, rfl, here⟩
      exact ⟨index + 1, trace, by omega, here⟩
    rw [earliestFrom] at found
    split at found
    next own later other here others =>
      obtain ⟨running, least⟩ := ih others
      split at found
      next before =>
        cases found
        refine ⟨shifted running, List.forall_mem_cons.2 ⟨?_, least⟩⟩
        intro other same
        rw [here] at same
        cases same
        exact before.le
      next after =>
        cases found
        obtain ⟨trace, rfl⟩ := exists_running_of_wake? here
        refine ⟨⟨0, trace, rfl, rfl⟩, List.forall_mem_cons.2 ⟨?_, ?_⟩⟩
        · rintro _ ⟨⟩
          exact Rat.le_refl
        · intro state member moment awaited
          exact (not_lt.1 after).trans (least state member moment awaited)
    next own here others =>
      cases found
      obtain ⟨trace, rfl⟩ := exists_running_of_wake? here
      refine ⟨⟨0, trace, rfl, rfl⟩, List.forall_mem_cons.2 ⟨?_, ?_⟩⟩
      · rintro _ ⟨⟩
        exact Rat.le_refl
      · intro state member moment awaited
        rw [earliestFrom_eq_none_iff.1 others state member] at awaited
        cases awaited
    next others here =>
      obtain ⟨running, least⟩ := ih found
      refine ⟨shifted running, List.forall_mem_cons.2 ⟨?_, least⟩⟩
      intro other awaited
      rw [here] at awaited
      cases awaited

/-- What the clock chooses: a task that goes on at once, or the task with the earliest wake. -/
theorem nextAction_cases (chosen : pool.nextAction now = some (moment, action)) :
    (∃ task trace, moment = now ∧ action = .arrive task ∧
      pool.tasks[task]? = some (.created trace)) ∨
    (∃ task trace, moment = now ∧ action = .enter task ∧
      pool.tasks[task]? = some (.woken trace)) ∨
    (∃ task trace, action = .resume task ∧ pool.tasks[task]? = some (.running moment trace) ∧
      ∀ state ∈ pool.tasks, ∀ wake, wake? state = some wake → moment ≤ wake) := by
  unfold nextAction at chosen
  split at chosen
  next task found =>
    cases chosen
    obtain ⟨inside, created, -⟩ := List.findIdx?_eq_some_iff_getElem.1 found
    obtain ⟨trace, here⟩ : ∃ trace, pool.tasks[task] = .created trace := by
      cases state : pool.tasks[task] with
      | created trace => exact ⟨trace, rfl⟩
      | _ => simp [state, isCreated] at created
    exact .inl ⟨task, trace, rfl, rfl, List.getElem?_eq_some_iff.2 ⟨inside, here⟩⟩
  next =>
    split at chosen
    next task found =>
      cases chosen
      obtain ⟨inside, woken, -⟩ := List.findIdx?_eq_some_iff_getElem.1 found
      obtain ⟨trace, here⟩ : ∃ trace, pool.tasks[task] = .woken trace := by
        cases state : pool.tasks[task] with
        | woken trace => exact ⟨trace, rfl⟩
        | _ => simp [state, isWoken] at woken
      exact .inr (.inl ⟨task, trace, rfl, rfl, List.getElem?_eq_some_iff.2 ⟨inside, here⟩⟩)
    next =>
      obtain ⟨⟨task, wake⟩, earliest, same⟩ := Option.map_eq_some_iff.1 chosen
      cases same
      obtain ⟨⟨index, trace, rfl, here⟩, least⟩ := earliestFrom_spec earliest
      rw [Nat.zero_add]
      exact .inr (.inr ⟨index, trace, rfl, here, least⟩)

/-- The clock chooses an action with which a task can go on. -/
theorem acts_of_nextAction (chosen : pool.nextAction now = some (moment, action)) :
    action.Continues ∧ ∃ next, pool.act moment action = some next := by
  rcases nextAction_cases chosen with ⟨task, trace, rfl, rfl, here⟩ | ⟨task, trace, rfl, rfl, here⟩ |
    ⟨task, trace, rfl, here, -⟩
  · exact ⟨by simp [Action.Continues], pool.arrive moment task trace, by simp only [act, here]⟩
  · exact ⟨by simp [Action.Continues], pool.proceed moment task trace, by simp only [act, here]⟩
  · exact ⟨by simp [Action.Continues], pool.proceed moment task trace, by simp only [act, here]⟩

/-- Where the clock finds nothing to do, no task can go on. -/
theorem stuck_of_nextAction (stopped : pool.nextAction now = none) : pool.Stuck := by
  unfold nextAction at stopped
  split at stopped
  next => cases stopped
  next none_created =>
    split at stopped
    next => cases stopped
    next none_woken =>
      have none_running := earliestFrom_eq_none_iff.1 (Option.map_eq_none_iff.1 stopped)
      intro moment action continues
      refine Option.eq_none_iff_forall_ne_some.2 fun next acted => ?_
      rcases act_cases acted with ⟨task, trace, -, here, -⟩ | ⟨task, trace, -, here, -⟩ |
        ⟨task, wake, trace, -, here, -⟩ | ⟨task, same, -⟩
      · have created := List.findIdx?_eq_none_iff.1 none_created _ (List.mem_of_getElem? here)
        cases created
      · have woken := List.findIdx?_eq_none_iff.1 none_woken _ (List.mem_of_getElem? here)
        cases woken
      · have running := none_running _ (List.mem_of_getElem? here)
        cases running
      · exact continues task same

/-- A run is a schedule. -/
theorem exists_follow_runFor (deadline : Option Rat) (fuel : Nat) (now : Rat) (pool : Pool α) :
    ∃ schedule : List (Rat × Action), (∀ step ∈ schedule, step.2.Continues) ∧
      pool.follow schedule = some (runFor deadline fuel now pool).2 := by
  induction fuel generalizing now pool with
  | zero => exact ⟨[], by simp, rfl⟩
  | succ fuel ih =>
    rw [runFor]
    split
    next => exact ⟨[], by simp, rfl⟩
    next moment action chosen =>
      split
      next => exact ⟨[], by simp, rfl⟩
      next =>
        obtain ⟨continues, next, acted⟩ := acts_of_nextAction chosen
        obtain ⟨schedule, others, followed⟩ := ih moment next
        rw [acted]
        refine ⟨(moment, action) :: schedule, List.forall_mem_cons.2 ⟨continues, others⟩, ?_⟩
        simp only [follow, acted, followed]

/-- One action of a run that comes before the deadline. -/
theorem runFor_of_acts {deadline : Option Rat} {fuel : Nat}
    (chosen : pool.nextAction now = some (moment, action)) (before : isBefore moment deadline = true)
    (acted : pool.act moment action = some next) :
    runFor deadline (fuel + 1) now pool = runFor deadline fuel moment next := by
  simp only [runFor, chosen, before, acted, Bool.not_true, Bool.and_false, Bool.false_eq_true,
    if_false]

/-- Without a deadline, a run with enough fuel stops only when no task can go on. -/
theorem stuck_runFor {fuel : Nat} (enough : total workLeft pool.tasks ≤ fuel) :
    (runFor none fuel now pool).2.Stuck := by
  induction fuel generalizing now pool with
  | zero =>
    change pool.Stuck
    refine @stuck_of_nextAction _ _ now (Option.eq_none_iff_forall_ne_some.2 ?_)
    rintro ⟨moment, action⟩ chosen
    obtain ⟨continues, next, acted⟩ := acts_of_nextAction chosen
    have less := work_act continues acted
    omega
  | succ fuel ih =>
    cases chosen : pool.nextAction now with
    | none =>
      rw [runFor, chosen]
      exact stuck_of_nextAction chosen
    | some choice =>
      obtain ⟨continues, next, acted⟩ := acts_of_nextAction chosen
      have less := work_act continues acted
      rw [runFor_of_acts chosen rfl acted]
      exact ih (by omega)

theorem runUntil_eq_runFor (deadline : Option Rat) (now : Rat) (pool : Pool α) :
    pool.runUntil deadline now = runFor deadline (total workLeft pool.tasks) now pool := by
  rw [runUntil, total, List.sum_eq_foldr, List.foldr_map]

/-- The endless run of a pool with a slot ends every task as its trace says. -/
theorem tasks_of_runUntil {traces : List (Trace α)} (enough : 1 ≤ slots) :
    ((ofTraces slots traces).runUntil none now).2.tasks =
      traces.map fun trace => .finished trace.outcome := by
  rw [runUntil_eq_runFor]
  obtain ⟨schedule, continues, followed⟩ := exists_follow_runFor none
    (total workLeft (ofTraces slots traces).tasks) now (ofTraces slots traces)
  exact tasks_of_follow enough continues followed (stuck_runFor (Nat.le_refl _))

/-! ### Deadlines

A deadline behind the end of a run must not change it. The moments of a run only grow, which holds because
nothing was due before the moment that a pool stands at, and every action keeps that. -/

/-- A state in which nothing was due before a moment, and in which every wait to come takes time. -/
def TimelyState (now : Rat) : TaskState α → Prop
  | .created trace => trace.Waits
  | .waiting trace => trace.Waits
  | .woken trace => trace.Waits
  | .running wake trace => now ≤ wake ∧ trace.Waits
  | .finished _ => True
  | .cancelled => True

/-- A pool in which nothing was due before a moment. -/
def Timely (now : Rat) (pool : Pool α) : Prop :=
  ∀ state ∈ pool.tasks, TimelyState now state

theorem timely_ofTraces (slots : Nat) {traces : List (Trace α)}
    (waits : ∀ trace ∈ traces, trace.Waits) : (ofTraces slots traces).Timely now := by
  intro state member
  obtain ⟨trace, inside, rfl⟩ := List.mem_map.1 member
  exact waits trace inside

theorem Timely.set (timely : pool.Timely now) (new : TaskState α) (here : TimelyState now new) :
    ∀ state ∈ pool.tasks.set task new, TimelyState now state := by
  intro state member
  rcases List.mem_or_eq_of_mem_set member with member | rfl
  · exact timely state member
  · exact here

theorem Timely.release (timely : pool.Timely now) : pool.release.Timely now := by
  unfold Pool.release
  split
  next => exact timely
  next first rest _ =>
    split
    next trace here =>
      have waits : trace.Waits := timely _ (List.mem_of_getElem? here)
      exact timely.set (.woken trace) waits
    next => exact timely

theorem Timely.proceed {trace : Trace α} (timely : pool.Timely now) (waits : trace.Waits) :
    (pool.proceed now task trace).Timely now := by
  unfold Pool.proceed
  split
  next =>
    refine Timely.release ?_
    exact timely.set (.finished trace.outcome) trivial
  next leg rest legs =>
    have slow : 0 < leg.delay := waits leg (legs ▸ List.mem_cons_self)
    refine timely.set (.running (now + leg.delay) { trace with legs := rest }) ⟨?_, ?_⟩
    · exact le_add_of_nonneg_right slow.le
    · exact fun other member => waits other (legs ▸ List.mem_cons_of_mem leg member)

theorem Timely.act (timely : pool.Timely now) (continues : action.Continues)
    (acted : pool.act now action = some next) : next.Timely now := by
  rcases act_cases acted with ⟨task, trace, -, here, rfl⟩ | ⟨task, trace, -, here, rfl⟩ |
    ⟨task, wake, trace, -, here, rfl⟩ | ⟨task, rfl, -⟩
  · have waits : trace.Waits := timely _ (List.mem_of_getElem? here)
    unfold Pool.arrive
    split
    next =>
      refine Timely.proceed ?_ waits
      exact timely
    next => exact timely.set (.waiting trace) waits
  · exact timely.proceed (timely _ (List.mem_of_getElem? here))
  · exact timely.proceed (timely _ (List.mem_of_getElem? here)).2
  · exact absurd rfl (continues task)

/-- The clock never goes back, and nothing is due before the moment that it chooses. -/
theorem Timely.nextAction (timely : pool.Timely now)
    (chosen : pool.nextAction now = some (moment, action)) : now ≤ moment ∧ pool.Timely moment := by
  rcases nextAction_cases chosen with ⟨task, trace, rfl, -, -⟩ | ⟨task, trace, rfl, -, -⟩ |
    ⟨task, trace, -, here, least⟩
  · exact ⟨le_refl _, timely⟩
  · exact ⟨le_refl _, timely⟩
  · refine ⟨(timely _ (List.mem_of_getElem? here)).1, fun state member => ?_⟩
    have before := timely state member
    cases state with
    | running wake trace => exact ⟨least _ member wake rfl, before.2⟩
    | _ => exact before

theorem Timely.le_runFor {deadline : Option Rat} {fuel : Nat} (timely : pool.Timely now) :
    now ≤ (runFor deadline fuel now pool).1 := by
  induction fuel generalizing now pool with
  | zero => exact le_refl _
  | succ fuel ih =>
    rw [runFor]
    split
    next => exact le_refl _
    next moment action chosen =>
      split
      next => exact le_refl _
      next =>
        obtain ⟨later, timely⟩ := timely.nextAction chosen
        obtain ⟨continues, next, acted⟩ := acts_of_nextAction chosen
        rw [acted]
        exact later.trans (ih (timely.act continues acted))

/-- A deadline after the end of a run does not change the run. -/
theorem runFor_of_endsBefore {deadline : Option Rat} {fuel : Nat} (timely : pool.Timely now)
    (ends : ∀ limit ∈ deadline, (runFor none fuel now pool).1 < limit) :
    runFor deadline fuel now pool = runFor none fuel now pool := by
  induction fuel generalizing now pool with
  | zero => rfl
  | succ fuel ih =>
    cases chosen : pool.nextAction now with
    | none => rw [runFor, runFor, chosen]
    | some choice =>
      obtain ⟨-, timely⟩ := timely.nextAction chosen
      obtain ⟨continues, next, acted⟩ := acts_of_nextAction chosen
      have onward := timely.act continues acted
      have endless : runFor none (fuel + 1) now pool = runFor none fuel choice.1 next :=
        runFor_of_acts chosen rfl acted
      rw [endless] at ends ⊢
      have before : isBefore choice.1 deadline = true := by
        cases deadline with
        | none => rfl
        | some limit => exact decide_eq_true (onward.le_runFor.trans_lt (ends limit rfl))
      rw [runFor_of_acts chosen before acted]
      exact ih onward ends

theorem Timely.le_runUntil {deadline : Option Rat} (timely : pool.Timely now) :
    now ≤ (pool.runUntil deadline now).1 := by
  rw [runUntil_eq_runFor]
  exact timely.le_runFor

theorem runUntil_of_endsBefore {deadline : Option Rat} (timely : pool.Timely now)
    (ends : ∀ limit ∈ deadline, (pool.runUntil none now).1 < limit) :
    pool.runUntil deadline now = pool.runUntil none now := by
  rw [runUntil_eq_runFor] at ends
  rw [runUntil_eq_runFor, runUntil_eq_runFor]
  exact runFor_of_endsBefore timely ends

end Pool

end QueryDesk.Catalog
