/-
Module: QueryDesk.Proofs.Catalog.Workers
Purpose: The workers of an introspection. Every slot of the pool is free, handed to a task that was
  called up, or held by a description in progress. A task does the pieces of its description one after
  another, none of them twice, so no relation is described more than once. All this holds at any moment
  of any schedule, cancellations included; when every task has ended, each relation has been described
  and every slot is free.
Imports: QueryDesk.Proofs.Catalog.Accounts, QueryDesk.Proofs.Catalog.Omissions
Main exports: Piece, Trace.description, Pool.journal, Pool.worked, Pool.calls, Pool.act_pieces,
  Pool.worked_in_order, Pool.worked_eq, Pool.SlotsTaken, Pool.Sound.exists_slotsTaken, described,
  introspect_workers
-/
import QueryDesk.Proofs.Catalog.Accounts
import QueryDesk.Proofs.Catalog.Omissions

namespace QueryDesk.Catalog

open QueryDesk.Number

variable {α : Type}

/-! ### Pieces of descriptions

What a task does between two waits is a piece, and a trace is cut into pieces beforehand. Each action does
the next piece of one task or none at all, so that what a task has done and what it has ahead of it always
make up its whole description. -/

/-- What a task does without a wait in between, and whether its description begins with it. -/
structure Piece where
  begins : Bool
  happenings : List Happening

/-- The pieces of a trace up to its end. The first of them begins a description or goes on with one. -/
def Trace.pieces (begins : Bool) (trace : Trace α) : List Piece :=
  match trace.legs with
  | [] => [⟨begins, trace.last⟩]
  | leg :: rest =>
    ⟨begins, leg.happenings⟩ :: (rest.map fun later => ⟨false, later.happenings⟩) ++
      [⟨false, trace.last⟩]

/-- The pieces of a whole description. -/
def Trace.description (trace : Trace α) : List Piece :=
  trace.pieces true

/-- The piece that comes next in a trace. -/
def Trace.nextPiece (begins : Bool) (trace : Trace α) : Piece :=
  ⟨begins, match trace.legs with | [] => trace.last | leg :: _ => leg.happenings⟩

/-- The pieces behind the one that comes next. -/
def Trace.laterPieces (trace : Trace α) : List Piece :=
  (trace.pieces false).tail

theorem Trace.pieces_eq_cons (begins : Bool) (trace : Trace α) :
    trace.pieces begins = trace.nextPiece begins :: trace.laterPieces := by
  obtain ⟨legs, last, outcome⟩ := trace
  cases legs <;> rfl

/-- Behind its first leg, a trace goes on with the rest. -/
theorem Trace.laterPieces_of_legs {trace : Trace α} {leg : Leg} {rest : List Leg}
    (legs : trace.legs = leg :: rest) :
    trace.laterPieces = { trace with legs := rest }.pieces false := by
  obtain ⟨_, last, outcome⟩ := trace
  subst legs
  cases rest <;> rfl

theorem Trace.laterPieces_not_begins {trace : Trace α} {piece : Piece}
    (later : piece ∈ trace.laterPieces) : piece.begins = false := by
  obtain ⟨legs, last, outcome⟩ := trace
  cases legs with
  | nil => cases later
  | cons leg rest =>
    rcases List.mem_append.1 (List.mem_of_mem_tail later) with among | final
    · rcases List.mem_cons.1 among with rfl | among
      · rfl
      · obtain ⟨other, -, rfl⟩ := List.mem_map.1 among
        rfl
    · rw [List.mem_singleton.1 final]

/-- A description begins once. -/
theorem Trace.countP_description (trace : Trace α) : trace.description.countP Piece.begins = 1 := by
  rw [description, pieces_eq_cons, List.countP_cons_of_pos rfl, Nat.add_eq_right, List.countP_eq_zero]
  exact fun piece later => by simp [laterPieces_not_begins later]

/-- The pieces that a task has ahead of it, absent if it was cancelled. -/
def TaskState.ahead? : TaskState α → Option (List Piece)
  | .created trace => some trace.description
  | .waiting trace => some trace.description
  | .woken trace => some trace.description
  | .running _ trace => some (trace.pieces false)
  | .finished _ => some []
  | .cancelled => none

namespace Pool

/-- The piece that an action does, with the task that does it. A task that only stands in line and one
that is cancelled do nothing. -/
def piece? (pool : Pool α) : Action → Option (Nat × Piece)
  | .arrive task =>
    match pool.tasks[task]? with
    | some (.created trace) =>
      if 0 < pool.free && pool.line.isEmpty then some (task, trace.nextPiece true) else none
    | _ => none
  | .enter task =>
    match pool.tasks[task]? with
    | some (.woken trace) => some (task, trace.nextPiece true)
    | _ => none
  | .resume task =>
    match pool.tasks[task]? with
    | some (.running _ trace) => some (task, trace.nextPiece false)
    | _ => none
  | .cancel _ => none

/-- The pieces that are done in a schedule, in order, with the tasks that do them. -/
def journal (pool : Pool α) : List (Rat × Action) → List (Nat × Piece)
  | [] => []
  | (now, action) :: rest =>
    match pool.act now action with
    | some next => (pool.piece? action).toList ++ next.journal rest
    | none => []

/-- The pieces of one task in a journal. -/
def piecesOf (task : Nat) (entries : List (Nat × Piece)) : List Piece :=
  (entries.filter fun entry => entry.1 == task).map Prod.snd

/-- The pieces that a task does in a schedule. -/
def worked (pool : Pool α) (schedule : List (Rat × Action)) (task : Nat) : List Piece :=
  piecesOf task (pool.journal schedule)

/-- The pieces that the task at a place has ahead of it, absent if there is none or it was cancelled. -/
def aheadOf (pool : Pool α) (task : Nat) : Option (List Piece) :=
  (pool.tasks.map TaskState.ahead?)[task]?.join

/-- The tasks whose descriptions begin in a schedule, in order. -/
def calls (pool : Pool α) (schedule : List (Rat × Action)) : List Nat :=
  ((pool.journal schedule).filter fun entry => entry.2.begins).map Prod.fst

variable {pool next last : Pool α} {now : Rat} {task slots : Nat} {trace : Trace α}
  {action : Action} {schedule : List (Rat × Action)}

@[simp] theorem piecesOf_append (task : Nat) (first second : List (Nat × Piece)) :
    piecesOf task (first ++ second) = piecesOf task first ++ piecesOf task second := by
  simp [piecesOf]

/-- A task is called as often as one of its pieces begins a description. -/
theorem count_calls (pool : Pool α) (schedule : List (Rat × Action)) (task : Nat) :
    (pool.calls schedule).count task = (pool.worked schedule task).countP Piece.begins := by
  rw [calls, worked, piecesOf, List.count_eq_countP, List.countP_map, List.countP_map,
    List.countP_filter, List.countP_filter]
  exact List.countP_congr fun entry _ => by simp [and_comm]

theorem ahead_release (pool : Pool α) :
    pool.release.tasks.map TaskState.ahead? = pool.tasks.map TaskState.ahead? := by
  unfold release
  split
  next => rfl
  next first rest _ =>
    split
    next trace here => exact map_set_of_eq TaskState.ahead? here rfl
    next => rfl

@[simp] theorem happened_release (pool : Pool α) : pool.release.happened = pool.happened := by
  unfold release
  split
  next => rfl
  next => split <;> rfl

/-- A task that goes on does its next piece and has the later ones ahead of it. -/
theorem proceed_pieces (pool : Pool α) (now : Rat) (task : Nat) (trace : Trace α) (begins : Bool) :
    (pool.proceed now task trace).happened =
        pool.happened ++ (trace.nextPiece begins).happenings ∧
      (pool.proceed now task trace).tasks.map TaskState.ahead? =
        (pool.tasks.map TaskState.ahead?).set task (some trace.laterPieces) := by
  obtain ⟨legs, final, outcome⟩ := trace
  cases legs with
  | nil =>
    refine ⟨happened_release _, (ahead_release _).trans ?_⟩
    exact List.map_set
  | cons leg rest =>
    rw [Trace.laterPieces_of_legs rfl]
    exact ⟨rfl, List.map_set⟩

theorem ahead_cancel (pool : Pool α) (task : Nat) :
    (pool.cancel task).tasks.map TaskState.ahead? = pool.tasks.map TaskState.ahead? ∨
      (pool.cancel task).tasks.map TaskState.ahead? =
        (pool.tasks.map TaskState.ahead?).set task none := by
  unfold cancel
  split
  next => exact .inr List.map_set
  next => exact .inr List.map_set
  next => exact .inr ((ahead_release _).trans List.map_set)
  next => exact .inr ((ahead_release _).trans List.map_set)
  next => exact .inl rfl

@[simp] theorem happened_cancel (pool : Pool α) (task : Nat) :
    (pool.cancel task).happened = pool.happened := by
  unfold cancel
  split <;> simp [put]

/-- What an action does: the next piece of one task, or nothing. -/
theorem act_pieces (acted : pool.act now action = some next) :
    (∃ (task : Nat) (begins : Bool) (trace : Trace α),
      pool.piece? action = some (task, trace.nextPiece begins) ∧
      (pool.tasks.map TaskState.ahead?)[task]? = some (some (trace.pieces begins)) ∧
      next.happened = pool.happened ++ (trace.nextPiece begins).happenings ∧
      next.tasks.map TaskState.ahead? =
        (pool.tasks.map TaskState.ahead?).set task (some trace.laterPieces)) ∨
    (pool.piece? action = none ∧ next.happened = pool.happened ∧
      (next.tasks.map TaskState.ahead? = pool.tasks.map TaskState.ahead? ∨
        ∃ task, next.tasks.map TaskState.ahead? = (pool.tasks.map TaskState.ahead?).set task none)) := by
  have viewed : ∀ {task : Nat} {state : TaskState α}, pool.tasks[task]? = some state →
      (pool.tasks.map TaskState.ahead?)[task]? = some state.ahead? := by
    intro task state here
    rw [List.getElem?_map, here, Option.map_some]
  rcases act_cases acted with ⟨task, trace, rfl, here, rfl⟩ | ⟨task, trace, rfl, here, rfl⟩ |
    ⟨task, wake, trace, rfl, here, rfl⟩ | ⟨task, rfl, rfl⟩
  · by_cases enters : (0 < pool.free && pool.line.isEmpty) = true
    · refine .inl ⟨task, true, trace, ?_, viewed here, ?_⟩
      · rw [piece?, here]
        exact if_pos enters
      · rw [arrive, if_pos enters]
        exact proceed_pieces { pool with free := pool.free - 1 } now task trace true
    · refine .inr ⟨?_, ?_, .inl ?_⟩
      · rw [piece?, here]
        exact if_neg enters
      · rw [arrive, if_neg enters, put]
      · rw [arrive, if_neg enters]
        exact map_set_of_eq TaskState.ahead? here rfl
  · refine .inl ⟨task, true, trace, ?_, viewed here, proceed_pieces pool now task trace true⟩
    rw [piece?, here]
  · refine .inl ⟨task, false, trace, ?_, viewed here, proceed_pieces pool now task trace false⟩
    rw [piece?, here]
  · refine .inr ⟨rfl, happened_cancel pool task, ?_⟩
    exact (ahead_cancel pool task).imp_right fun cancelled => ⟨task, cancelled⟩

/-- An action takes what a task does from what that task has ahead of it, unless it cancels the task. -/
theorem aheadOf_act (acted : pool.act now action = some next) (task : Nat) :
    (∃ rest, pool.aheadOf task = some (piecesOf task (pool.piece? action).toList ++ rest) ∧
      next.aheadOf task = some rest) ∨
    (piecesOf task (pool.piece? action).toList = [] ∧ next.aheadOf task = none) := by
  -- A task of which nothing is done and whose state is kept.
  have idle : piecesOf task (pool.piece? action).toList = [] →
      next.aheadOf task = pool.aheadOf task →
      (∃ rest, pool.aheadOf task = some (piecesOf task (pool.piece? action).toList ++ rest) ∧
        next.aheadOf task = some rest) ∨
      (piecesOf task (pool.piece? action).toList = [] ∧ next.aheadOf task = none) := by
    intro nothing kept
    cases ahead : pool.aheadOf task with
    | none => exact .inr ⟨nothing, kept.trans ahead⟩
    | some rest => exact .inl ⟨rest, by rw [nothing, List.nil_append], kept.trans ahead⟩
  rcases act_pieces acted with ⟨actor, begins, trace, did, here, -, moved⟩ | ⟨did, -, moved⟩
  · by_cases same : actor = task
    · subst same
      have inside := (List.getElem?_eq_some_iff.1 here).1
      refine .inl ⟨trace.laterPieces, ?_, ?_⟩
      · rw [aheadOf, here, Option.join_some, Trace.pieces_eq_cons, did]
        simp [piecesOf]
      · rw [aheadOf, moved, List.getElem?_set_self inside, Option.join_some]
    · refine idle (by simp [did, piecesOf, same]) ?_
      rw [aheadOf, aheadOf, moved, List.getElem?_set_ne same]
  · have nothing : piecesOf task (pool.piece? action).toList = [] := by rw [did]; rfl
    rcases moved with moved | ⟨gone, moved⟩
    · exact idle nothing (by rw [aheadOf, aheadOf, moved])
    · by_cases same : gone = task
      · subst same
        refine .inr ⟨nothing, ?_⟩
        rw [aheadOf, moved, List.getElem?_set_self']
        cases (pool.tasks.map TaskState.ahead?)[gone]? <;> rfl
      · exact idle nothing (by rw [aheadOf, aheadOf, moved, List.getElem?_set_ne same])

/-- Where no task is pending, each has ended. -/
theorem exists_finished {state : TaskState α} (ended : pool.pending = 0)
    (member : state ∈ pool.tasks) : ∃ outcome, state = .finished outcome := by
  have finished := List.filter_eq_nil_iff.1 (List.length_eq_zero_iff.1 ended) state member
  cases state with
  | finished outcome => exact ⟨outcome, rfl⟩
  | _ => exact absurd rfl finished

theorem journal_cons {step : Rat × Action} (acted : pool.act step.1 step.2 = some next) :
    pool.journal (step :: schedule) = (pool.piece? step.2).toList ++ next.journal schedule := by
  obtain ⟨now, action⟩ := step
  dsimp only at acted
  rw [journal, acted]

/-- Everything that happens in a schedule is in the journal. -/
theorem happened_follow (followed : pool.follow schedule = some last) :
    last.happened =
      pool.happened ++ (pool.journal schedule).flatMap fun entry => entry.2.happenings := by
  induction schedule generalizing pool with
  | nil =>
    cases followed
    exact (List.append_nil _).symm
  | cons step rest ih =>
    obtain ⟨next, acted, followed⟩ := follow_cons followed
    rw [ih followed, journal_cons acted, List.flatMap_append, ← List.append_assoc]
    congr 1
    rcases act_pieces acted with ⟨_, _, _, did, -, more, -⟩ | ⟨did, same, -⟩
    · rw [more, did]
      simp
    · rw [same, did]
      simp

/-- In a schedule, a task does what it has ahead of it, in order. What it has not done is still ahead,
unless the task was cancelled. -/
theorem aheadOf_follow (followed : pool.follow schedule = some last) (task : Nat) :
    (∃ rest, pool.aheadOf task = some (pool.worked schedule task ++ rest) ∧
      last.aheadOf task = some rest) ∨
    (pool.worked schedule task <+: (pool.aheadOf task).getD [] ∧ last.aheadOf task = none) := by
  induction schedule generalizing pool with
  | nil =>
    cases followed
    cases ahead : last.aheadOf task with
    | none => exact .inr ⟨List.nil_prefix, rfl⟩
    | some rest => exact .inl ⟨rest, rfl, rfl⟩
  | cons step rest ih =>
    obtain ⟨next, acted, followed⟩ := follow_cons followed
    have first : pool.worked (step :: rest) task =
        piecesOf task (pool.piece? step.2).toList ++ next.worked rest task := by
      rw [worked, journal_cons acted, piecesOf_append, worked]
    rw [first]
    rcases aheadOf_act acted task with ⟨onward, before, after⟩ | ⟨nothing, gone⟩
    · rcases ih followed with ⟨final, all, left⟩ | ⟨some_done, gone⟩
      · refine .inl ⟨final, ?_, left⟩
        rw [before, ← Option.some.inj (all.symm.trans after), List.append_assoc]
      · refine .inr ⟨?_, gone⟩
        rw [after, Option.getD_some] at some_done
        rw [before, Option.getD_some]
        exact (List.prefix_append_right_inj _).2 some_done
    · -- The task is cancelled here, so it does nothing from now on.
      rcases ih followed with ⟨final, all, -⟩ | ⟨some_done, gone'⟩
      · rw [gone] at all
        cases all
      · refine .inr ⟨?_, gone'⟩
        rw [gone, Option.getD_none, List.prefix_nil] at some_done
        rw [nothing, some_done]
        exact List.nil_prefix

section

variable {traces : List (Trace α)}

theorem aheadOf_ofTraces (here : traces[task]? = some trace) :
    (ofTraces slots traces).aheadOf task = some trace.description := by
  simp [aheadOf, ofTraces, here, TaskState.ahead?]

/-- No task does a piece of its description twice, or out of order. -/
theorem worked_in_order (followed : (ofTraces slots traces).follow schedule = some last)
    (here : traces[task]? = some trace) :
    (ofTraces slots traces).worked schedule task <+: trace.description := by
  rcases aheadOf_follow followed task with ⟨rest, all, -⟩ | ⟨some_done, -⟩
  · rw [aheadOf_ofTraces here] at all
    exact ⟨rest, (Option.some.inj all).symm⟩
  · rwa [aheadOf_ofTraces here] at some_done

theorem worked_eq_nil (followed : (ofTraces slots traces).follow schedule = some last)
    (nowhere : traces[task]? = none) : (ofTraces slots traces).worked schedule task = [] := by
  have nothing : (ofTraces slots traces).aheadOf task = none := by simp [aheadOf, ofTraces, nowhere]
  rcases aheadOf_follow followed task with ⟨rest, all, -⟩ | ⟨some_done, -⟩
  · rw [nothing] at all
    cases all
  · rw [nothing] at some_done
    exact List.prefix_nil.1 some_done

/-- When every task has ended, each has done its whole description. -/
theorem worked_eq (followed : (ofTraces slots traces).follow schedule = some last)
    (ended : last.pending = 0) (here : traces[task]? = some trace) :
    (ofTraces slots traces).worked schedule task = trace.description := by
  have inside : task < last.tasks.length := by
    rw [length_of_follow followed]
    exact (List.getElem?_eq_some_iff.1 here).1
  obtain ⟨outcome, finished⟩ := exists_finished ended (List.getElem_mem inside)
  have left : last.aheadOf task = some [] := by
    rw [aheadOf, List.getElem?_map, List.getElem?_eq_getElem inside, finished]
    rfl
  rcases aheadOf_follow followed task with ⟨rest, all, behind⟩ | ⟨-, gone⟩
  · rw [left] at behind
    cases behind
    rw [aheadOf_ofTraces here, List.append_nil] at all
    exact (Option.some.inj all).symm
  · rw [left] at gone
    cases gone

/-- The description of a task begins at most once. -/
theorem nodup_calls (followed : (ofTraces slots traces).follow schedule = some last) :
    ((ofTraces slots traces).calls schedule).Nodup := by
  refine List.nodup_iff_count_le_one.2 fun task => ?_
  rw [count_calls]
  cases here : traces[task]? with
  | none =>
    rw [worked_eq_nil followed here]
    exact Nat.zero_le 1
  | some trace =>
    rw [← trace.countP_description]
    exact (worked_in_order followed here).sublist.countP_le

/-- When every task has ended, each has begun. -/
theorem mem_calls (followed : (ofTraces slots traces).follow schedule = some last)
    (ended : last.pending = 0) (inside : task < traces.length) :
    task ∈ (ofTraces slots traces).calls schedule := by
  rw [← List.count_pos_iff, count_calls,
    worked_eq followed ended (List.getElem?_eq_getElem inside), Trace.countP_description]
  exact Nat.one_pos

end

/-- The slots of a pool, told by the tasks that have them: each is free or with a task that was called
up or is in progress, and each of these tasks has one slot. -/
structure SlotsTaken (pool : Pool α) (takers : List (Option Nat)) : Prop where
  free_eq : takers.count none = pool.free
  once : (takers.filterMap id).Nodup
  mem_iff : ∀ task, some task ∈ takers ↔
    (∃ trace, pool.tasks[task]? = some (.woken trace)) ∨
      ∃ wake trace, pool.tasks[task]? = some (.running wake trace)

/-- The number of tasks that are in progress. -/
def describing (pool : Pool α) : Nat :=
  pool.tasks.countP fun state => (wake? state).isSome

theorem slotsHeld_pos_iff {state : TaskState α} :
    0 < slotsHeld state ↔
      (∃ trace, state = .woken trace) ∨ ∃ wake trace, state = .running wake trace := by
  cases state <;> simp [slotsHeld]

theorem total_slotsHeld (tasks : List (TaskState α)) :
    total slotsHeld tasks = tasks.countP fun state => 0 < slotsHeld state := by
  induction tasks with
  | nil => rfl
  | cons state rest ih =>
    rw [total] at ih
    rw [total, List.map_cons, List.sum_cons, ih, List.countP_cons, Nat.add_comm]
    cases state <;> rfl

/-- A pool whose accounts are in order has takers for its slots. -/
theorem Sound.exists_slotsTaken (sound : pool.Sound slots 0) :
    ∃ takers, takers.length = slots ∧ pool.SlotsTaken takers := by
  let holders := pool.tasks.findIdxs fun state => 0 < slotsHeld state
  have as_many : holders.length = total slotsHeld pool.tasks := by
    rw [total_slotsHeld]
    exact List.length_findIdxs
  have all := sound.slots_eq
  refine ⟨holders.map some ++ List.replicate pool.free none, ?_, ?_, ?_, fun task => ?_⟩
  · rw [List.length_append, List.length_map, List.length_replicate]
    omega
  · simp [List.count_eq_zero]
  · simp [List.filterMap_append, List.filterMap_map, holders, List.nodup_findIdxs]
  · rw [List.mem_append, List.mem_map, or_iff_left (by simp)]
    simp only [Option.some.injEq, exists_eq_right, holders]
    rw [List.mem_findIdxs_iff_exists_getElem_pos]
    constructor
    · rintro ⟨inside, holds⟩
      simp only [List.getElem?_eq_getElem inside, Option.some.injEq]
      exact slotsHeld_pos_iff.1 (of_decide_eq_true holds)
    · rintro (⟨trace, here⟩ | ⟨wake, trace, here⟩)
      · obtain ⟨inside, here⟩ := List.getElem?_eq_some_iff.1 here
        exact ⟨inside, by rw [here]; rfl⟩
      · obtain ⟨inside, here⟩ := List.getElem?_eq_some_iff.1 here
        exact ⟨inside, by rw [here]; rfl⟩

/-- No more tasks are in progress than there are slots. -/
theorem Sound.describing_le (sound : pool.Sound slots 0) : pool.describing ≤ slots := by
  have held : pool.describing ≤ total slotsHeld pool.tasks := by
    rw [total_slotsHeld]
    refine List.countP_mono_left fun state _ => ?_
    cases state <;> simp [wake?, slotsHeld]
  have all := sound.slots_eq
  omega

/-- When every task has ended, every slot is free. -/
theorem Sound.free_eq (sound : pool.Sound slots 0) (ended : pool.pending = 0) : pool.free = slots := by
  have idle : total slotsHeld pool.tasks = 0 := by
    refine List.sum_eq_zero fun held member => ?_
    obtain ⟨state, inside, rfl⟩ := List.mem_map.1 member
    obtain ⟨outcome, rfl⟩ := exists_finished ended inside
    rfl
  have all := sound.slots_eq
  omega

end Pool

section

variable {start : Rat} {engine : Engine} {connection : Connection} {budget : Binary64}
  {concurrency : Int} {tables views : List RelationRef}

/-- The keys of the different relations that were listed, tables on the left and views on the right, in
the order of the tasks that describe them. -/
def relationKeys (tables views : List RelationRef) : List (RelationKey ⊕ RelationKey) :=
  ((firstOfEachKey RelationRef.key tables).map fun ref => .inl ref.key) ++
    (firstOfEachKey RelationRef.key views).map fun ref => .inr ref.key

/-- The relations that tasks describe. -/
def described (tables views : List RelationRef) (tasks : List Nat) :
    List (RelationKey ⊕ RelationKey) :=
  tasks.filterMap fun task => (relationKeys tables views)[task]?

/-- How the work of the tasks compares with the descriptions of the relations, each described by the task
at its place. -/
structure ComparesEach (compare : List Piece → List Piece → Prop) (engine : Engine)
    (connection : Connection) (tables views : List RelationRef) (worked : Nat → List Piece) :
    Prop where
  table : ∀ index ref, (firstOfEachKey RelationRef.key tables)[index]? = some ref →
    compare (worked index) (connection.traceOf (.relation index)
      (guarded ref (engine.describeTable ref) .table)).description
  view : ∀ index ref, (firstOfEachKey RelationRef.key views)[index]? = some ref →
    let task := (firstOfEachKey RelationRef.key tables).length + index
    compare (worked task) (connection.traceOf (.relation task)
      (guarded ref (engine.describeView ref) .view)).description

theorem comparesEach_of_traces {compare : List Piece → List Piece → Prop} {worked : Nat → List Piece}
    (each : ∀ (task : Nat) (trace : Trace (Option Relation)),
      (describeTraces engine connection (firstOfEachKey RelationRef.key tables)
        (firstOfEachKey RelationRef.key views))[task]? = some trace →
      compare (worked task) trace.description) :
    ComparesEach compare engine connection tables views worked where
  table := by
    intro index ref here
    refine each index _ ?_
    have inside := (List.getElem?_eq_some_iff.1 here).1
    rw [describeTraces, List.getElem?_mapIdx, List.getElem?_append_left (by simpa using inside),
      List.getElem?_map, here]
    rfl
  view := by
    intro index ref here
    refine each _ _ ?_
    rw [describeTraces, List.getElem?_mapIdx, List.getElem?_append_right (by simp),
      List.length_map, Nat.add_sub_cancel_left, List.getElem?_map, here]
    rfl

theorem nodup_relationKeys (tables views : List RelationRef) : (relationKeys tables views).Nodup := by
  refine List.Nodup.append ?_ ?_ ?_
  · exact List.pairwise_map.2 ((firstOfEachKey_spec RelationRef.key tables).1.imp fun apart same =>
      apart (Sum.inl.inj same))
  · exact List.pairwise_map.2 ((firstOfEachKey_spec RelationRef.key views).1.imp fun apart same =>
      apart (Sum.inr.inj same))
  · intro key first second
    obtain ⟨_, -, rfl⟩ := List.mem_map.1 first
    obtain ⟨_, -, same⟩ := List.mem_map.1 second
    cases same

theorem mem_relationKeys {key : RelationKey ⊕ RelationKey} :
    key ∈ relationKeys tables views ↔
      (∃ ref ∈ tables, .inl ref.key = key) ∨ ∃ ref ∈ views, .inr ref.key = key := by
  have kept : ∀ (refs : List RelationRef) (side : RelationKey → RelationKey ⊕ RelationKey),
      (∃ ref ∈ firstOfEachKey RelationRef.key refs, side ref.key = key) ↔
        ∃ ref ∈ refs, side ref.key = key := by
    intro refs side
    constructor
    · rintro ⟨ref, member, same⟩
      exact ⟨ref, (firstOfEachKey_spec RelationRef.key refs).2 member, same⟩
    · rintro ⟨ref, member, same⟩
      obtain ⟨first, among, equal⟩ := exists_mem_firstOfEachKey RelationRef.key refs member
      exact ⟨first, among, (congrArg side equal).trans same⟩
  rw [relationKeys, List.mem_append, List.mem_map, List.mem_map, kept, kept]

theorem nodup_described {tasks : List Nat} (nodup : tasks.Nodup) :
    (described tables views tasks).Nodup := by
  refine List.Nodup.filterMap ?_ nodup
  intro task other key first second
  have inside := (List.getElem?_eq_some_iff.1 (Option.mem_def.1 first)).1
  refine (List.getElem?_inj inside (nodup_relationKeys tables views)).1 ?_
  rw [Option.mem_def.1 first, Option.mem_def.1 second]

theorem mem_described {tasks : List Nat}
    (all : ∀ task < (relationKeys tables views).length, task ∈ tasks)
    {key : RelationKey ⊕ RelationKey} :
    key ∈ described tables views tasks ↔ key ∈ relationKeys tables views := by
  rw [described, List.mem_filterMap, List.mem_iff_getElem?]
  constructor
  · rintro ⟨task, -, here⟩
    exact ⟨task, here⟩
  · rintro ⟨task, here⟩
    exact ⟨task, all task (List.getElem?_eq_some_iff.1 here).1, here⟩

/-- The workers of an introspection. At any moment of any schedule, whatever is answered, fails or is
cancelled, no more relations are described at once than there are workers; each slot is free or has one
taker, and each taker one slot; no relation is described twice, since each task does a part of one
description, in order, and nothing else happens. (A table and a view of one key are different relations.)
When every task has ended, each listed relation has been described, to the end of its description, and
every slot is free; and every task has ended where none can go on and none was cancelled. The introspection
itself stands where some schedule does, and it is complete when every task has ended there. -/
theorem introspect_workers (enough : 1 ≤ concurrency) (tables views : List RelationRef) :
    let first := describingPool engine connection concurrency.toNat tables views
    (∀ (schedule : List (Rat × Action)) (pool : Pool (Option Relation)),
      first.follow schedule = some pool →
      let relations := described tables views (first.calls schedule)
      (pool.describing : Int) ≤ concurrency ∧
      (∃ takers, (takers.length : Int) = concurrency ∧ pool.SlotsTaken takers) ∧
      relations.Nodup ∧
      ComparesEach (· <+: ·) engine connection tables views (first.worked schedule) ∧
      pool.happened = (first.journal schedule).flatMap (fun entry => entry.2.happenings) ∧
      (pool.pending = 0 →
        (pool.free : Int) = concurrency ∧
        (∀ key, .inl key ∈ relations ↔ ∃ ref ∈ tables, ref.key = key) ∧
        (∀ key, .inr key ∈ relations ↔ ∃ ref ∈ views, ref.key = key) ∧
        ComparesEach (· = ·) engine connection tables views (first.worked schedule)) ∧
      ((∀ step ∈ schedule, step.2.Continues) → pool.Stuck → pool.pending = 0)) ∧
    (ListsBoth start engine connection budget tables views →
      ∃ schedule pool found, first.follow schedule = some pool ∧
        introspectFrom start engine connection budget concurrency = .ok found ∧
        (found.complete = true ↔ pool.pending = 0)) := by
  intro first
  have slots : (concurrency.toNat : Int) = concurrency := Int.toNat_of_nonneg (by omega)
  refine ⟨fun schedule pool followed => ?_, fun listed => ?_⟩
  · have sound := Pool.sound_follow (Pool.sound_ofTraces concurrency.toNat _) followed
    obtain ⟨takers, as_many, taken⟩ := sound.exists_slotsTaken
    refine ⟨?_, ⟨takers, ?_, taken⟩, nodup_described (Pool.nodup_calls followed), ?_,
      Pool.happened_follow followed, fun ended => ?_, fun continues stuck => ?_⟩
    · rw [← slots]
      exact Int.ofNat_le.2 sound.describing_le
    · rw [as_many, slots]
    · exact comparesEach_of_traces fun task trace here => Pool.worked_in_order followed here
    · have all : ∀ task < (relationKeys tables views).length, task ∈ first.calls schedule := by
        intro task inside
        refine Pool.mem_calls followed ended ?_
        rw [length_describeTraces]
        simpa [relationKeys] using inside
      refine ⟨?_, fun key => ?_, fun key => ?_, ?_⟩
      · rw [sound.free_eq ended, slots]
      · rw [mem_described all, mem_relationKeys]
        simp
      · rw [mem_described all, mem_relationKeys]
        simp
      · exact comparesEach_of_traces fun task trace here => Pool.worked_eq followed ended here
    · have workers : 1 ≤ concurrency.toNat := by omega
      exact Pool.pending_of_tasks_eq (Pool.tasks_of_follow workers continues followed stuck)
  · obtain ⟨schedule, now, pool, -, followed, -, course⟩ := listed.exists_schedule enough
    exact ⟨schedule, pool, _, followed, course, beq_iff_eq⟩

/-- Two workers describe the tables b and a of the sample, and both have nothing left to do. -/
theorem introspect_workers_sample :
    (1 : Int) ≤ 2 ∧
    ListsBoth 0 (.ofDialect .mysql) sampleConnection (.ofInt 60) sampleTables [] ∧
    let first := describingPool (.ofDialect .mysql) sampleConnection 2 sampleTables []
    ∃ schedule pool, first.follow schedule = some pool ∧ pool.pending = 0 ∧ (pool.free : Int) = 2 ∧
      ∀ key, .inl key ∈ described sampleTables [] (first.calls schedule) ↔
        ∃ ref ∈ sampleTables, ref.key = key := by
  have whole : (introspectFrom 0 (.ofDialect .mysql) sampleConnection (.ofInt 60) 2).toOption.map
      (fun found => found.complete) = some true := by decide +kernel
  obtain ⟨orderly, course⟩ := @introspect_workers 0 (.ofDialect .mysql) sampleConnection (.ofInt 60) 2
    (by decide) sampleTables []
  obtain ⟨schedule, pool, found, followed, here, complete⟩ := course listsBoth_sample
  rw [here] at whole
  have ended : pool.pending = 0 := complete.1 (Option.some.inj whole)
  obtain ⟨-, -, -, -, -, whenEnded, -⟩ := orderly schedule pool followed
  obtain ⟨free, tables, -⟩ := whenEnded ended
  exact ⟨by decide, listsBoth_sample, schedule, pool, followed, ended, free, tables⟩

end

end QueryDesk.Catalog
