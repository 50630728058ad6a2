/-
Module: QueryDesk.Proofs.Catalog.Partial
Purpose: The schema of an introspection, complete or not. Every listed relation has a task of its own.
  At any moment of any schedule, the schema has what those tasks describe that have ended, in the
  order of keys; a failed description and a task that is left cost one relation each.
Imports: QueryDesk.Proofs.Catalog.Course
Main exports: Procedure.trace_guarded, Pool.left, Pool.card_left, Pool.results_eq_of_follow,
  Pool.exists_follow_runUntil, describedExcept, mem_describedExcept, relations_of_follow,
  schema_of_follow, ListsBoth.exists_schedule, distinct_describedExcept
-/
import Mathlib.Data.Finset.Card
import QueryDesk.Proofs.Catalog.Course

namespace QueryDesk.Catalog

open QueryDesk.Number

variable {α : Type} {start now : Rat} {dialect : Dialect} {engine : Engine} {connection : Connection}
  {budget : Binary64} {tables views refs : List RelationRef}

/-- The log entry that reports a relation that could not be described. -/
def failureEntry (ref : RelationRef) (failure : Failure) : LogEvent :=
  { level := .warning
    event := (DeskError.introspection ref.fullName failure.text).message
    context := [(.name "relation", .text ref.fullName)] }

/-- What a guarded description leaves in the log when the description ends. -/
def reportOf (ref : RelationRef) : Except Failure α → List Happening
  | .ok _ => []
  | .error failure => [.logged (failureEntry ref failure)]

/-- A guarded description runs as the description does. Only at its end, a failure is reported and
turned into the absence of the relation. -/
theorem Procedure.trace_guarded (ref : RelationRef) (describe : Procedure α) (wrap : α → Relation)
    (reply : Nat → Call → Reply) (turn : Nat) (happened : List Happening) :
    let alone := describe.trace reply turn happened
    (guarded ref describe wrap).trace reply turn happened =
      { legs := alone.legs
        last := alone.last ++ reportOf ref alone.outcome
        outcome := .ok (alone.outcome.toOption.map wrap) } := by
  induction describe generalizing turn happened with
  | done outcome =>
    cases outcome with
    | ok found => simp [guarded, Procedure.bind, recover, trace, reportOf, pure, Except.toOption]
    | error failure => rfl
  | ask call next ih =>
    have onward := ih (reply turn call).answer (turn + 1)
    simp only [guarded, Procedure.bind, recover, trace] at onward ⊢
    split
    · simp only [onward]
    · simp only [onward]
  | log entry next ih => exact ih turn _

/-! ### Tasks that are left

At any moment of a schedule a task has ended with the outcome of its trace, or it is left. The set of the
places that are left is all that a partial introspection adds to a complete one, and its size is the number
in the warning. -/

/-- What a task has ended with, if it has ended without a failure. -/
def TaskState.result? : TaskState α → Option α
  | .finished (.ok value) => some value
  | _ => none

namespace Pool

/-- The tasks that have not ended, by their places. -/
def left (pool : Pool α) : Finset Nat :=
  (pool.tasks.findIdxs fun state => !isFinished state).toFinset

theorem mem_left {pool : Pool α} {index : Nat} :
    index ∈ pool.left ↔ ∃ state, pool.tasks[index]? = some state ∧ isFinished state = false := by
  rw [left, List.mem_toFinset, List.mem_findIdxs_iff_exists_getElem_pos]
  constructor
  · rintro ⟨inside, unended⟩
    exact ⟨_, List.getElem?_eq_getElem inside, by simpa using unended⟩
  · rintro ⟨state, here, unended⟩
    obtain ⟨inside, rfl⟩ := List.getElem?_eq_some_iff.1 here
    exact ⟨inside, by simpa using unended⟩

/-- As many tasks are left as the warning says. -/
theorem card_left (pool : Pool α) : pool.left.card = pool.pending := by
  rw [left, List.toFinset_card_of_nodup List.nodup_findIdxs, List.length_findIdxs, pending,
    List.countP_eq_length_filter]

section

variable {slots : Nat} {traces : List (Trace α)} {pool : Pool α} {schedule : List (Rat × Action)}

/-- At any moment of a schedule, a task has ended as its trace says, or is left. -/
theorem task_of_follow (continues : ∀ step ∈ schedule, step.2.Continues)
    (followed : (ofTraces slots traces).follow schedule = some pool) {index : Nat} {trace : Trace α}
    (here : traces[index]? = some trace) :
    ∃ state, pool.tasks[index]? = some state ∧
      if index ∈ pool.left then isFinished state = false else state = .finished trace.outcome := by
  have promises := congrArg (fun list => list[index]?) (promises_follow continues followed)
  simp only [ofTraces, List.getElem?_map, here, Option.map_some] at promises
  obtain ⟨state, found, promised⟩ := Option.map_eq_some_iff.1 promises
  refine ⟨state, found, ?_⟩
  split
  next unended =>
    obtain ⟨other, same, unended⟩ := mem_left.1 unended
    rw [found] at same
    cases same
    exact unended
  next ended =>
    cases state with
    | finished outcome => exact congrArg TaskState.finished (Option.some.inj promised)
    | _ => exact absurd (mem_left.2 ⟨_, found, rfl⟩) ended

/-- At any moment of a schedule, the results are those of the tasks that are not left. -/
theorem results_eq_of_follow (continues : ∀ step ∈ schedule, step.2.Continues)
    (followed : (ofTraces slots traces).follow schedule = some pool) :
    pool.results = traces.zipIdx.filterMap fun (trace, index) =>
      if index ∈ pool.left then none else trace.outcome.toOption := by
  have same : pool.tasks.map TaskState.result? = traces.zipIdx.map fun (trace, index) =>
      if index ∈ pool.left then none else trace.outcome.toOption := by
    -- Place by place: the state of a task is told by its trace, unless the task is left.
    refine List.ext_getElem? fun index => ?_
    rw [List.getElem?_map, List.getElem?_map, List.getElem?_zipIdx]
    cases here : traces[index]? with
    | none =>
      have outside : pool.tasks[index]? = none := by
        rw [List.getElem?_eq_none_iff] at here ⊢
        rwa [length_of_follow followed]
      rw [outside]
      rfl
    | some trace =>
      obtain ⟨state, found, how⟩ := task_of_follow continues followed here
      rw [found]
      simp only [Option.map_some, Nat.zero_add]
      split at how
      next unended =>
        rw [if_pos unended]
        cases state with
        | finished outcome => cases how
        | _ => rfl
      next ended =>
        rw [if_neg ended, how]
        cases trace.outcome <;> rfl
  calc pool.results = (pool.tasks.map TaskState.result?).filterMap id := by
        rw [List.filterMap_map]
        rfl
    _ = _ := by
        rw [same, List.filterMap_map]
        rfl

end

/-- The run up to a deadline is a schedule. -/
theorem exists_follow_runUntil (deadline : Option Rat) (now : Rat) (pool : Pool α) :
    ∃ schedule : List (Rat × Action), (∀ step ∈ schedule, step.2.Continues) ∧
      pool.follow schedule = some (pool.runUntil deadline now).2 := by
  rw [runUntil_eq_runFor]
  exact exists_follow_runFor deadline _ now pool

end Pool

theorem toOption_eq_some_iff {outcome : Except Failure α} {value : α} :
    outcome.toOption = some value ↔ outcome = .ok value := by
  cases outcome <;> simp [Except.toOption]

/-- What relations are described as on a connection, where some of the tasks are left. The tasks are
counted from a number on. -/
def describedExcept (left : Finset Nat) (connection : Connection)
    (describe : RelationRef → Procedure α) (first : Nat) (refs : List RelationRef) : List α :=
  (refs.zipIdx first).filterMap fun (ref, index) =>
    if index ∈ left then none
    else (connection.traceOf (.relation index) (describe ref)).outcome.toOption

theorem mem_describedExcept {left : Finset Nat} {describe : RelationRef → Procedure α} {first : Nat}
    {found : α} :
    found ∈ describedExcept left connection describe first refs ↔
      ∃ index ref, refs[index]? = some ref ∧ first + index ∉ left ∧
        (connection.traceOf (.relation (first + index)) (describe ref)).outcome = .ok found := by
  rw [describedExcept, List.mem_filterMap]
  constructor
  · rintro ⟨⟨ref, place⟩, member, described⟩
    obtain ⟨from_first, here⟩ := List.mk_mem_zipIdx_iff_le_and_getElem?_sub.1 member
    obtain ⟨index, rfl⟩ := Nat.exists_eq_add_of_le from_first
    rw [Nat.add_sub_cancel_left] at here
    refine ⟨index, ref, here, ?_⟩
    dsimp only at described
    split at described
    next => cases described
    next ended => exact ⟨ended, toOption_eq_some_iff.1 described⟩
  · rintro ⟨index, ref, here, ended, described⟩
    refine ⟨(ref, first + index), ?_, ?_⟩
    · rw [List.mk_mem_zipIdx_iff_le_and_getElem?_sub, Nat.add_sub_cancel_left]
      exact ⟨Nat.le_add_right first index, here⟩
    · simp only [if_neg ended, described, toOption_eq_some_iff]

theorem zipIdx_mapIdx {β : Type} (apply : Nat → α → β) (items : List α) :
    (items.mapIdx apply).zipIdx = items.zipIdx.map fun (item, index) => (apply index item, index) := by
  refine List.ext_getElem? fun index => ?_
  simp only [List.getElem?_zipIdx, List.getElem?_mapIdx, List.getElem?_map, Option.map_map,
    Function.comp_def, Nat.zero_add]

/-- The tasks of the tables come first, and those of the views after them. -/
theorem zipIdx_describeTraces (engine : Engine) (connection : Connection)
    (tables views : List RelationRef) :
    (describeTraces engine connection tables views).zipIdx =
      ((tables.zipIdx 0).map fun (ref, index) =>
        (connection.traceOf (.relation index) (guarded ref (engine.describeTable ref) .table), index)) ++
      (views.zipIdx tables.length).map fun (ref, index) =>
        (connection.traceOf (.relation index) (guarded ref (engine.describeView ref) .view), index) := by
  rw [describeTraces, zipIdx_mapIdx, List.zipIdx_append, List.map_append, List.zipIdx_map,
    List.zipIdx_map, List.map_map, List.map_map, List.length_map, Nat.zero_add]
  rfl

/-- What the guarded tasks of relations end with is what the relations are described as. -/
theorem filterMap_guarded (left : Finset Nat) (connection : Connection)
    (describe : RelationRef → Procedure α) (wrap : α → Relation) (first : Nat)
    (refs : List RelationRef) :
    ((refs.zipIdx first).filterMap fun (ref, index) =>
        (if index ∈ left then none
          else (connection.traceOf (.relation index)
            (guarded ref (describe ref) wrap)).outcome.toOption).bind id) =
      (describedExcept left connection describe first refs).map wrap := by
  rw [describedExcept, List.map_filterMap]
  refine List.filterMap_congr fun (ref, index) _ => ?_
  dsimp only
  split
  next => rfl
  next =>
    rw [Connection.traceOf, Procedure.trace_guarded]
    rfl

section

variable {workers : Nat} {schedule : List (Rat × Action)} {pool : Pool (Option Relation)}

/-- At any moment of a schedule, the relations that were found are those whose tasks have ended and
did not fail. -/
theorem relations_of_follow (continues : ∀ step ∈ schedule, step.2.Continues)
    (followed : (describingPool engine connection workers tables views).follow schedule = some pool) :
    pool.results.filterMap id =
      (describedExcept pool.left connection engine.describeTable 0
        (firstOfEachKey RelationRef.key tables)).map Relation.table ++
      (describedExcept pool.left connection engine.describeView
        (firstOfEachKey RelationRef.key tables).length
        (firstOfEachKey RelationRef.key views)).map Relation.view := by
  rw [Pool.results_eq_of_follow continues followed, zipIdx_describeTraces, List.filterMap_append,
    List.filterMap_append, List.filterMap_map, List.filterMap_map, List.filterMap_filterMap,
    List.filterMap_filterMap, ← filterMap_guarded, ← filterMap_guarded]
  rfl

/-- At any moment of a schedule, the schema has what the tasks describe that have ended. -/
theorem schema_of_follow (continues : ∀ step ∈ schedule, step.2.Continues)
    (followed : (describingPool engine connection workers tables views).follow schedule = some pool)
    (budget : Binary64) (deadline : Option Rat) (progress : Progress) (now : Rat) :
    (Introspection.ofPool budget deadline progress now pool).schema =
      { tables := sortedByKey Table.key (describedExcept pool.left connection engine.describeTable 0
          (firstOfEachKey RelationRef.key tables))
        views := sortedByKey View.key (describedExcept pool.left connection engine.describeView
          (firstOfEachKey RelationRef.key tables).length (firstOfEachKey RelationRef.key views)) } := by
  simp only [Introspection.ofPool, relations_of_follow continues followed, describedExcept,
    List.map_filterMap, tablesOf_append, viewsOf_append, tablesOf_tables, tablesOf_views,
    viewsOf_tables, viewsOf_views, List.append_nil, List.nil_append]

end

/-- An introspection that leaves tasks ends no earlier than its deadline. -/
theorem le_now_ofPool {pool : Pool (Option Relation)} (some_left : pool.pending ≠ 0)
    (budget : Binary64) (limit : Rat) (progress : Progress) (now : Rat) :
    limit ≤ (Introspection.ofPool budget (some limit) progress now pool).progress.now := by
  have incomplete : (pool.pending == 0) = false := beq_eq_false_iff_ne.2 some_left
  have least : limit ≤ later now limit := by
    unfold later
    split
    next => exact le_refl _
    next past => exact (not_le.1 past).le
  simp only [Introspection.ofPool, incomplete, Bool.false_eq_true, if_false, Progress.log,
    Option.getD_some]
  exact least

/-- An introspection whose listings are over in time ends where some schedule of its tasks stands. Tasks
are left there only when the deadline is reached. -/
theorem ListsBoth.exists_schedule {concurrency : Int}
    (listed : ListsBoth start engine connection budget tables views) (enough : 1 ≤ concurrency) :
    ∃ (schedule : List (Rat × Action)) (now : Rat) (pool : Pool (Option Relation)),
      (∀ step ∈ schedule, step.2.Continues) ∧
      (describingPool engine connection concurrency.toNat tables views).follow schedule =
        some pool ∧
      let found := Introspection.ofPool budget (deadlineAfter start budget)
        (viewsListedFrom start engine connection budget).2 now pool
      (pool.pending ≠ 0 → ∃ limit ∈ deadlineAfter start budget, limit ≤ found.progress.now) ∧
      introspectFrom start engine connection budget concurrency = .ok found := by
  have workers : 1 ≤ concurrency.toNat := by omega
  let listedAt := (viewsListedFrom start engine connection budget).2.now
  let pool := describingPool engine connection concurrency.toNat tables views
  let run := pool.runUntil (deadlineAfter start budget) listedAt
  obtain ⟨schedule, continues, followed⟩ :=
    Pool.exists_follow_runUntil (deadlineAfter start budget) listedAt pool
  refine ⟨schedule, run.1, run.2, continues, followed, ?_, ?_⟩
  · intro some_left
    change (pool.runUntil (deadlineAfter start budget) listedAt).2.pending ≠ 0 at some_left
    cases deadline : deadlineAfter start budget with
    | none =>
      rw [deadline] at some_left
      exact absurd (Pool.pending_of_tasks_eq (Pool.tasks_of_runUntil workers)) some_left
    | some limit =>
      refine ⟨limit, rfl, le_now_ofPool ?_ budget limit _ _⟩
      exact some_left
  · rw [listed.introspectFrom_eq enough, describeAll_eq]

/-- Relations that a listing comes to are described under the keys of the listing. -/
theorem Lists.keeps_key {listing : Procedure (List RelationRef)} {phase : Phase}
    {describe : RelationRef → Procedure α} {key : α → RelationKey}
    (lists : Lists (connection.traceOf phase listing).outcome refs)
    (keeps : ∀ {listed : List RelationRef} {ref : RelationRef} {found : α},
      listing.MayEnd (.ok listed) → ref ∈ listed → (describe ref).MayEnd (.ok found) →
        key found = ref.key) :
    ∀ ref ∈ refs, ∀ found, (describe ref).MayEnd (.ok found) → key found = ref.key := by
  intro ref member found described
  have ends := listing.mayEnd_trace (connection.during phase) 0 []
  rcases lists.cases with ok | ⟨failure, -, -, rfl⟩
  · rw [Connection.traceOf] at ok
    rw [ok] at ends
    exact keeps ends member described
  · cases member

/-- No two relations of a listing are described under one key. -/
theorem distinct_describedExcept {describe : RelationRef → Procedure α} {key : α → RelationKey}
    (keeps : ∀ ref ∈ refs, ∀ found, (describe ref).MayEnd (.ok found) → key found = ref.key)
    (left : Finset Nat) (connection : Connection) (first : Nat) :
    (describedExcept left connection describe first (firstOfEachKey RelationRef.key refs)).Pairwise
      fun a b => key a ≠ key b := by
  obtain ⟨distinct, among⟩ := firstOfEachKey_spec RelationRef.key refs
  have places : ((firstOfEachKey RelationRef.key refs).zipIdx first).Pairwise
      fun a b => a.1.key ≠ b.1.key := by
    rw [← List.zipIdx_map_fst first (firstOfEachKey RelationRef.key refs), List.pairwise_map]
      at distinct
    exact distinct
  have described : ∀ place ∈ (firstOfEachKey RelationRef.key refs).zipIdx first, ∀ found,
      (if place.2 ∈ left then none
        else (connection.traceOf (.relation place.2) (describe place.1)).outcome.toOption) =
          some found → key found = place.1.key := by
    intro place member found ended
    have listed : place.1 ∈ refs := by
      have kept := List.mem_map_of_mem (f := Prod.fst) member
      rw [List.zipIdx_map_fst] at kept
      exact among kept
    split at ended
    next => cases ended
    next =>
      refine keeps place.1 listed found ?_
      rw [← toOption_eq_some_iff.1 ended]
      exact (describe place.1).mayEnd_trace (connection.during (.relation place.2)) 0 []
  refine List.pairwise_filterMap.2 (places.imp_of_mem fun {a b} first second apart => ?_)
  intro x found y other
  rw [described a first x found, described b second y other]
  exact apart

end QueryDesk.Catalog
