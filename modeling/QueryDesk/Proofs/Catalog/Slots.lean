/-
Module: QueryDesk.Proofs.Catalog.Slots
Purpose: The accounts of a pool of worker slots. Every slot is free or held by one task, the line holds
  the waiting tasks, each once, and nobody waits while a slot is free. Every action keeps the
  accounts, so a pool with a slot in which no task can go on has no task that waits.
Imports: QueryDesk.Catalog.Pool
Main exports: total, total_set, map_set_of_eq, slotsHeld, Pool.Sound, Pool.act_cases, Pool.length_act,
  Pool.sound_act, Pool.sound_ofTraces, Pool.Sound.not_waiting
-/
import Mathlib.Algebra.BigOperators.Group.List.Basic
import Mathlib.Algebra.Ring.Nat
import Mathlib.Data.List.Nodup
import QueryDesk.Catalog.Pool

namespace QueryDesk.Catalog

variable {α : Type}

/-- The sum of a weight over tasks. -/
def total (weight : TaskState α → Nat) (tasks : List (TaskState α)) : Nat :=
  (tasks.map weight).sum

/-- When one task changes, the sum changes by its weight. -/
theorem total_set (weight : TaskState α → Nat) {tasks : List (TaskState α)} {task : Nat}
    {old : TaskState α} (here : tasks[task]? = some old) (new : TaskState α) :
    total weight (tasks.set task new) + weight old = total weight tasks + weight new := by
  induction tasks generalizing task with
  | nil => simp at here
  | cons state rest ih =>
    cases task with
    | zero =>
      cases Option.some.inj here
      simp only [total, List.set_cons_zero, List.map_cons, List.sum_cons]
      omega
    | succ task =>
      have others := ih here
      simp only [total, List.set_cons_succ, List.map_cons, List.sum_cons] at others ⊢
      omega

/-- What is the same for both states of a task stays the same for all tasks when it changes. -/
theorem map_set_of_eq {β : Type} (view : TaskState α → β) {tasks : List (TaskState α)} {task : Nat}
    {old new : TaskState α} (here : tasks[task]? = some old) (same : view new = view old) :
    (tasks.set task new).map view = tasks.map view := by
  obtain ⟨inside, rfl⟩ := List.getElem?_eq_some_iff.1 here
  rw [List.map_set, same, ← List.map_set, List.set_getElem_self]

/-- The number of slots that a task holds. -/
def slotsHeld : TaskState α → Nat
  | .woken _ => 1
  | .running _ _ => 1
  | _ => 0

namespace Pool

/-- What an action needs and does. -/
theorem act_cases {pool next : Pool α} {now : Rat} {action : Action}
    (acted : pool.act now action = some next) :
    (∃ task trace, action = .arrive task ∧ pool.tasks[task]? = some (.created trace) ∧
      next = pool.arrive now task trace) ∨
    (∃ task trace, action = .enter task ∧ pool.tasks[task]? = some (.woken trace) ∧
      next = pool.proceed now task trace) ∨
    (∃ task wake trace, action = .resume task ∧ pool.tasks[task]? = some (.running wake trace) ∧
      next = pool.proceed now task trace) ∨
    (∃ task, action = .cancel task ∧ next = pool.cancel task) := by
  cases action with
  | arrive task =>
    simp only [act] at acted
    split at acted
    next trace here => exact .inl ⟨task, trace, rfl, here, (Option.some.inj acted).symm⟩
    next => cases acted
  | enter task =>
    simp only [act] at acted
    split at acted
    next trace here => exact .inr (.inl ⟨task, trace, rfl, here, (Option.some.inj acted).symm⟩)
    next => cases acted
  | resume task =>
    simp only [act] at acted
    split at acted
    next wake trace here =>
      exact .inr (.inr (.inl ⟨task, wake, trace, rfl, here, (Option.some.inj acted).symm⟩))
    next => cases acted
  | cancel task =>
    simp only [act] at acted
    split at acted
    next => cases acted
    next => cases acted
    next => exact .inr (.inr (.inr ⟨task, rfl, (Option.some.inj acted).symm⟩))
    next => cases acted

@[simp] theorem length_put (pool : Pool α) (task : Nat) (state : TaskState α) :
    (pool.put task state).tasks.length = pool.tasks.length :=
  List.length_set

@[simp] theorem length_release (pool : Pool α) : pool.release.tasks.length = pool.tasks.length := by
  unfold release
  split
  next => rfl
  next =>
    split
    next => exact length_put _ _ _
    next => rfl

@[simp] theorem length_proceed (pool : Pool α) (now : Rat) (task : Nat) (trace : Trace α) :
    (pool.proceed now task trace).tasks.length = pool.tasks.length := by
  unfold proceed
  split <;> simp

/-- No action creates or removes a task. -/
theorem length_act {pool next : Pool α} {now : Rat} {action : Action}
    (acted : pool.act now action = some next) : next.tasks.length = pool.tasks.length := by
  rcases act_cases acted with ⟨task, trace, -, -, rfl⟩ | ⟨task, trace, -, -, rfl⟩ |
    ⟨task, wake, trace, -, -, rfl⟩ | ⟨task, -, rfl⟩
  · unfold arrive
    split <;> simp
  · exact length_proceed _ _ _ _
  · exact length_proceed _ _ _ _
  · unfold cancel
    split <;> simp

/-! ### The invariant of the slots

Within one action a slot can be in nobody's hands: a task has given it back, and the next one in line is
about to get it. The invariant counts such slots, so that it holds at each step of an action and not only
between actions; the action itself begins and ends with none in hand. -/

/-- The accounts of a pool, with some of its slots in hand while an action is under way. -/
structure Sound (slots inHand : Nat) (pool : Pool α) : Prop where
  slots_eq : pool.free + total slotsHeld pool.tasks + inHand = slots
  nodup_line : pool.line.Nodup
  mem_line : ∀ task : Nat, task ∈ pool.line ↔ ∃ trace, pool.tasks[task]? = some (.waiting trace)
  busy : pool.line ≠ [] → pool.free = 0

theorem sound_ofTraces (slots : Nat) (traces : List (Trace α)) :
    (ofTraces slots traces).Sound slots 0 where
  slots_eq := by
    have none_held : total slotsHeld (traces.map TaskState.created) = 0 := by
      rw [total, List.map_map]
      exact List.sum_eq_zero (by simp [slotsHeld])
    change slots + total slotsHeld (traces.map TaskState.created) + 0 = slots
    rw [none_held, Nat.add_zero]
  nodup_line := List.nodup_nil
  mem_line := by
    intro task
    simp [ofTraces]
  busy := fun waits => absurd rfl waits

section

variable {slots inHand : Nat} {pool : Pool α} {task : Nat} {now : Rat}

/-- A task may change its state, and its place in line with it, when it takes slots from the hand or puts
them there. The other tasks keep their places. -/
theorem Sound.place {old new : TaskState α} {line : List Nat} {inHand' : Nat}
    (sound : pool.Sound slots inHand) (here : pool.tasks[task]? = some old)
    (slots_kept : inHand + slotsHeld old = inHand' + slotsHeld new) (nodup : line.Nodup)
    (self : task ∈ line ↔ ∃ trace, new = .waiting trace)
    (others : ∀ other, task ≠ other → (other ∈ line ↔ other ∈ pool.line))
    (busy : line ≠ [] → pool.free = 0) :
    { pool.put task new with line := line }.Sound slots inHand' where
  slots_eq := by
    have changed := total_set slotsHeld here new
    have before := sound.slots_eq
    change pool.free + total slotsHeld (pool.tasks.set task new) + inHand' = slots
    omega
  nodup_line := nodup
  mem_line := by
    intro other
    change other ∈ line ↔ ∃ trace, (pool.tasks.set task new)[other]? = some (.waiting trace)
    by_cases same : task = other
    · subst same
      have inside := (List.getElem?_eq_some_iff.1 here).1
      simp [self, inside]
    · rw [others other same, sound.mem_line other, List.getElem?_set_ne same]
  busy := busy

/-- A task that does not wait is not in line. -/
theorem Sound.not_mem_line {old : TaskState α} (sound : pool.Sound slots inHand)
    (here : pool.tasks[task]? = some old) (moves : ∀ trace, old ≠ .waiting trace) :
    task ∉ pool.line := by
  intro inside
  obtain ⟨trace, found⟩ := (sound.mem_line task).1 inside
  exact moves trace (Option.some.inj (here.symm.trans found))

/-- A task that neither was nor is in line leaves the line as it is. -/
theorem Sound.put {old new : TaskState α} {inHand' : Nat} (sound : pool.Sound slots inHand)
    (here : pool.tasks[task]? = some old) (slots_kept : inHand + slotsHeld old = inHand' + slotsHeld new)
    (old_moves : ∀ trace, old ≠ .waiting trace) (new_moves : ∀ trace, new ≠ .waiting trace) :
    (pool.put task new).Sound slots inHand' :=
  sound.place here slots_kept sound.nodup_line
    (iff_of_false (sound.not_mem_line here old_moves) fun ⟨trace, waits⟩ => new_moves trace waits)
    (fun _ _ => Iff.rfl) sound.busy

theorem Sound.release (sound : pool.Sound slots (inHand + 1)) : pool.release.Sound slots inHand := by
  unfold Pool.release
  split
  next empty =>
    refine ⟨?_, sound.nodup_line, sound.mem_line, fun waits => absurd empty waits⟩
    have before := sound.slots_eq
    dsimp only
    omega
  next first rest line =>
    obtain ⟨trace, here⟩ := (sound.mem_line first).1 (line ▸ List.mem_cons_self)
    have nodup := line ▸ sound.nodup_line
    rw [here]
    refine sound.place here (by simp [slotsHeld]) (List.nodup_cons.1 nodup).2 ?_ (fun other apart => ?_)
      fun _ => sound.busy (by simp [line])
    · exact iff_of_false (List.nodup_cons.1 nodup).1 (by simp)
    · rw [line, List.mem_cons, or_iff_right (Ne.symm apart)]

/-- A task that has a slot, or is given the one in hand, goes on. -/
theorem Sound.proceed {old : TaskState α} {trace : Trace α} (sound : pool.Sound slots inHand)
    (here : pool.tasks[task]? = some old) (one : inHand + slotsHeld old = 1)
    (moves : ∀ trace, old ≠ .waiting trace) : (pool.proceed now task trace).Sound slots 0 := by
  unfold Pool.proceed
  split
  next =>
    have ended : (pool.put task (.finished trace.outcome)).Sound slots (0 + 1) :=
      sound.put here one moves (by simp)
    exact Sound.release ⟨ended.slots_eq, ended.nodup_line, ended.mem_line, ended.busy⟩
  next leg rest _ =>
    have running : (pool.put task (.running (now + leg.delay) { trace with legs := rest })).Sound slots 0 :=
      sound.put here one moves (by simp)
    exact ⟨running.slots_eq, running.nodup_line, running.mem_line, running.busy⟩

theorem Sound.arrive {trace : Trace α} (sound : pool.Sound slots 0)
    (here : pool.tasks[task]? = some (.created trace)) : (pool.arrive now task trace).Sound slots 0 := by
  unfold Pool.arrive
  split
  next enters =>
    obtain ⟨free, empty⟩ := Bool.and_eq_true_iff.1 enters
    have taken : { pool with free := pool.free - 1 }.Sound slots 1 := by
      refine ⟨?_, sound.nodup_line, sound.mem_line,
        fun waits => absurd (List.isEmpty_iff.1 empty) waits⟩
      have before := sound.slots_eq
      have := of_decide_eq_true free
      dsimp only
      omega
    exact taken.proceed here rfl (by simp)
  next waits =>
    have out : task ∉ pool.line := sound.not_mem_line here (by simp)
    refine sound.place here rfl
      (List.Nodup.append sound.nodup_line (List.nodup_singleton task) (by simpa using out))
      (by simp) (fun other apart => ?_) fun _ => ?_
    · rw [List.mem_append, List.mem_singleton, or_iff_left (Ne.symm apart)]
    · by_cases empty : pool.line = []
      · simpa [empty] using waits
      · exact sound.busy empty

theorem Sound.cancel (sound : pool.Sound slots 0) : (pool.cancel task).Sound slots 0 := by
  unfold Pool.cancel
  split
  next trace here => exact sound.put here rfl (by simp) (by simp)
  next trace here =>
    refine sound.place here rfl (sound.nodup_line.erase task) ?_ (fun other apart => ?_)
      fun waits => sound.busy fun empty => waits (by simp [empty])
    · simp [sound.nodup_line.mem_erase_iff]
    · rw [sound.nodup_line.mem_erase_iff, and_iff_right (Ne.symm apart)]
  next trace here =>
    have given : (pool.put task .cancelled).Sound slots (0 + 1) := sound.put here rfl (by simp) (by simp)
    exact given.release
  next wake trace here =>
    have given : (pool.put task .cancelled).Sound slots (0 + 1) := sound.put here rfl (by simp) (by simp)
    exact given.release
  next => exact sound

/-- Every action keeps the accounts. -/
theorem sound_act {next : Pool α} {action : Action} (sound : pool.Sound slots 0)
    (acted : pool.act now action = some next) : next.Sound slots 0 := by
  rcases act_cases acted with ⟨task, trace, -, here, rfl⟩ | ⟨task, trace, -, here, rfl⟩ |
    ⟨task, wake, trace, -, here, rfl⟩ | ⟨task, -, rfl⟩
  · exact sound.arrive here
  · exact sound.proceed here rfl (by simp)
  · exact sound.proceed here rfl (by simp)
  · exact sound.cancel

/-- Where no task holds a slot and there is one, no task waits. -/
theorem Sound.not_waiting (sound : pool.Sound slots 0) (enough : 1 ≤ slots)
    (idle : total slotsHeld pool.tasks = 0) {trace : Trace α} :
    pool.tasks[task]? ≠ some (.waiting trace) := by
  intro here
  have inside := (sound.mem_line task).2 ⟨trace, here⟩
  have none_free := sound.busy (List.ne_nil_of_mem inside)
  have all := sound.slots_eq
  omega

end

end Pool

end QueryDesk.Catalog
