/-
Module: QueryDesk.Proofs.Service.AuditLines
Purpose: Audit files hold lines of JSON. Calls that append to one file take turns under a lock. Whenever
  none of them is writing, the file has one line for each event whose call was given the lock, in that
  order, and each line reads as the fields of its event, whatever texts these are.
Imports: QueryDesk.Service.Audit, QueryDesk.Proofs.Text.Splitting, QueryDesk.Proofs.Value.Reader
Main exports: splitAtChar_lines, Measure.IsFinite, AuditEvent.plain_fields, AppendAction, Appender.act,
  Appender.follow, Appender.Sound, Appender.Sound.act, Appender.Sound.follow, audit_file_reads_back
-/
import QueryDesk.Service.Audit
import QueryDesk.Proofs.Text.Splitting
import QueryDesk.Proofs.Value.Reader

namespace QueryDesk

open QueryDesk.Text QueryDesk.Number QueryDesk.Number.Binary64

/-- Lines that each end with the separator are told apart by it, and nothing is left behind the last one. -/
theorem splitAtChar_lines {separator : Char} {lines : List (List Char)}
    (clean : ∀ line ∈ lines, separator ∉ line) :
    splitAtChar separator (lines.flatMap (· ++ [separator])) = lines ++ [[]] := by
  induction lines with
  | nil => rfl
  | cons line lines ih =>
    rw [List.flatMap_cons, List.append_assoc, List.singleton_append, splitAtChar_append,
      splitAtChar_of_not_mem (clean line List.mem_cons_self),
      ih fun other member => clean other (List.mem_cons_of_mem _ member)]
    rfl

/-- The measures that JSON has a form for: whole numbers and finite binary64 numbers. -/
def Number.Measure.IsFinite : Measure → Prop
  | .whole _ => True
  | .binary (.finite _ mantissa exponent) => Mantissa mantissa exponent
  | .binary _ => False

namespace AuditEvent

variable {event : AuditEvent}

theorem plain_ofText? (text : Option String) : Json.Plain (.ofText? text) := by
  cases text with
  | none => exact .null
  | some text => exact .text text

/-- The fields of an event are a plain mapping. -/
theorem plain_fields (finite : event.elapsedMs.IsFinite) : Json.Plain (.mapping event.fields) := by
  have count : Json.Plain (.ofInt? event.rowCount) := by
    cases event.rowCount with
    | none => exact .null
    | some count => exact .int count
  have elapsed : Json.Plain (.ofMeasure event.elapsedMs) := by
    unfold Measure.IsFinite at finite
    split at finite
    next value measured => exact measured ▸ .int value
    next fits measured => exact measured ▸ .float finite
    next => exact finite.elim
  refine .mapping ?_ (by simp [fields]) ?_
  · simp [fields]
  · simp only [fields, List.forall_mem_cons]
    exact ⟨.text _, .text _, plain_ofText? _, .text _, .text _, .text _, count, elapsed, .bool _,
      plain_ofText? _, plain_ofText? _, List.forall_mem_nil _⟩

theorem toList_json (event : AuditEvent) : event.json.toList = (Value.mapping event.fields).compact := by
  rw [json, Value.compactJson, String.toList_ofList]

/-- Reading the line of an event gives its fields. -/
theorem readJson_json (finite : event.elapsedMs.IsFinite) :
    Json.readJson event.json.toList = some (.mapping event.fields) := by
  rw [toList_json]
  exact Json.readJson_compact (plain_fields finite)

/-- No text of an event ends its line. -/
theorem newline_notMem_json (finite : event.elapsedMs.IsFinite) : '\n' ∉ event.json.toList := by
  intro member
  rw [toList_json] at member
  exact absurd (Json.isShown_compact (plain_fields finite) '\n' member) (by decide)

theorem json_ne_nil (event : AuditEvent) : event.json.toList ≠ [] := by
  rw [toList_json]
  exact List.cons_ne_nil _ _

theorem toList_written (path : String) (event : AuditEvent) :
    (AuditSink.written (.file path) event).toList = event.json.toList ++ ['\n'] := by
  rw [AuditSink.written, String.toList_append]
  rfl

end AuditEvent

/-! ### Calls under a lock

The file is written piece by piece, and between two pieces anything may happen. What holds at any moment is
said of the file together with the text that the holder of the lock has still to write: they are whole
lines. Each action keeps this, and when all calls have ended there is no such text left. -/

/-- The calls that append to one file: the events of those that wait for the lock, what the one that has
the lock is still to write, the events whose calls have been given the lock, in order, and the file. -/
structure Appender where
  waiting : List AuditEvent := []
  holder : Option (List Char) := none
  granted : List AuditEvent := []
  file : List Char := []
deriving Repr, DecidableEq

/-- A step of one call: it comes in, it gets the lock as one of those that wait, it writes some of what it
has to, or it gives the lock back. -/
inductive AppendAction where
  | call (event : AuditEvent)
  | grant (place : Nat)
  | write (count : Nat)
  | release
deriving Repr, DecidableEq

/-- The event that comes in with an action. -/
def AppendAction.event? : AppendAction → Option AuditEvent
  | .call event => some event
  | _ => none

namespace Appender

/-- What becomes of the calls with an action, if it is possible. Only a free lock is given away, and only a
call that has written all of its line gives it back. -/
def act (sink : AuditSink) (state : Appender) : AppendAction → Option Appender
  | .call event => some { state with waiting := state.waiting ++ [event] }
  | .grant place =>
    match state.holder, state.waiting[place]? with
    | none, some event =>
      some { state with
        waiting := state.waiting.eraseIdx place
        holder := some (sink.written event).toList
        granted := state.granted ++ [event] }
    | _, _ => none
  | .write count =>
    state.holder.map fun left =>
      { state with holder := some (left.drop count), file := state.file ++ left.take count }
  | .release => if state.holder = some [] then some { state with holder := none } else none

/-- What becomes of the calls with one action after the other. -/
def follow (sink : AuditSink) (state : Appender) : List AppendAction → Option Appender
  | [] => some state
  | action :: rest => (state.act sink action).bind fun next => next.follow sink rest

variable {sink : AuditSink} {state next last : Appender} {called : List AuditEvent} {action : AppendAction}
  {schedule : List AppendAction}

/-- What an action can do. -/
theorem act_cases (acted : state.act sink action = some next) :
    (∃ event, action = .call event ∧ next = { state with waiting := state.waiting ++ [event] }) ∨
    (∃ place event, action = .grant place ∧ state.holder = none ∧ state.waiting[place]? = some event ∧
      next = { state with
        waiting := state.waiting.eraseIdx place
        holder := some (sink.written event).toList
        granted := state.granted ++ [event] }) ∨
    (∃ count left, action = .write count ∧ state.holder = some left ∧
      next = { state with holder := some (left.drop count), file := state.file ++ left.take count }) ∨
    (action = .release ∧ state.holder = some [] ∧ next = { state with holder := none }) := by
  cases action with
  | call event => exact .inl ⟨event, rfl, (Option.some.inj acted).symm⟩
  | grant place =>
    rw [act] at acted
    split at acted
    next event free here => exact .inr (.inl ⟨place, event, rfl, free, here, (Option.some.inj acted).symm⟩)
    next => cases acted
  | write count =>
    obtain ⟨left, held, same⟩ := Option.map_eq_some_iff.1 acted
    exact .inr (.inr (.inl ⟨count, left, rfl, held, same.symm⟩))
  | release =>
    rw [act] at acted
    split_ifs at acted with finished
    exact .inr (.inr (.inr ⟨rfl, finished, (Option.some.inj acted).symm⟩))

/-- What holds at any moment: the file and what the holder is still to write are the lines of the events
whose calls were given the lock, and each event that came in is one of them or one that waits. -/
structure Sound (sink : AuditSink) (called : List AuditEvent) (state : Appender) : Prop where
  lines : state.file ++ state.holder.getD [] = state.granted.flatMap fun event => (sink.written event).toList
  answered : (state.granted ++ state.waiting).Perm called

theorem sound_empty (sink : AuditSink) : Sound sink [] {} :=
  ⟨rfl, .nil⟩

/-- No action tears a line or loses an event. -/
theorem Sound.act (sound : Sound sink called state) (acted : state.act sink action = some next) :
    Sound sink (called ++ action.event?.toList) next := by
  obtain ⟨lines, answered⟩ := sound
  obtain ⟨waiting, holder, granted, file⟩ := state
  have kept : (granted ++ waiting).Perm (called ++ []) := by rwa [List.append_nil]
  rcases act_cases acted with ⟨event, rfl, rfl⟩ | ⟨place, event, rfl, free, here, rfl⟩ |
    ⟨count, left, rfl, held, rfl⟩ | ⟨rfl, held, rfl⟩
  · refine ⟨lines, ?_⟩
    rw [← List.append_assoc]
    exact answered.append_right [event]
  · subst free
    obtain ⟨inside, rfl⟩ := List.getElem?_eq_some_iff.1 here
    constructor
    · rw [Option.getD_none, List.append_nil] at lines
      rw [Option.getD_some, List.flatMap_append, List.flatMap_singleton, lines]
    · refine List.Perm.trans ?_ kept
      rw [List.append_assoc]
      exact (List.getElem_cons_eraseIdx_perm inside).append_left _
  · subst held
    refine ⟨?_, kept⟩
    rw [Option.getD_some] at lines ⊢
    rw [List.append_assoc, List.take_append_drop, lines]
  · subst held
    exact ⟨lines, kept⟩

theorem Sound.follow (sound : Sound sink called state) (followed : state.follow sink schedule = some last) :
    Sound sink (called ++ schedule.filterMap AppendAction.event?) last := by
  induction schedule generalizing state called with
  | nil =>
    cases followed
    rwa [List.filterMap_nil, List.append_nil]
  | cons action rest ih =>
    obtain ⟨next, acted, followed⟩ := Option.bind_eq_some_iff.1 followed
    have onward := ih (sound.act acted) followed
    rw [List.append_assoc] at onward
    cases action <;> exact onward

end Appender

/-- Events that are logged to one file by calls in any order: when all calls have ended, splitting the file
at the line feeds gives a line for each event, in the order in which the calls were given the lock, and an
empty rest. Each line has something in it, and reading it gives the fields of its event. -/
theorem audit_file_reads_back {path : String} {schedule : List AppendAction} {last : Appender}
    (followed : Appender.follow (.file path) {} schedule = some last)
    (ended : last.holder = none ∧ last.waiting = [])
    (finite : ∀ event ∈ schedule.filterMap AppendAction.event?, event.elapsedMs.IsFinite) :
    last.granted.Perm (schedule.filterMap AppendAction.event?) ∧
      splitAtChar '\n' last.file = (last.granted.map fun event => event.json.toList) ++ [[]] ∧
      ∀ event ∈ last.granted, event.json.toList ≠ [] ∧
        Json.readJson event.json.toList = some (.mapping event.fields) := by
  obtain ⟨lines, answered⟩ := (Appender.sound_empty (.file path)).follow followed
  obtain ⟨free, none_waits⟩ := ended
  rw [free, Option.getD_none, List.append_nil] at lines
  rw [none_waits, List.append_nil, List.nil_append] at answered
  have finite_granted : ∀ event ∈ last.granted, event.elapsedMs.IsFinite :=
    fun event member => finite event (answered.subset member)
  refine ⟨answered, ?_, fun event member =>
    ⟨event.json_ne_nil, AuditEvent.readJson_json (finite_granted event member)⟩⟩
  have written : last.file = (last.granted.map fun event => event.json.toList).flatMap (· ++ ['\n']) := by
    rw [lines, List.flatMap_map]
    simp only [AuditEvent.toList_written]
  rw [written]
  refine splitAtChar_lines fun line member => ?_
  obtain ⟨event, among, rfl⟩ := List.mem_map.1 member
  exact AuditEvent.newline_notMem_json (finite_granted event among)

/-- Two calls of which the later one gets the lock first, and writes its line in two pieces. -/
def crossedCalls (path : String) (first second : AuditEvent) : List AppendAction :=
  [.call first, .call second, .grant 1, .write 9, .write (AuditSink.written (.file path) second).toList.length,
    .release, .grant 0, .write (AuditSink.written (.file path) first).toList.length, .release]

theorem follow_crossedCalls (path : String) (first second : AuditEvent) :
    Appender.follow (.file path) {} (crossedCalls path first second) =
      some {
        granted := [second, first]
        file := (AuditSink.written (.file path) second).toList ++ (AuditSink.written (.file path) first).toList } := by
  have whole : ∀ text more : List Char, text.take 9 ++ ((text.drop 9).take text.length ++ more) = text ++ more := by
    intro text more
    have rest : (text.drop 9).take text.length = text.drop 9 := List.take_of_length_le (by simp)
    rw [rest, ← List.append_assoc, List.take_append_drop]
  simp [crossedCalls, Appender.follow, Appender.act, whole]

/-- A statement of two lines with quotes fails with a message of two lines, and another one is refused. -/
theorem audit_file_reads_back_crossed :
    let first : AuditEvent :=
      { timestamp := "2024-01-01T00:00:00+00:00", type := .failed, dataSource := some "a\nb", dialect := "postgres"
        sql := "SELECT \"x\\\n\u2028FROM t", sqlHash := "sha256:0"
        elapsedMs := .binary (.finite false (2 ^ 52) (-54)), errorMessage := some "line 1\n\x7b\"sql\":null\x7d" }
    let second : AuditEvent :=
      { timestamp := "2024-01-01T00:00:01+00:00", type := .denied, dataSource := none, dialect := "mysql"
        sql := "DROP TABLE t", sqlHash := "sha256:1", elapsedMs := .whole 3 }
    ∃ last : Appender,
      Appender.follow (.file "audit.jsonl") {} (crossedCalls "audit.jsonl" first second) = some last ∧
      last.granted.Perm [first, second] ∧
      splitAtChar '\n' last.file = (last.granted.map fun event => event.json.toList) ++ [[]] ∧
      ∀ event ∈ last.granted, event.json.toList ≠ [] ∧
        Json.readJson event.json.toList = some (.mapping event.fields) := by
  intro first second
  have followed := follow_crossedCalls "audit.jsonl" first second
  refine ⟨_, followed, audit_file_reads_back followed ⟨rfl, rfl⟩ ?_⟩
  intro event member
  rcases List.mem_pair.1 member with rfl | rfl
  · exact ⟨by decide, by decide, by decide, by decide⟩
  · trivial

end QueryDesk
