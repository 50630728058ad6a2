/-
Module: QueryDesk.Proofs.Service.Sending
Purpose: What executing a request sends. Nothing is sent for a text that is blank, that the gate refuses or
  that cannot be bounded; for any other one at most one call is sent, with the bounded text, which the gate
  lets through as well.
Imports: QueryDesk.Service.Query, QueryDesk.Proofs.Page.Conversions, QueryDesk.Proofs.Page.Opening
Main exports: QueryService.standard, pageFailure?_eq, execute_sent, execute_of_unwritten,
  execute_sends_reads
-/
import QueryDesk.Service.Query
import QueryDesk.Proofs.Page.Conversions
import QueryDesk.Proofs.Page.Opening

namespace QueryDesk

open QueryDesk.Number QueryDesk.Text QueryDesk.Sql

namespace QueryService

/-- The service for which nothing is set. -/
def standard : QueryService where
  settings :=
    { defaultPageSize := .standard
      maxPageSize := .standardMax
      queryTimeout := .ofInt 30
      slowQuery := .ofInt 5
      introspectionBudget := standardBudget
      introspectionConcurrency := standardConcurrency
      logLevel := "INFO"
      logFormat := "text"
      auditStorage := "stdout"
      auditFilePath := none }
  sink := .log

example : Settings.read [] = .valid standard.settings := by rfl

variable (service : QueryService) (connection : Call → Reply) (watch : Stopwatch) (stamp : String)
  (request : QueryRequest)

/-- The page of a request fails as bounding its text to the limit and the offset of its directive does. -/
theorem pageFailure?_eq :
    service.pageFailure? request = boundFailure? request.dialect (service.page request).directive.limit
      (service.page request).directive.offset request.sql.toList := by
  unfold pageFailure? boundQuery page paginate
  dsimp only
  generalize boundFailure? _ _ _ _ = failure
  cases failure <;> rfl

theorem shape_sent (sent : List Call) (answer : Value) :
    (service.shape watch stamp request sent answer).sent = sent := by
  unfold shape
  dsimp only
  split
  · rfl
  · split <;> rfl

/-- What is sent for a request: the call of its page, if the text is neither blank nor refused, can be
bounded, and there is any time for it. -/
theorem execute_sent :
    (service.execute connection watch stamp request).sent =
      if isBlankText request.sql.toList = false ∧ isRead request.sql.toList = true ∧
          service.pageFailure? request = none ∧
          (TimeLimit.ofMeasure? (service.call request).timeout).starts = true
      then [service.call request] else [] := by
  by_cases blank : isBlankText request.sql.toList = true
  · simp [execute, blank]
  · by_cases reads : isRead request.sql.toList = true
    · simp only [execute, Bool.eq_false_iff.2 blank, reads, Bool.false_eq_true, Bool.not_true, if_false,
        true_and]
      cases unwritten : service.pageFailure? request with
      | some failure => simp
      | none =>
        simp only [true_and]
        split
        · rfl
        · exact shape_sent ..
    · simp [execute, deny, blank, reads]

/-- A text that reads, and whose page cannot be written, fails as its page does, and that is all. -/
theorem execute_of_unwritten (filled : isBlankText request.sql.toList = false)
    (reads : isRead request.sql.toList = true) {failure : Failure}
    (unwritten : service.pageFailure? request = some failure) :
    service.execute connection watch stamp request = { result := .error (.failed failure) } := by
  simp only [execute, filled, reads, unwritten, Bool.false_eq_true, Bool.not_true, if_false]

/-- Every text that is sent passes the gate, the bounded one as the submitted one did. At most one call is
sent for a request, and none for a text that is blank or that the gate refuses. -/
theorem execute_sends_reads :
    (service.execute connection watch stamp request).sent.length ≤ 1 ∧
      (∀ call ∈ (service.execute connection watch stamp request).sent,
        call.sql = (service.page request).sql ∧ isRead call.sql.toList = true) ∧
      (isBlankText request.sql.toList = true ∨ isRead request.sql.toList = false →
        (service.execute connection watch stamp request).sent = []) := by
  rw [execute_sent]
  split_ifs with allowed
  · obtain ⟨filled, reads, -⟩ := allowed
    refine ⟨Nat.le_refl _, fun call member => ?_, fun refused => ?_⟩
    · rw [List.mem_singleton.1 member]
      refine ⟨rfl, ?_⟩
      rw [QueryService.call, page, paginate, String.toList_ofList]
      exact isRead_boundText _ _ _ reads
    · rcases refused with blank | refused
      · rw [filled] at blank
        cases blank
      · rw [reads] at refused
        cases refused
  · exact ⟨Nat.zero_le _, fun call member => absurd member List.not_mem_nil, fun _ => rfl⟩

end QueryService

end QueryDesk
