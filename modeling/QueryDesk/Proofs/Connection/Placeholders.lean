/-
Module: QueryDesk.Proofs.Connection.Placeholders
Purpose: Placeholders as they reach a driver. An adapter replaces the question marks that are live by the
  rules that all dialects share, and not by those of its own engine. So the text that is sent is the one
  that the engine's rules ask for exactly if both show the same question marks, which they do unless a
  rule of the engine alone decides something in the text: a dollar tag, a number sign, or a backslash
  that keeps a mark from closing its quotes.
Imports: QueryDesk.Connection.Adapter, QueryDesk.Proofs.Sql.Placeholder, QueryDesk.Proofs.Sql.Departure
Main exports: Adapter.statementsSent, Adapter.Serves, execute_translates
-/
import QueryDesk.Connection.Adapter
import QueryDesk.Proofs.Sql.Placeholder
import QueryDesk.Proofs.Sql.Departure

namespace QueryDesk

open QueryDesk.Sql

/-- The statement with which something reaches a driver. -/
def DriverEvent.statement? : DriverEvent → Option String
  | .fetch sql _ _ => some sql
  | .execute sql _ => some sql
  | _ => none

namespace Adapter

/-- The statements that reach the driver when an adapter executes a call. -/
def statementsSent (adapter : Adapter) (answers : String → List Value → CursorAnswers) (call : Call) :
    List String :=
  (adapter.execute answers call).2.1.filterMap DriverEvent.statement?

/-- Closing a cursor sends no statement. -/
theorem filterMap_closing (answers : CursorAnswers) (events : List DriverEvent)
    (outcome : Except Failure RawResult) :
    (closing answers events outcome).1.filterMap DriverEvent.statement? =
      events.filterMap DriverEvent.statement? := by
  unfold closing
  split <;> simp [DriverEvent.statement?]

/-- A run sends its statement once or not at all. -/
theorem filterMap_run (adapter : Adapter) (answers : CursorAnswers) (call : Call) (sql : String) :
    (adapter.run answers call sql).1.filterMap DriverEvent.statement? = [] ∨
      (adapter.run answers call sql).1.filterMap DriverEvent.statement? = [sql] := by
  unfold run
  dsimp only
  split
  case h_1 => exact .inr rfl
  case h_2 =>
    split
    · unfold runBlocking
      split
      · exact .inl rfl
      · rw [filterMap_closing]
        exact .inr rfl
    · exact .inl rfl
  case h_3 =>
    split
    · unfold runMysql
      split
      · exact .inl rfl
      · split
        · rw [filterMap_closing]
          exact .inr rfl
        · rw [filterMap_closing]
          exact .inl rfl
    · exact .inl rfl

/-- What is sent is the statement of the call in the style of the adapter. -/
theorem eq_statement_of_sent {adapter : Adapter} {answers : String → List Value → CursorAnswers}
    {call : Call} {sql : String} (sent : sql ∈ adapter.statementsSent answers call) :
    sql = adapter.statement call := by
  unfold statementsSent execute at sent
  split at sent
  · cases sent
  · rcases filterMap_run _ _ call (adapter.statement call) with none | one
    · rw [none] at sent
      cases sent
    · rw [one] at sent
      exact List.mem_singleton.1 sent

/-- The adapters that write placeholders in a style of their own, with the dialects of their engines. -/
inductive Serves : Adapter → Dialect → Prop where
  | postgres (locked : Bool) : Serves { Adapter.postgres with locked := locked } .postgres
  | mysql (locked : Bool) : Serves { Adapter.mysql with locked := locked } .mysql

/-- With parameters, such an adapter replaces the question marks that are live by the shared rules. -/
theorem statement_eq (adapter : Adapter) {call : Call} (supplied : call.params.getD [] ≠ []) :
    (adapter.statement call).toList =
      ({} : Lexis).replaceLive adapter.style.placeholder adapter.style.character
        call.sql.toList := by
  have some : (call.params.getD []).isEmpty = false := by simpa using supplied
  rw [statement, some, if_neg Bool.false_ne_true, String.toList_ofList, spellPlaceholders_eq]

/-! ### Two masks of one text

An adapter replaces the question marks that the shared rules leave live; its engine would have those that
its own rules leave live. A text with its marks replaced shows which ones were, since no style writes a
question mark: so the two texts are the same exactly if the two sets of marks are. -/

/-- The styles of such adapters show where a question mark has been replaced. -/
theorem Serves.shows {adapter : Adapter} {dialect : Dialect} (serves : adapter.Serves dialect) :
    adapter.style.character '?' = ['?'] ∧
      ∀ before, (adapter.style.placeholder before).headD '?' ≠ '?' := by
  cases serves with
  | postgres => exact ⟨rfl, fun _ => (by decide : '$' ≠ '?')⟩
  | mysql => exact ⟨rfl, fun _ => (by decide : '%' ≠ '?')⟩

/-- What an adapter sends when there are parameters: the text with the question marks replaced that are
live by the shared rules. It is the text with the placeholders of the engine replaced, those live by the
rules of its dialect, exactly if these are the same question marks; and it is that, with as many
placeholders, if only the shared rules decide anything in the text. -/
theorem execute_translates {adapter : Adapter} {dialect : Dialect} (serves : adapter.Serves dialect)
    (answers : String → List Value → CursorAnswers) {call : Call}
    (supplied : call.params.getD [] ≠ []) {sql : String}
    (sent : sql ∈ adapter.statementsSent answers call) :
    sql.toList = ({} : Lexis).replaceLive adapter.style.placeholder adapter.style.character
        call.sql.toList ∧
    (sql.toList = (Lexis.ofDialect dialect).replaceLive adapter.style.placeholder
        adapter.style.character call.sql.toList ↔
      ∀ position : Nat, (({} : Lexis).mask call.sql.toList)[position]? = some '?' ↔
        ((Lexis.ofDialect dialect).mask call.sql.toList)[position]? = some '?') ∧
    ((Lexis.ofDialect dialect).departs call.sql.toList = false →
      sql.toList = (Lexis.ofDialect dialect).replaceLive adapter.style.placeholder
          adapter.style.character call.sql.toList ∧
        ({} : Lexis).liveCount call.sql.toList =
          (Lexis.ofDialect dialect).liveCount call.sql.toList) := by
  obtain ⟨kept, apart⟩ := serves.shows
  have written : sql.toList = ({} : Lexis).replaceLive adapter.style.placeholder
      adapter.style.character call.sql.toList := by
    rw [eq_statement_of_sent sent, adapter.statement_eq supplied]
  refine ⟨written, ?_, fun shared => ?_⟩
  · rw [written]
    exact replaceMarked_eq_iff (Lexis.marksIn_mask _ _) (Lexis.marksIn_mask _ _) kept apart
  · have masks := Lexis.mask_eq_of_not_departs shared
    rw [written, Lexis.replaceLive, Lexis.replaceLive, Lexis.liveCount, Lexis.liveCount, masks]
    exact ⟨rfl, rfl⟩

/-- A call with a question mark in a literal and one outside, and a percent sign. -/
def literalCall : Call where
  sql := "SELECT 'it''s ?', ? || '%'"
  params := some [.int 1]

/-- The MySQL driver gets one placeholder for it. -/
theorem execute_translates_of_literal :
    Serves Adapter.mysql .mysql ∧ literalCall.params.getD [] ≠ [] ∧
      "SELECT 'it''s ?', %s || '%%'" ∈ Adapter.mysql.statementsSent (fun _ _ => {}) literalCall ∧
      (Lexis.ofDialect .mysql).departs literalCall.sql.toList = false ∧
      "SELECT 'it''s ?', %s || '%%'".toList =
        (Lexis.ofDialect .mysql).replaceLive Adapter.mysql.style.placeholder
          Adapter.mysql.style.character literalCall.sql.toList := by
  have serves : Serves Adapter.mysql .mysql := .mysql false
  have supplied : literalCall.params.getD [] ≠ [] := by decide
  have sent : "SELECT 'it''s ?', %s || '%%'" ∈
      Adapter.mysql.statementsSent (fun _ _ => {}) literalCall := by decide
  have shared : (Lexis.ofDialect .mysql).departs literalCall.sql.toList = false := by decide
  exact ⟨serves, supplied, sent, shared,
    ((execute_translates serves (fun _ _ => {}) supplied sent).2.2 shared).1⟩

/-- A question mark in a dollar-quoted string gets a number, so that the next one gets the wrong number;
and so does one behind an escaped mark or behind a number sign in MySQL. -/
theorem execute_translates_dead_marks :
    (∃ sql ∈ Adapter.postgres.statementsSent (fun _ _ => {})
        { sql := "SELECT $$?$$, ?", params := some [.int 1] },
      sql = "SELECT $$$1$$, $2" ∧
        sql.toList ≠ (Lexis.ofDialect .postgres).replaceLive Adapter.postgres.style.placeholder
          Adapter.postgres.style.character "SELECT $$?$$, ?".toList) ∧
    (∃ sql ∈ Adapter.mysql.statementsSent (fun _ _ => {})
        { sql := "SELECT 'a\\'?', ?", params := some [.int 1] },
      sql = "SELECT 'a\\'%s', ?" ∧
        sql.toList ≠ (Lexis.ofDialect .mysql).replaceLive Adapter.mysql.style.placeholder
          Adapter.mysql.style.character "SELECT 'a\\'?', ?".toList) ∧
    (∃ sql ∈ Adapter.mysql.statementsSent (fun _ _ => {})
        { sql := "SELECT ? # why?", params := some [.int 1] },
      sql = "SELECT %s # why%s" ∧
        sql.toList ≠ (Lexis.ofDialect .mysql).replaceLive Adapter.mysql.style.placeholder
          Adapter.mysql.style.character "SELECT ? # why?".toList) := by
  refine ⟨⟨"SELECT $$$1$$, $2", ?_, rfl, ?_⟩, ⟨"SELECT 'a\\'%s', ?", ?_, rfl, ?_⟩,
    ⟨"SELECT %s # why%s", ?_, rfl, ?_⟩⟩ <;> decide

end Adapter

end QueryDesk
