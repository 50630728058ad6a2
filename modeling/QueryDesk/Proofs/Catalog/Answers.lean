/-
Module: QueryDesk.Proofs.Catalog.Answers
Purpose: Procedures on a connection that gives one answer to each call. How such a procedure ends does
  not depend on when its answers arrive, and every engine describes a listed relation under the key it
  was listed with.
Imports: QueryDesk.Proofs.Catalog.Endings
Main exports: Procedure.answered, Procedure.outcome_trace, Procedure.answered_guarded,
  Trace.Waits, Procedure.waits_trace, Engine.KeepsKeys, Engine.keepsKeys_ofDialect
-/
import Mathlib.Algebra.Order.Field.Rat
import QueryDesk.Proofs.Catalog.Endings

namespace QueryDesk.Catalog

variable {α β : Type} {answers : Call → Except Failure Value}

namespace Procedure

/-- How a procedure ends when every call has its answer. -/
def answered (answers : Call → Except Failure Value) : Procedure α → Except Failure α
  | .done outcome => outcome
  | .ask call next => (next (answers call)).answered answers
  | .log _ next => next.answered answers

@[simp] theorem answered_pure (value : α) :
    (pure value : Procedure α).answered answers = .ok value := rfl

@[simp] theorem answered_ofOutcome (outcome : Except Failure α) :
    (ofOutcome outcome).answered answers = outcome := rfl

@[simp] theorem answered_note (message : String) :
    (note message).answered answers = .ok () := rfl

theorem answered_bind (first : Procedure α) (next : α → Procedure β) :
    (first >>= next).answered answers =
      first.answered answers >>= fun value => (next value).answered answers := by
  change (first.bind next).answered answers = _
  induction first with
  | done outcome => cases outcome <;> rfl
  | ask call continuation ih => exact ih (answers call)
  | log entry rest ih => exact ih

theorem answered_recover (procedure : Procedure α) (handle : Failure → Procedure α) :
    (procedure.recover handle).answered answers =
      match procedure.answered answers with
      | .ok value => .ok value
      | .error failure => (handle failure).answered answers := by
  induction procedure with
  | done outcome => cases outcome <;> rfl
  | ask call next ih => exact ih (answers call)
  | log entry rest ih => exact ih

/-- What a procedure ends with is among the outcomes that it may end with. -/
theorem mayEnd_answered (answers : Call → Except Failure Value) (procedure : Procedure α) :
    procedure.MayEnd (procedure.answered answers) := by
  induction procedure with
  | done outcome => rfl
  | ask call next ih => exact ⟨answers call, ih (answers call)⟩
  | log entry next ih => exact ih

/-- A guarded description never fails: it ends without a relation where the description fails. -/
theorem answered_guarded (ref : RelationRef) (describe : Procedure α) (wrap : α → Relation) :
    (guarded ref describe wrap).answered answers =
      .ok ((describe.answered answers).toOption.map wrap) := by
  have described : (describe.bind fun found => return some (wrap found)).answered answers =
      describe.answered answers >>= fun found => .ok (some (wrap found)) :=
    answered_bind describe fun found => return some (wrap found)
  rw [guarded, answered_recover, described]
  cases describe.answered answers <;> rfl

/-- The outcome of a trace depends on the answers alone, not on the delays or on what came before. -/
theorem outcome_trace (procedure : Procedure α) {reply : Nat → Call → Reply}
    (same : ∀ turn call, (reply turn call).answer = answers call) (turn : Nat)
    (happened : List Happening) :
    (procedure.trace reply turn happened).outcome = procedure.answered answers := by
  induction procedure generalizing turn happened with
  | done outcome => rfl
  | ask call next ih =>
    simp only [trace, answered, same]
    split
    · exact ih (answers call) (turn + 1) []
    · exact ih (answers call) (turn + 1) _
  | log entry next ih => exact ih turn _

end Procedure

/-- A trace in which every wait takes some time. -/
def Trace.Waits (trace : Trace α) : Prop :=
  ∀ leg ∈ trace.legs, 0 < leg.delay

theorem Procedure.waits_trace (procedure : Procedure α) (reply : Nat → Call → Reply) (turn : Nat)
    (happened : List Happening) : (procedure.trace reply turn happened).Waits := by
  induction procedure generalizing turn happened with
  | done outcome => simp [trace, Trace.Waits]
  | ask call next ih =>
    simp only [trace]
    split
    next slow =>
      intro leg member
      rcases List.mem_cons.1 member with rfl | member
      · exact slow
      · exact ih _ (turn + 1) [] leg member
    next => exact ih _ (turn + 1) _
  | log entry next ih => exact ih turn _

theorem Trace.Waits.duration_nonneg {trace : Trace α} (waits : trace.Waits) :
    0 ≤ trace.duration := by
  obtain ⟨legs, last, outcome⟩ := trace
  simp only [Waits, duration] at waits ⊢
  induction legs with
  | nil => exact Rat.le_refl
  | cons leg rest ih =>
    have here := waits leg List.mem_cons_self
    have others := ih fun other member => waits other (List.mem_cons_of_mem leg member)
    rw [List.foldr_cons]
    exact Rat.add_nonneg here.le others

/-- The engine describes each relation that it lists under the key of the listing, where calls are
answered so. -/
structure Engine.KeepsKeys (engine : Engine) (answers : Call → Except Failure Value) : Prop where
  table : ∀ {refs : List RelationRef} {ref : RelationRef} {found : Table},
    engine.tables.answered answers = .ok refs → ref ∈ refs →
      (engine.describeTable ref).answered answers = .ok found → found.key = ref.key
  view : ∀ {refs : List RelationRef} {ref : RelationRef} {found : View},
    engine.views.answered answers = .ok refs → ref ∈ refs →
      (engine.describeView ref).answered answers = .ok found → found.key = ref.key

/-- Every engine keeps the keys of its listings. -/
theorem Engine.keepsKeys_ofDialect (dialect : Dialect) :
    (Engine.ofDialect dialect).KeepsKeys answers where
  table := by
    intro refs ref found listed member described
    exact (keepsListedKeys_ofDialect dialect).table (listed ▸ Procedure.mayEnd_answered answers _) member
      (described ▸ Procedure.mayEnd_answered answers _)
  view := by
    intro refs ref found listed member described
    exact (keepsListedKeys_ofDialect dialect).view (listed ▸ Procedure.mayEnd_answered answers _) member
      (described ▸ Procedure.mayEnd_answered answers _)

end QueryDesk.Catalog
