/-
Module: QueryDesk.Proofs.Service.Fingerprint
Purpose: The text that an audit event identifies. A refusal is recorded under the submitted text, and
  everything else under the text of the page that was sent; how the request ends makes no difference.
Imports: QueryDesk.Proofs.Service.Audited
Main exports: AuditEvent.Identifies, AuditAlike, AuditEvent.Identifies.iff_alike,
  QueryService.auditedText, QueryService.identifies_of_recorded, QueryService.audited_identifies
-/
import QueryDesk.Proofs.Service.Audited

namespace QueryDesk

open QueryDesk.Number QueryDesk.Text QueryDesk.Sql

/-- An event identifies a text: it has the fingerprint of all of it, and its beginning. -/
structure AuditEvent.Identifies (event : AuditEvent) (sql : String) : Prop where
  hash : event.sqlHash = hashSql sql
  text : event.sql = String.ofList (sql.toList.take auditTextLength)

/-- Texts that events do not tell apart. -/
structure AuditAlike (a b : String) : Prop where
  hash : hashSql a = hashSql b
  text : a.toList.take auditTextLength = b.toList.take auditTextLength

/-- A text that is shorter than a cut one is like no other. -/
theorem AuditAlike.eq_of_short {a b : String} (alike : AuditAlike a b)
    (short : b.length < auditTextLength) : a = b := by
  rw [← String.length_toList] at short
  have beginning := alike.text.trans (List.take_of_length_le short.le)
  -- The beginning of the other text is shorter than a cut one, so that it is all of that text.
  have lengths := congrArg List.length beginning
  rw [List.length_take] at lengths
  rw [List.take_of_length_le (by omega)] at beginning
  exact String.toList_inj.1 beginning

/-- An event that identifies a text identifies the texts that are like it, and no others. -/
theorem AuditEvent.Identifies.iff_alike {event : AuditEvent} {a b : String}
    (identifies : event.Identifies a) : event.Identifies b ↔ AuditAlike a b := by
  constructor
  · intro other
    exact ⟨identifies.hash.symm.trans other.hash,
      String.ofList_injective (identifies.text.symm.trans other.text)⟩
  · intro alike
    exact ⟨identifies.hash.trans alike.hash, by rw [identifies.text, alike.text]⟩

/-- Events of two texts have the same fingerprint and text when the texts are alike, and only then. -/
theorem AuditEvent.Identifies.same_iff {first second : AuditEvent} {a b : String}
    (identifiesFirst : first.Identifies a) (identifiesSecond : second.Identifies b) :
    (first.sqlHash = second.sqlHash ∧ first.sql = second.sql) ↔ AuditAlike a b := by
  rw [← identifiesFirst.iff_alike]
  constructor
  · rintro ⟨hash, text⟩
    exact ⟨hash.trans identifiesSecond.hash, text.trans identifiesSecond.text⟩
  · intro both
    exact ⟨both.hash.trans identifiesSecond.hash.symm, both.text.trans identifiesSecond.text.symm⟩

namespace QueryService

variable {service : QueryService} {connection : Call → Reply} {watch : Stopwatch} {stamp : String}
  {request : QueryRequest} {event : AuditEvent}

/-- The text that a request is recorded under: its own if it does not read, and else that of its page. -/
def auditedText (service : QueryService) (request : QueryRequest) : String :=
  if isRead request.sql.toList then (service.page request).sql else request.sql

/-- The event of a text that reads is one of its page, whether its statement fails or is answered. A page
that cannot be written leaves no event. -/
theorem identifies_of_reads (filled : isBlankText request.sql.toList = false)
    (reads : isRead request.sql.toList = true)
    (recorded : (service.execute connection watch stamp request).audit = some event) :
    event.Identifies (service.page request).sql ∧ event.type ≠ .denied := by
  have written : service.pageFailure? request = none := by
    refine Option.eq_none_iff_forall_ne_some.2 fun failure unwritten => ?_
    rw [service.execute_of_unwritten connection watch stamp request filled reads unwritten] at recorded
    cases recorded
  cases reached : (connection (service.call request)).within
      (TimeLimit.ofMeasure? (service.call request).timeout) with
  | error failure =>
    obtain ⟨sent, failed⟩ :=
      service.execute_of_failed connection watch stamp request filled reads written reached
    rw [failed] at recorded
    cases recorded
    exact ⟨⟨rfl, rfl⟩, show AuditEventType.failed ≠ .denied by decide⟩
  | ok answer =>
    rw [service.execute_of_answered connection watch stamp request filled reads written reached] at recorded
    rcases service.shape_cases watch stamp request [service.call request] answer with
      ⟨-, outcome, -, audit⟩ | ⟨-, audit, -⟩
    · rw [audit] at recorded
      cases recorded
      exact ⟨⟨rfl, rfl⟩, show AuditEventType.executed ≠ .denied by decide⟩
    · rw [audit] at recorded
      cases recorded

/-- The event of a request is one of its audited text, and of a denial if the request does not read. -/
theorem identifies_of_recorded
    (recorded : (service.execute connection watch stamp request).audit = some event) :
    event.Identifies (service.auditedText request) ∧
      (event.type = .denied ↔ isRead request.sql.toList = false) := by
  cases filled : isBlankText request.sql.toList with
  | true =>
    simp only [execute, filled, if_true] at recorded
    cases recorded
  | false =>
    rw [auditedText]
    cases reads : isRead request.sql.toList with
    | false =>
      rw [service.execute_of_not_reads connection watch stamp request filled reads] at recorded
      cases recorded
      exact ⟨⟨rfl, rfl⟩, iff_of_true rfl rfl⟩
    | true =>
      obtain ⟨identifies, admitted⟩ := identifies_of_reads filled reads recorded
      exact ⟨identifies, iff_of_false admitted (by decide)⟩

/-- The event of a request identifies the submitted text when it is the event of a denial, which is
exactly when the text does not read. Every other event identifies the text of the page that the request is
bounded to, and so the submitted text only when bounding leaves it as it is, or when events do not tell
the two apart, which they always do for a text shorter than what they keep. Two requests are recorded with
the same fingerprint and text, whatever they end with, exactly when their audited texts are alike. -/
theorem audited_identifies
    (recorded : (service.execute connection watch stamp request).audit = some event) :
    (event.type = .denied ↔ isRead request.sql.toList = false) ∧
    (event.type = .denied → event.Identifies request.sql) ∧
    (event.type ≠ .denied →
      event.Identifies (service.page request).sql ∧
      (event.Identifies request.sql ↔ AuditAlike (service.page request).sql request.sql) ∧
      (request.sql.length < auditTextLength →
        (event.Identifies request.sql ↔ (service.page request).sql = request.sql))) ∧
    ∀ {other : QueryService} {connection' : Call → Reply} {watch' : Stopwatch} {stamp' : String}
      {request' : QueryRequest} {event' : AuditEvent},
      (other.execute connection' watch' stamp' request').audit = some event' →
      ((event.sqlHash = event'.sqlHash ∧ event.sql = event'.sql) ↔
        AuditAlike (service.auditedText request) (other.auditedText request')) := by
  obtain ⟨identifies, denied_iff⟩ := identifies_of_recorded recorded
  refine ⟨denied_iff, fun denied => ?_, fun admitted => ?_, fun recorded' => ?_⟩
  · rw [auditedText, denied_iff.1 denied] at identifies
    exact identifies
  · have reads : isRead request.sql.toList = true :=
      Bool.ne_false_iff.1 fun closed => admitted (denied_iff.2 closed)
    rw [auditedText, reads] at identifies
    have alike_iff : event.Identifies request.sql ↔
        AuditAlike (service.page request).sql request.sql := identifies.iff_alike
    refine ⟨identifies, alike_iff, fun short => ⟨fun own => ?_, fun unchanged => ?_⟩⟩
    · exact (alike_iff.1 own).eq_of_short short
    · exact unchanged ▸ identifies
  · exact identifies.same_iff (identifies_of_recorded recorded').1

theorem audited_identifies_first_page :
    ∃ event, (standard.execute (answering (.list [])) {} "" { sql := "SELECT 1" }).audit = some event ∧
      event.Identifies "SELECT 1 LIMIT 50 OFFSET 0" ∧ ¬ event.Identifies "SELECT 1" := by
  obtain ⟨event, recorded⟩ := Option.isSome_iff_exists.1
    (show (standard.execute (answering (.list [])) {} "" { sql := "SELECT 1" }).audit.isSome = true by
      decide +kernel)
  obtain ⟨denied_iff, -, page, -⟩ := audited_identifies recorded
  have admitted : event.type ≠ .denied := fun denied => by
    have closed := denied_iff.1 denied
    revert closed
    decide +kernel
  have bounded : (standard.page { sql := "SELECT 1" }).sql = "SELECT 1 LIMIT 50 OFFSET 0" := by
    decide +kernel
  obtain ⟨identifies, -, short⟩ := page admitted
  rw [bounded] at identifies short
  exact ⟨event, recorded, identifies, fun own => absurd ((short (by decide)).1 own) (by decide)⟩

/-- Neither page of a text is recorded as the text, nor both of them as the same. -/
theorem pages_recorded_apart :
    isBlankText "SELECT 1".toList = false ∧
    ∃ first second,
      (standard.execute (answering (.list [])) {} "" { sql := "SELECT 1" }).audit = some first ∧
      (standard.execute (answering (.list [])) {} "" { sql := "SELECT 1", offset := some 50 }).audit =
        some second ∧
      (first.sql ≠ "SELECT 1" ∧ first.sqlHash ≠ hashSql "SELECT 1") ∧
      (second.sql ≠ "SELECT 1" ∧ second.sqlHash ≠ hashSql "SELECT 1") ∧
      first.sqlHash ≠ second.sqlHash := by
  have recorded : ∀ request text,
      (standard.execute (answering (.list [])) {} "" request).audit.isSome = true →
      standard.auditedText request = text →
      ∃ event, (standard.execute (answering (.list [])) {} "" request).audit = some event ∧
        event.Identifies text := by
    intro request text is_some audited
    obtain ⟨event, recorded⟩ := Option.isSome_iff_exists.1 is_some
    exact ⟨event, recorded, audited ▸ (identifies_of_recorded recorded).1⟩
  obtain ⟨first, firstRecorded, firstIdentifies⟩ := recorded { sql := "SELECT 1" }
    "SELECT 1 LIMIT 50 OFFSET 0" (by decide +kernel) (by decide +kernel)
  obtain ⟨second, secondRecorded, secondIdentifies⟩ := recorded
    { sql := "SELECT 1", offset := some 50 } "SELECT 1 LIMIT 50 OFFSET 50" (by decide +kernel)
    (by decide +kernel)
  refine ⟨by decide +kernel, first, second, firstRecorded, secondRecorded, ?_⟩
  rw [firstIdentifies.hash, firstIdentifies.text, secondIdentifies.hash, secondIdentifies.text]
  exact ⟨⟨by decide, by decide +kernel⟩, ⟨by decide, by decide +kernel⟩, by decide +kernel⟩

end QueryService

end QueryDesk
