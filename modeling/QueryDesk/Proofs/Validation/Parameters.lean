/-
Module: QueryDesk.Proofs.Validation.Parameters
Purpose: The parameters that a report on statements lists. They are the named parameters of the masked
  text, each once, in the order of their first places, whatever the statements are; so what stands inside
  of literals, quoted names and comments has no influence on them.
Imports: QueryDesk.Proofs.Page.Skeleton, QueryDesk.Proofs.Sql.NamedParameter,
  QueryDesk.Proofs.Validation.ReadOnly
Main exports: parameters_of_validate, validate_lists_parameters
-/
import QueryDesk.Proofs.Page.Skeleton
import QueryDesk.Proofs.Sql.NamedParameter
import QueryDesk.Proofs.Validation.ReadOnly

namespace QueryDesk.Validation

open QueryDesk.Text QueryDesk.Grammar QueryDesk.Sql

variable {dialect : Dialect} {readOnly : Bool} {sql : String} {parsed : List (Option Tree)}

theorem parameters_of_reportOn {statements : List Tree} {report : ValidationReport}
    (found : reportOn dialect readOnly sql statements = .ok report) :
    report.parameters =
      (parameterNames ((Lexis.ofDialect dialect).mask sql.toList)).map String.ofList := by
  cases readOnly with
  | false =>
    cases found
    rfl
  | true =>
    rw [reportOn, if_pos rfl] at found
    cases reason : forbidden? statements with
    | error failure =>
      rw [reason] at found
      cases found
    | ok verdict =>
      rw [reason] at found
      cases found
      rfl

/-- A report on statements lists the named parameters of the masked text. -/
theorem parameters_of_validate (seen : isBlankText sql.toList = false)
    (some_found : parsed.filterMap id ≠ []) {report : ValidationReport}
    (found : validate dialect readOnly sql (.ok parsed) = .ok report) :
    report.parameters =
      (parameterNames ((Lexis.ofDialect dialect).mask sql.toList)).map String.ofList :=
  parameters_of_reportOn ((validate_of_statements readOnly seen some_found).symm.trans found)

/-- Texts with the same tokens have the same parameters. -/
theorem parameterNames_mask_congr {lexis : Lexis} {text text' : List Char}
    (same : SameTokens lexis text text') :
    parameterNames (lexis.mask text) = parameterNames (lexis.mask text') := by
  rw [← parameterNames_spaced, same.spaced_mask, parameterNames_spaced]

/-- There is a report on the statements of a text, unless read-only mode stalls at them. -/
theorem exists_report_iff (seen : isBlankText sql.toList = false) (some_found : parsed.filterMap id ≠ []) :
    (∃ report, validate dialect readOnly sql (.ok parsed) = .ok report) ↔
      ¬ (readOnly = true ∧ Stalls (parsed.filterMap id)) := by
  rw [validate_of_statements readOnly seen some_found, ← unjudged_iff_stalls]
  rcases reportOn_cases dialect readOnly sql (parsed.filterMap id) with
    ⟨unjudged, failure, failed⟩ | ⟨judged, report, found, -⟩
  · rw [failed]
    exact iff_of_false (fun ⟨_, found⟩ => nomatch found) (not_not_intro unjudged)
  · exact iff_of_true ⟨report, found⟩ judged

/-- The named parameters are exactly the live ones. The report on a text with statements lists the names
that stand in the masked text behind a colon that neither a colon nor a word character precedes: each once,
in the order of first places. A report on a text with the same tokens lists the same parameters, whatever
stands inside of its literals, quoted names and comments. -/
theorem validate_lists_parameters (dialect : Dialect) (readOnly : Bool)
    (seen : isBlankText sql.toList = false) (some_found : parsed.filterMap id ≠ []) :
    ((∃ report, validate dialect readOnly sql (.ok parsed) = .ok report) ↔
      ¬ (readOnly = true ∧ Stalls (parsed.filterMap id))) ∧
    ∀ report, validate dialect readOnly sql (.ok parsed) = .ok report →
      ListsParameters ((Lexis.ofDialect dialect).mask sql.toList) (report.parameters.map String.toList) ∧
      ∀ (sql' : String) (parsed' : List (Option Tree)) (readOnly' : Bool) (report' : ValidationReport),
        SameTokens (Lexis.ofDialect dialect) sql.toList sql'.toList →
        isBlankText sql'.toList = false → parsed'.filterMap id ≠ [] →
        validate dialect readOnly' sql' (.ok parsed') = .ok report' →
        report'.parameters = report.parameters := by
  refine ⟨exists_report_iff seen some_found, fun report found => ?_⟩
  have listed := parameters_of_validate seen some_found found
  constructor
  · have names : report.parameters.map String.toList =
        parameterNames ((Lexis.ofDialect dialect).mask sql.toList) := by
      have undo : String.toList ∘ String.ofList = id := funext fun _ => String.toList_ofList
      rw [listed, List.map_map, undo, List.map_id]
    rw [names]
    exact listsParameters_parameterNames _
  · intro sql' parsed' readOnly' report' same seen' some_found' found'
    rw [listed, parameters_of_validate seen' some_found' found', parameterNames_mask_congr same]

/-- A query that mentions a parameter twice, with a cast, and with colons in a literal and in a comment;
and one with other colons there. -/
theorem validate_lists_parameters_of_query :
    isBlankText "SELECT :b, x::int, ':c' WHERE y=:a1é AND :b -- :d".toList = false ∧
    [some insertingSelect].filterMap id ≠ [] ∧
    SameTokens (Lexis.ofDialect .postgres) "SELECT :b, x::int, ':c' WHERE y=:a1é AND :b -- :d".toList
      "SELECT :b, x::int, ':,' WHERE y=:a1é AND :b --:e;".toList ∧
    isBlankText "SELECT :b, x::int, ':,' WHERE y=:a1é AND :b --:e;".toList = false ∧
    ∃ report report',
      validate .postgres false "SELECT :b, x::int, ':c' WHERE y=:a1é AND :b -- :d"
        (.ok [some insertingSelect]) = .ok report ∧
      validate .postgres false "SELECT :b, x::int, ':,' WHERE y=:a1é AND :b --:e;"
        (.ok [some insertingSelect]) = .ok report' ∧
      ListsParameters ((Lexis.ofDialect .postgres).mask
        "SELECT :b, x::int, ':c' WHERE y=:a1é AND :b -- :d".toList) ["b".toList, "a1".toList] ∧
      report'.parameters = ["b", "a1"] := by
  have seen : isBlankText "SELECT :b, x::int, ':c' WHERE y=:a1é AND :b -- :d".toList = false := by decide
  have seen' : isBlankText "SELECT :b, x::int, ':,' WHERE y=:a1é AND :b --:e;".toList = false := by decide
  have some_found : [some insertingSelect].filterMap id ≠ [] := List.cons_ne_nil _ _
  have same : SameTokens (Lexis.ofDialect .postgres)
      "SELECT :b, x::int, ':c' WHERE y=:a1é AND :b -- :d".toList
      "SELECT :b, x::int, ':,' WHERE y=:a1é AND :b --:e;".toList :=
    ⟨by decide +kernel, by decide +kernel⟩
  obtain ⟨reported, lists⟩ := validate_lists_parameters .postgres false seen some_found
  obtain ⟨reported', -⟩ := validate_lists_parameters .postgres false seen' some_found
  obtain ⟨report, found⟩ := reported.2 fun stalls => absurd stalls.1 Bool.false_ne_true
  obtain ⟨report', found'⟩ := reported'.2 fun stalls => absurd stalls.1 Bool.false_ne_true
  obtain ⟨listed, alike⟩ := lists report found
  have names : report.parameters = ["b", "a1"] := by
    cases found
    decide +kernel
  refine ⟨seen, some_found, same, seen', report, report', found, found', ?_, ?_⟩
  · rwa [names] at listed
  · rw [alike _ _ false report' same seen' some_found found', names]

end QueryDesk.Validation
