/-
Module: QueryDesk.Proofs.Document.ReadBack
Purpose: Reports of an introspection, schemas, relations, paged queries, page numbers and validation reports
  are read back from each of their documents. The values for which this has a condition are those that a
  reader accepts from any document at all: a page has a row and no negative offset, an error has a message,
  and no syntax tree is part of a document.
Imports: QueryDesk.Proofs.Document.Renditions, QueryDesk.Catalog.Document, QueryDesk.Page.Document,
  QueryDesk.Validation.Report
Main exports: Table.readsBack, SchemaReport.readsBack, Accepts, PagedQuery.accepts_iff,
  ValidationReport.accepts_iff, models_read_back
-/
import QueryDesk.Proofs.Document.Renditions
import QueryDesk.Catalog.Document
import QueryDesk.Page.Document
import QueryDesk.Validation.Report

namespace QueryDesk

open Checked

variable {α : Type}

namespace ReadsBack

theorem nonEmptyText {value : String} (told : value ≠ "") :
    ReadsBack (fun _ => .text value) readNonEmptyText value :=
  bare nofun nofun (if_neg (by simpa using told))

theorem warningType (type : WarningType) : ReadsBack (fun _ => .text type.name) readWarningType type := by
  cases type <;> exact bare nofun nofun rfl

end ReadsBack

/-! ### Record by record

Each record is read field by field, and each field by a reader of its own; the proofs follow the fields in
their order. Nested records are read back because their fields are, with no induction over the depth. -/

namespace Catalog

theorem Column.readsBack (column : Column) : ReadsBack column.write (readRecord Column.read) column := by
  refine .record (fun _ => rfl) (by simp) (of_decide_eq_true rfl) fun document holds => ?_
  cases column with | mk name type nullable defaultValue isPrimaryKey => ?_
  refine seq_valid (seq_valid (seq_valid (seq_valid (map_valid ?_) ?_) ?_) ?_) ?_
  · exact holds.required 0 (.text name) fun _ => rfl
  · exact holds.required 1 (.text type) fun _ => rfl
  · exact holds.optional 2 (.truth nullable) fun _ => rfl
  · exact holds.optional 3 (.text? defaultValue) fun _ => rfl
  · exact holds.optional 4 (.truth isPrimaryKey) fun _ => rfl

theorem ForeignKey.readsBack (key : ForeignKey) : ReadsBack key.write (readRecord ForeignKey.read) key := by
  refine .record (fun _ => rfl) (by simp) (of_decide_eq_true rfl) fun document holds => ?_
  cases key with | mk column referencedTable referencedColumn => ?_
  refine seq_valid (seq_valid (map_valid ?_) ?_) ?_
  · exact holds.required 0 (.text column) fun _ => rfl
  · exact holds.required 1 (.text referencedTable) fun _ => rfl
  · exact holds.required 2 (.text referencedColumn) fun _ => rfl

theorem Index.readsBack (index : Index) : ReadsBack index.write (readRecord Index.read) index := by
  refine .record (fun _ => rfl) (by simp) (of_decide_eq_true rfl) fun document holds => ?_
  cases index with | mk name columns unique => ?_
  refine seq_valid (seq_valid (map_valid ?_) ?_) ?_
  · exact holds.required 0 (.text name) fun _ => rfl
  · exact holds.optional 1 (.texts columns) fun _ => rfl
  · exact holds.optional 2 (.truth unique) fun _ => rfl

theorem Table.readsBack (table : Table) : ReadsBack table.write (readRecord Table.read) table := by
  refine .record (fun _ => rfl) (by simp) (of_decide_eq_true rfl) fun document holds => ?_
  cases table with | mk name schema columns primaryKey foreignKeys indexes => ?_
  refine seq_valid (seq_valid (seq_valid (seq_valid (seq_valid (map_valid ?_) ?_) ?_) ?_) ?_) ?_
  · exact holds.required 0 (.text name) fun _ => rfl
  · exact holds.optional 1 (.text? schema) fun _ => rfl
  · exact holds.optional 2 (.list fun column _ => column.readsBack) fun _ => rfl
  · exact holds.optional 3 (.texts primaryKey) fun _ => rfl
  · exact holds.optional 4 (.list fun key _ => key.readsBack) fun _ => rfl
  · exact holds.optional 5 (.list fun index _ => index.readsBack) fun _ => rfl

theorem View.readsBack (view : View) : ReadsBack view.write (readRecord View.read) view := by
  refine .record (fun _ => rfl) (by simp) (of_decide_eq_true rfl) fun document holds => ?_
  cases view with | mk name schema columns definition => ?_
  refine seq_valid (seq_valid (seq_valid (map_valid ?_) ?_) ?_) ?_
  · exact holds.required 0 (.text name) fun _ => rfl
  · exact holds.optional 1 (.text? schema) fun _ => rfl
  · exact holds.optional 2 (.list fun column _ => column.readsBack) fun _ => rfl
  · exact holds.optional 3 (.text? definition) fun _ => rfl

theorem Schema.readsBack (schema : Schema) : ReadsBack schema.write (readRecord Schema.read) schema := by
  refine .record (fun _ => rfl) (by simp) (of_decide_eq_true rfl) fun document holds => ?_
  cases schema with | mk tables views => ?_
  refine seq_valid (map_valid ?_) ?_
  · exact holds.optional 0 (.list fun table _ => table.readsBack) fun _ => rfl
  · exact holds.optional 1 (.list fun view _ => view.readsBack) fun _ => rfl

theorem SchemaReport.readsBack (report : SchemaReport) :
    ReadsBack report.write (readRecord SchemaReport.read) report := by
  refine .record (fun _ => rfl) (by simp) (of_decide_eq_true rfl) fun document holds => ?_
  cases report with | mk schema logs warnings complete => ?_
  refine seq_valid (seq_valid (seq_valid (map_valid ?_) ?_) ?_) ?_
  · exact holds.optional 0 schema.readsBack fun _ => rfl
  · exact holds.optional 1 (.texts logs) fun _ => rfl
  · exact holds.optional 2 (.texts warnings) fun _ => rfl
  · exact holds.optional 3 (.truth complete) fun _ => rfl

end Catalog

theorem PageDirective.readsBack {directive : PageDirective} (rows : 1 ≤ directive.limit)
    (ahead : 0 ≤ directive.offset) :
    ReadsBack directive.write (readRecord PageDirective.read) directive := by
  refine .record (fun _ => rfl) (by simp) (of_decide_eq_true rfl) fun document holds => ?_
  cases directive with | mk limit offset serverSide => ?_
  refine seq_valid (seq_valid (map_valid ?_) ?_) ?_
  · exact holds.required 0 (.intFrom rows) fun _ => rfl
  · exact holds.optional 1 (.intFrom ahead) fun _ => rfl
  · exact holds.optional 2 (.truth serverSide) fun _ => rfl

theorem PagedQuery.readsBack {paged : PagedQuery} (rows : 1 ≤ paged.directive.limit)
    (ahead : 0 ≤ paged.directive.offset) :
    ReadsBack paged.write (readRecord PagedQuery.read) paged := by
  refine .record (fun _ => rfl) (by simp) (of_decide_eq_true rfl) fun document holds => ?_
  cases paged with | mk sql directive => ?_
  refine seq_valid (map_valid ?_) ?_
  · exact holds.required 0 (.text sql) fun _ => rfl
  · exact holds.required 1 (PageDirective.readsBack rows ahead) fun _ => rfl

theorem PageMeta.readsBack (found : PageMeta) : ReadsBack found.write (readRecord PageMeta.read) found := by
  refine .record (fun _ => rfl) (by simp) (of_decide_eq_true rfl) fun document holds => ?_
  cases found with | mk page pageSize totalRows totalPages hasNext hasPrevious => ?_
  refine seq_valid (seq_valid (seq_valid (seq_valid (seq_valid (map_valid ?_) ?_) ?_) ?_) ?_) ?_
  · exact holds.required 0 (.int page) fun _ => rfl
  · exact holds.required 1 (.int pageSize) fun _ => rfl
  · exact holds.required 2 (.int totalRows) fun _ => rfl
  · exact holds.required 3 (.int totalPages) fun _ => rfl
  · exact holds.required 4 (.truth hasNext) fun _ => rfl
  · exact holds.required 5 (.truth hasPrevious) fun _ => rfl

theorem SqlError.readsBack {error : SqlError} (told : error.message ≠ "") :
    ReadsBack error.write (readRecord SqlError.read) error := by
  refine .record (fun _ => rfl) (by simp) (of_decide_eq_true rfl) fun document holds => ?_
  cases error with | mk message line column offset => ?_
  refine seq_valid (seq_valid (seq_valid (map_valid ?_) ?_) ?_) ?_
  · exact holds.required 0 (.nonEmptyText told) fun _ => rfl
  · exact holds.optional 1 (.int? line) fun _ => rfl
  · exact holds.optional 2 (.int? column) fun _ => rfl
  · exact holds.optional 3 (.int? offset) fun _ => rfl

theorem SqlWarning.readsBack (warning : SqlWarning) :
    ReadsBack warning.write (readRecord SqlWarning.read) warning := by
  refine .record (fun _ => rfl) (by simp) (of_decide_eq_true rfl) fun document holds => ?_
  cases warning with | mk message type line column => ?_
  refine seq_valid (seq_valid (seq_valid (map_valid ?_) ?_) ?_) ?_
  · exact holds.required 0 (.text message) fun _ => rfl
  · exact holds.required 1 (.warningType type) fun _ => rfl
  · exact holds.optional 2 (.int? line) fun _ => rfl
  · exact holds.optional 3 (.int? column) fun _ => rfl

theorem ValidationReport.readsBack {report : ValidationReport} (treeless : report.syntaxTrees = none)
    (told : ∀ error ∈ report.errors, error.message ≠ "") :
    ReadsBack report.write (readRecord ValidationReport.read) report := by
  refine .record (fun _ => rfl) (by simp) (of_decide_eq_true rfl) fun document holds => ?_
  cases report with | mk isValid errors warnings syntaxTrees formatted parameters statementCount => ?_
  refine seq_valid (seq_valid (seq_valid (seq_valid (seq_valid (seq_valid (map_valid ?_) ?_) ?_) ?_) ?_) ?_) ?_
  · exact holds.required 0 (.truth isValid) fun _ => rfl
  · exact holds.optional 1 (.list fun error member => SqlError.readsBack (told error member)) fun _ => rfl
  · exact holds.optional 2 (.list fun warning _ => warning.readsBack) fun _ => rfl
  · exact congrArg valid treeless.symm
  · exact holds.optional 3 (.text? formatted) fun _ => rfl
  · exact holds.optional 4 (.texts parameters) fun _ => rfl
  · exact holds.optional 5 (.int statementCount) fun _ => rfl

/-! ### What readers accept

The conditions under which a value is read back are not arbitrary: they hold of every value that a reader
accepts from any document. So what is left out are values that cannot come from a document at all. -/

/-- A reader accepts the values that it reads from some document. -/
def Accepts (read : Reader α) (value : α) : Prop :=
  ∃ document, read document = .valid value

section Accepted

variable {field : FieldName} {read : Reader α} {document : Mapping} {value default : α}

theorem ReadsBack.accepts {write : Spelling → Value} (reads : ReadsBack write read value) :
    Accepts read value :=
  ⟨write .name, reads _ (.spelled .name)⟩

theorem Accepts.of_record {read : Mapping → Checked α} (accepted : Accepts (readRecord read) value) :
    ∃ document, read document = .valid value := by
  obtain ⟨document, read_valid⟩ := accepted
  cases document with
  | mapping entries => exact ⟨entries, read_valid⟩
  | _ => cases read_valid

theorem Accepts.of_required (read_valid : field.required read document = .valid value) :
    Accepts read value := by
  rw [FieldName.required] at read_valid
  cases found : field.value? document with
  | none => rw [found] at read_valid; cases read_valid
  | some part =>
    rw [found] at read_valid
    exact ⟨part, under_eq_valid_iff.1 read_valid⟩

theorem Accepts.of_optional (read_valid : field.optional default read document = .valid value) :
    value = default ∨ Accepts read value := by
  rw [FieldName.optional] at read_valid
  cases found : field.value? document with
  | none => rw [found] at read_valid; exact .inl (valid.inj read_valid).symm
  | some part =>
    rw [found] at read_valid
    exact .inr ⟨part, under_eq_valid_iff.1 read_valid⟩

theorem Accepts.of_list {values : List α} (accepted : Accepts (readListOf read) values) :
    ∀ value ∈ values, Accepts read value := by
  obtain ⟨document, read_valid⟩ := accepted
  cases document with
  | list items =>
    have each := (readItemsFrom_eq_valid_iff.1 read_valid).imp fun item value here =>
      And.intro (⟨item, here⟩ : Accepts read value) here
    exact ((List.forall₂_and_left values items).1 each.flip).1
  | _ => cases read_valid

theorem Accepts.minimum_le {minimum n : Int} (accepted : Accepts (readIntFrom minimum) n) : minimum ≤ n := by
  obtain ⟨document, read_valid⟩ := accepted
  obtain ⟨found, -, within⟩ := andThen_eq_valid_iff.1 read_valid
  split_ifs at within with below
  · cases within
  · exact valid.inj within ▸ Int.not_lt.1 below

theorem Accepts.ne_empty {text : String} (accepted : Accepts readNonEmptyText text) : text ≠ "" := by
  obtain ⟨document, read_valid⟩ := accepted
  obtain ⟨found, -, told⟩ := andThen_eq_valid_iff.1 read_valid
  split_ifs at told with empty
  · cases told
  · exact valid.inj told ▸ fun same => empty (beq_iff_eq.2 same)

end Accepted

/-- A directive is accepted if it asks for a row and its offset is not negative. -/
theorem PageDirective.accepts_iff {directive : PageDirective} :
    Accepts (readRecord PageDirective.read) directive ↔ 1 ≤ directive.limit ∧ 0 ≤ directive.offset := by
  refine ⟨fun accepted => ?_, fun allowed => (PageDirective.readsBack allowed.1 allowed.2).accepts⟩
  obtain ⟨document, read_valid⟩ := accepted.of_record
  obtain ⟨_, serverSide, two, -, rfl⟩ := seq_eq_valid_iff.1 read_valid
  obtain ⟨_, offset, one, offset_valid, rfl⟩ := seq_eq_valid_iff.1 two
  obtain ⟨limit, limit_valid, rfl⟩ := map_eq_valid_iff.1 one
  refine ⟨(Accepts.of_required limit_valid).minimum_le, ?_⟩
  cases Accepts.of_optional offset_valid with
  | inl absent => exact Int.le_of_eq absent.symm
  | inr accepted => exact accepted.minimum_le

/-- A paged query is accepted if its directive is. -/
theorem PagedQuery.accepts_iff {paged : PagedQuery} :
    Accepts (readRecord PagedQuery.read) paged ↔
      1 ≤ paged.directive.limit ∧ 0 ≤ paged.directive.offset := by
  refine ⟨fun accepted => ?_, fun allowed => (PagedQuery.readsBack allowed.1 allowed.2).accepts⟩
  obtain ⟨document, read_valid⟩ := accepted.of_record
  obtain ⟨_, directive, one, directive_valid, rfl⟩ := seq_eq_valid_iff.1 read_valid
  obtain ⟨sql, -, rfl⟩ := map_eq_valid_iff.1 one
  exact PageDirective.accepts_iff.1 (Accepts.of_required directive_valid)

/-- An error that is accepted has a message. -/
theorem SqlError.told_of_accepts {error : SqlError} (accepted : Accepts (readRecord SqlError.read) error) :
    error.message ≠ "" := by
  obtain ⟨document, read_valid⟩ := accepted.of_record
  obtain ⟨_, offset, three, -, rfl⟩ := seq_eq_valid_iff.1 read_valid
  obtain ⟨_, column, two, -, rfl⟩ := seq_eq_valid_iff.1 three
  obtain ⟨_, line, one, -, rfl⟩ := seq_eq_valid_iff.1 two
  obtain ⟨message, message_valid, rfl⟩ := map_eq_valid_iff.1 one
  exact (Accepts.of_required message_valid).ne_empty

/-- A validation report is accepted if it has no syntax trees and each of its errors has a message. -/
theorem ValidationReport.accepts_iff {report : ValidationReport} :
    Accepts (readRecord ValidationReport.read) report ↔
      report.syntaxTrees = none ∧ ∀ error ∈ report.errors, error.message ≠ "" := by
  refine ⟨fun accepted => ?_, fun allowed => (ValidationReport.readsBack allowed.1 allowed.2).accepts⟩
  obtain ⟨document, read_valid⟩ := accepted.of_record
  obtain ⟨_, statementCount, six, -, rfl⟩ := seq_eq_valid_iff.1 read_valid
  obtain ⟨_, parameters, five, -, rfl⟩ := seq_eq_valid_iff.1 six
  obtain ⟨_, formatted, four, -, rfl⟩ := seq_eq_valid_iff.1 five
  obtain ⟨_, syntaxTrees, three, treeless, rfl⟩ := seq_eq_valid_iff.1 four
  obtain ⟨_, warnings, two, -, rfl⟩ := seq_eq_valid_iff.1 three
  obtain ⟨_, errors, one, errors_valid, rfl⟩ := seq_eq_valid_iff.1 two
  obtain ⟨isValid, -, rfl⟩ := map_eq_valid_iff.1 one
  refine ⟨(valid.inj treeless).symm, fun error member => ?_⟩
  cases Accepts.of_optional errors_valid with
  | inl absent => exact absurd member (absent ▸ List.not_mem_nil)
  | inr accepted => exact SqlError.told_of_accepts (accepted.of_list error member)

/-- Reports of an introspection, schemas, tables, views, paged queries, page numbers and validation reports are
read back from what they are written as by external names or by names, and names that are added at any level
change nothing. The page of a query has a row and no negative offset, each error has a message, and no report
has syntax trees: these are the values that are accepted, and no others are. -/
theorem models_read_back :
    (∀ report : Catalog.SchemaReport,
        ReadsBack report.write (readRecord Catalog.SchemaReport.read) report) ∧
      (∀ schema : Catalog.Schema, ReadsBack schema.write (readRecord Catalog.Schema.read) schema) ∧
      (∀ table : Catalog.Table, ReadsBack table.write (readRecord Catalog.Table.read) table) ∧
      (∀ view : Catalog.View, ReadsBack view.write (readRecord Catalog.View.read) view) ∧
      (∀ paged : PagedQuery, 1 ≤ paged.directive.limit → 0 ≤ paged.directive.offset →
        ReadsBack paged.write (readRecord PagedQuery.read) paged) ∧
      (∀ found : PageMeta, ReadsBack found.write (readRecord PageMeta.read) found) ∧
      (∀ report : ValidationReport, report.syntaxTrees = none →
        (∀ error ∈ report.errors, error.message ≠ "") →
          ReadsBack report.write (readRecord ValidationReport.read) report) ∧
      (∀ paged : PagedQuery, Accepts (readRecord PagedQuery.read) paged ↔
        1 ≤ paged.directive.limit ∧ 0 ≤ paged.directive.offset) ∧
      ∀ report : ValidationReport, Accepts (readRecord ValidationReport.read) report ↔
        report.syntaxTrees = none ∧ ∀ error ∈ report.errors, error.message ≠ "" :=
  ⟨Catalog.SchemaReport.readsBack, Catalog.Schema.readsBack, Catalog.Table.readsBack,
    Catalog.View.readsBack, fun _ => PagedQuery.readsBack, PageMeta.readsBack,
    fun _ => ValidationReport.readsBack, fun _ => PagedQuery.accepts_iff,
    fun _ => ValidationReport.accepts_iff⟩

/-- A page of a query under whose external names other values stand by name, and a report by names. -/
theorem models_read_back_of_samples :
    let paged : PagedQuery := ⟨"SELECT 1", 10, 20, true⟩
    let report : ValidationReport := { isValid := false, errors := [{ message := "no table", line := some 1 }] }
    (1 ≤ paged.directive.limit ∧ 0 ≤ paged.directive.offset) ∧
      (report.syntaxTrees = none ∧ ∀ error ∈ report.errors, error.message ≠ "") ∧
      readRecord PagedQuery.read (.ofFields [("sql", .text "SELECT 1"), ("directive", .ofFields
        [("limit", .int 10), ("offset", .int 20), ("serverSide", .bool true),
          ("server_side", .text "maybe")])]) = .valid paged ∧
      readRecord ValidationReport.read (.ofFields [("is_valid", .bool false), ("errors", .list [.ofFields
        [("message", .text "no table"), ("line", .int 1), ("column", .null), ("offset", .null)]]),
        ("warnings", .list []), ("formatted_sql", .null), ("parameters", .list []),
        ("statement_count", .int 0)]) = .valid report := by
  intro paged report
  have told : ∀ error ∈ report.errors, error.message ≠ "" := by decide
  refine ⟨by decide, ⟨rfl, told⟩, ?_, ?_⟩
  · have directive : NamesAdded paged.directive.write (.ofFields [("limit", .int 10), ("offset", .int 20),
        ("serverSide", .bool true), ("server_side", .text "maybe")]) :=
      .record
        [⟨.camel "limit", fun _ => .int 10, .int 10⟩, ⟨.camel "offset", fun _ => .int 20, .int 20⟩,
          ⟨.camel "server_side", fun _ => .bool true, .bool true⟩]
        [("server_side", .text "maybe")] _ (by simp [NamesAdded.same]) (by decide) fun _ => rfl
    refine models_read_back.2.2.2.2.1 paged (by decide) (by decide) _ (.added ?_)
    exact .record
      [⟨.camel "sql", fun _ => .text "SELECT 1", .text "SELECT 1"⟩,
        ⟨.camel "directive", paged.directive.write, _⟩]
      [] _ (by simp [NamesAdded.same, directive]) (by simp) fun _ => rfl
  · exact models_read_back.2.2.2.2.2.2.1 report rfl told _ (.spelled .name)

end QueryDesk
