/-
Module: QueryDesk.Proofs.Catalog.Endings
Purpose: Procedures on any connection. What a procedure may end with, whatever the answers that it gets;
  the procedures that end as soon as an answer fails, as those of every engine do that list or describe
  relations; and the keys under which the engines describe what they list.
Imports: QueryDesk.Catalog.Introspection
Main exports: Procedure.MayEnd, reportsFailure, failureReports, Procedure.Silent, Silent.trace,
  Procedure.heard, Procedure.Straight, Straight.silent, Straight.fails, Engine.straight_ofDialect,
  Engine.keepsListedKeys_ofDialect, Engine.silent_probe_ofDialect, Engine.probe_ofDialect
-/
import QueryDesk.Catalog.Introspection

namespace QueryDesk.Catalog

variable {α β : Type}

/-- One result after another is a value only if both are. -/
theorem bind_eq_ok_iff {first : Except Failure α} {next : α → Except Failure β} {result : β} :
    (first >>= next) = .ok result ↔ ∃ value, first = .ok value ∧ next value = .ok result := by
  cases first <;> simp [bind, Except.bind]

/-- A list that was read row by row holds nothing but what was read from some row. -/
theorem exists_of_mem_mapM {read : β → Except Failure α} {rows : List β} {items : List α} {item : α}
    (found : rows.mapM read = .ok items) (member : item ∈ items) :
    ∃ row ∈ rows, read row = .ok item := by
  induction rows generalizing items with
  | nil =>
    cases found
    cases member
  | cons row rest ih =>
    rw [List.mapM_cons, bind_eq_ok_iff] at found
    obtain ⟨value, first, found⟩ := found
    obtain ⟨values, others, found⟩ := bind_eq_ok_iff.1 found
    cases found
    rcases List.mem_cons.1 member with rfl | member
    · exact ⟨row, List.mem_cons_self, first⟩
    · obtain ⟨other, inside, same⟩ := ih others member
      exact ⟨other, List.mem_cons_of_mem row inside, same⟩

namespace Procedure

/-- Whether a procedure may end with an outcome, given the right answers to its calls. -/
def MayEnd : Procedure α → Except Failure α → Prop
  | .done outcome, result => outcome = result
  | .ask _ next, result => ∃ answer, (next answer).MayEnd result
  | .log _ next, result => next.MayEnd result

/-- A sequence ends with a value only if both of its parts do. -/
theorem mayEnd_bind {first : Procedure α} {next : α → Procedure β} {result : β}
    (ends : (first >>= next).MayEnd (.ok result)) :
    ∃ value, first.MayEnd (.ok value) ∧ (next value).MayEnd (.ok result) := by
  induction first with
  | done outcome =>
    cases outcome with
    | ok value => exact ⟨value, rfl, ends⟩
    | error failure => cases ends
  | ask call continuation ih =>
    obtain ⟨answer, ends⟩ := ends
    obtain ⟨value, first, second⟩ := ih answer ends
    exact ⟨value, ⟨answer, first⟩, second⟩
  | log entry rest ih => exact ih ends

/-- The outcome of a trace is one of those that the procedure may end with. -/
theorem mayEnd_trace (procedure : Procedure α) (reply : Nat → Call → Reply) (turn : Nat)
    (happened : List Happening) :
    procedure.MayEnd (procedure.trace reply turn happened).outcome := by
  induction procedure generalizing turn happened with
  | done outcome => rfl
  | ask call next ih =>
    simp only [trace]
    split
    · exact ⟨_, ih _ (turn + 1) []⟩
    · exact ⟨_, ih _ (turn + 1) _⟩
  | log entry next ih => exact ih turn _

theorem exists_of_mem_queryWith {read : Row → Except Failure α} {sql : String}
    {params : Option (List Value)} {items : List α} {item : α}
    (found : (queryWith read sql params).MayEnd (.ok items)) (member : item ∈ items) :
    ∃ row, read row = .ok item := by
  obtain ⟨rows, -, found⟩ := mayEnd_bind found
  obtain ⟨row, -, same⟩ := exists_of_mem_mapM found member
  exact ⟨row, same⟩

end Procedure

/-- What the report of a relation that could not be described begins with. -/
def failureLead : String := "Failed to introspect '"

/-- Whether a text of the log reports a relation that could not be described. -/
def reportsFailure (text : String) : Bool :=
  failureLead.toList.isPrefixOf text.toList

/-- A text that begins in another way reports no failed relation. -/
theorem reportsFailure_append {front rest : String}
    (apart : (failureLead.toList.isPrefixOf front.toList ||
      front.toList.isPrefixOf failureLead.toList) = false) :
    reportsFailure (front ++ rest) = false := by
  rw [Bool.or_eq_false_iff] at apart
  rw [reportsFailure, String.toList_append, Bool.eq_false_iff, ne_eq, List.isPrefixOf_iff_prefix]
  intro leads
  rcases List.prefix_or_prefix_of_prefix leads (List.prefix_append _ _) with within | beyond
  · rw [← List.isPrefixOf_iff_prefix, apart.1] at within
    cases within
  · rw [← List.isPrefixOf_iff_prefix, apart.2] at beyond
    cases beyond

theorem reportsFailure_message (relation cause : String) :
    reportsFailure (DeskError.introspection relation cause).message = true := by
  change reportsFailure (failureLead ++ relation ++ "': " ++ cause) = true
  rw [String.append_assoc, String.append_assoc, reportsFailure, String.toList_append,
    List.isPrefixOf_iff_prefix]
  exact List.prefix_append _ _

/-- The number of log entries that report a relation that could not be described. -/
def failureReports (happened : List Happening) : Nat :=
  (logEntries happened).countP fun entry => reportsFailure entry.event

@[simp] theorem failureReports_nil : failureReports [] = 0 := rfl

@[simp] theorem failureReports_append (first second : List Happening) :
    failureReports (first ++ second) = failureReports first + failureReports second := by
  simp only [failureReports, logEntries, List.filterMap_append, List.countP_append]

@[simp] theorem failureReports_sent (call : Call) : failureReports [.sent call] = 0 := rfl

@[simp] theorem failureReports_logged (entry : LogEvent) :
    failureReports [.logged entry] = if reportsFailure entry.event then 1 else 0 :=
  List.countP_singleton

/-- A trace whose log reports no failed relation. -/
structure Trace.Quiet (trace : Trace α) : Prop where
  legs : ∀ leg ∈ trace.legs, failureReports leg.happenings = 0
  last : failureReports trace.last = 0

theorem Trace.Quiet.happenings {trace : Trace α} (quiet : trace.Quiet) :
    failureReports trace.happenings = 0 := by
  have ahead : ∀ legs : List Leg, (∀ leg ∈ legs, failureReports leg.happenings = 0) →
      failureReports (legs.flatMap Leg.happenings) = 0 := by
    intro legs silent
    induction legs with
    | nil => rfl
    | cons leg rest ih =>
      rw [List.flatMap_cons, failureReports_append, silent leg List.mem_cons_self,
        ih fun other member => silent other (List.mem_cons_of_mem leg member)]
  rw [Trace.happenings, failureReports_append, ahead trace.legs quiet.legs, quiet.last]

namespace Procedure

/-- A procedure whose log reports no failed relation, whatever the answers that it gets. -/
def Silent : Procedure α → Prop
  | .done _ => True
  | .ask _ next => ∀ answer, (next answer).Silent
  | .log entry next => reportsFailure entry.event = false ∧ next.Silent

theorem Silent.trace {procedure : Procedure α} (silent : procedure.Silent)
    (reply : Nat → Call → Reply) (turn : Nat) {happened : List Happening}
    (before : failureReports happened = 0) : (procedure.trace reply turn happened).Quiet := by
  induction procedure generalizing turn happened with
  | done outcome => exact ⟨by simp [Procedure.trace], before⟩
  | ask call next ih =>
    have asked : failureReports (happened ++ [.sent call]) = 0 := by simp [before]
    simp only [Procedure.trace]
    split
    · obtain ⟨legs, last⟩ := ih _ (silent _) (turn + 1) failureReports_nil
      exact ⟨List.forall_mem_cons.2 ⟨asked, legs⟩, last⟩
    · exact ih _ (silent _) (turn + 1) asked
  | log entry next ih => exact ih silent.2 turn (by simp [before, silent.1])

end Procedure

/-! ### Procedures without handlers

That no engine handles a failure itself is a property of how its procedures are put together: asking and
sequencing keep it, and only a handler would break it. It is proved once for each way of putting them
together, and each engine is then a walk over its own procedures. -/

namespace Procedure

/-- The answers that a procedure gets, given the replies to its calls and the number of calls before. -/
def heard (reply : Nat → Call → Reply) (turn : Nat) : Procedure α → List (Except Failure Value)
  | .done _ => []
  | .ask call next =>
    (reply turn call).answer :: (next (reply turn call).answer).heard reply (turn + 1)
  | .log _ next => next.heard reply turn

/-- A procedure that ends as soon as an answer fails, and whose log reports no failed relation. -/
def Straight : Procedure α → Prop
  | .done _ => True
  | .ask _ next =>
    (∀ failure, ∃ other, next (.error failure) = .done (.error other)) ∧
      ∀ value, (next (.ok value)).Straight
  | .log entry next => reportsFailure entry.event = false ∧ next.Straight

theorem straight_pure (value : α) : (pure value : Procedure α).Straight := trivial

theorem straight_ofOutcome (outcome : Except Failure α) : (ofOutcome outcome).Straight := trivial

theorem straight_note {message : String} (other : reportsFailure message = false) :
    (note message).Straight := ⟨other, trivial⟩

theorem straight_raw (sql : String) (params : Option (List Value)) : (raw sql params).Straight :=
  ⟨fun failure => ⟨failure, rfl⟩, fun _ => trivial⟩

theorem straight_query (sql : String) (params : Option (List Value)) : (query sql params).Straight :=
  ⟨fun failure => ⟨failure, rfl⟩, fun _ => trivial⟩

theorem Straight.bind {first : Procedure α} {next : α → Procedure β} (straight : first.Straight)
    (others : ∀ value, (next value).Straight) : (first >>= next).Straight := by
  induction first with
  | done outcome =>
    cases outcome with
    | ok value => exact others value
    | error failure => trivial
  | ask call continuation ih =>
    refine ⟨fun failure => ?_, fun value => ih (.ok value) (straight.2 value)⟩
    obtain ⟨other, ends⟩ := straight.1 failure
    refine ⟨other, ?_⟩
    change (continuation (.error failure)).bind next = _
    rw [ends]
    rfl
  | log entry rest ih => exact ⟨straight.1, ih straight.2⟩

theorem straight_queryWith (read : Row → Except Failure α) (sql : String)
    (params : Option (List Value)) : (queryWith read sql params).Straight :=
  (straight_query sql params).bind fun _ => straight_ofOutcome _

/-- A procedure without handlers ends where an answer fails, so that it reports no failed relation then
either. -/
theorem Straight.silent {procedure : Procedure α} (straight : procedure.Straight) :
    procedure.Silent := by
  induction procedure with
  | done outcome => trivial
  | ask call next ih =>
    intro answer
    cases answer with
    | error failure =>
      obtain ⟨other, ends⟩ := straight.1 failure
      rw [ends]
      trivial
    | ok value => exact ih (.ok value) (straight.2 value)
  | log entry next ih => exact ⟨straight.1, ih straight.2⟩

/-- A procedure without handlers fails when an answer does. -/
theorem Straight.fails {procedure : Procedure α} (straight : procedure.Straight)
    {reply : Nat → Call → Reply} {turn : Nat} {failure : Failure}
    (raised : .error failure ∈ procedure.heard reply turn) (happened : List Happening) :
    ∃ other, (procedure.trace reply turn happened).outcome = .error other := by
  induction procedure generalizing turn happened with
  | done outcome => cases raised
  | ask call next ih =>
    have onward : ∀ happened, ∃ other,
        ((next (reply turn call).answer).trace reply (turn + 1) happened).outcome = .error other := by
      intro happened
      cases answer : (reply turn call).answer with
      | error early =>
        obtain ⟨other, ends⟩ := straight.1 early
        exact ⟨other, by rw [ends]; rfl⟩
      | ok value =>
        simp only [heard, answer, List.mem_cons, reduceCtorEq, false_or] at raised
        exact ih _ (straight.2 value) raised happened
    simp only [trace]
    split
    · exact onward []
    · exact onward _
  | log entry next ih => exact ih straight.2 raised _

end Procedure

/-- The engine lists and describes relations without handlers of its own. -/
structure Engine.Straight (engine : Engine) : Prop where
  tables : engine.tables.Straight
  views : engine.views.Straight
  describeTable : ∀ ref, (engine.describeTable ref).Straight
  describeView : ∀ ref, (engine.describeView ref).Straight

section

open Procedure

theorem straight_informationSchemaView (ref : RelationRef) : (informationSchemaView ref).Straight :=
  (straight_queryWith _ _ _).bind fun _ => straight_pure _

theorem Engine.straight_postgres : Engine.postgres.Straight where
  tables := straight_queryWith _ _ _
  views := straight_queryWith _ _ _
  describeTable := fun _ =>
    (straight_note (reportsFailure_append rfl)).bind fun _ =>
    (straight_queryWith _ _ _).bind fun _ =>
    (straight_queryWith _ _ _).bind fun _ =>
    (straight_queryWith _ _ _).bind fun _ =>
    (straight_queryWith _ _ _).bind fun _ => straight_pure _
  describeView := straight_informationSchemaView

theorem Engine.straight_sqlServer : Engine.sqlServer.Straight where
  tables := straight_queryWith _ _ _
  views := straight_queryWith _ _ _
  describeTable := fun _ =>
    (straight_note (reportsFailure_append rfl)).bind fun _ =>
    (straight_queryWith _ _ _).bind fun _ => straight_pure _
  describeView := straight_informationSchemaView

theorem Engine.straight_mysql : Engine.mysql.Straight where
  tables := straight_queryWith _ _ _
  views := straight_queryWith _ _ _
  describeTable := fun _ =>
    (straight_note (reportsFailure_append rfl)).bind fun _ =>
    (straight_queryWith _ _ _).bind fun _ => straight_pure _
  describeView := fun _ => (straight_queryWith _ _ _).bind fun _ => straight_pure _

theorem Engine.straight_generic : Engine.generic.Straight where
  tables := straight_pure _
  views := straight_pure _
  describeTable := fun _ => straight_pure _
  describeView := fun _ => straight_pure _

namespace Sqlite

theorem straight_listing (sql what : String) : (listing sql what).Straight :=
  (straight_raw sql none).bind fun _ =>
    (straight_note (by
      simp only [String.append_assoc]
      exact reportsFailure_append rfl)).bind fun _ => straight_pure _

theorem straight_tableInfo (ref : RelationRef) : (tableInfo ref).Straight :=
  (straight_note (reportsFailure_append rfl)).bind fun _ =>
  (straight_query _ _).bind fun _ =>
  (straight_note (by
    simp only [String.append_assoc]
    exact reportsFailure_append rfl)).bind fun _ => straight_pure _

theorem straight_index? (row : Row) : (index? row).Straight := by
  refine (straight_ofOutcome _).bind fun origin => ?_
  split
  · exact straight_pure _
  · exact (straight_ofOutcome _).bind fun _ =>
      (straight_query _ _).bind fun _ =>
      (straight_ofOutcome _).bind fun _ =>
      (straight_ofOutcome _).bind fun _ =>
      (straight_ofOutcome _).bind fun _ => straight_pure _

theorem straight_indexesOf (rows : List Row) : (indexesOf rows).Straight := by
  induction rows with
  | nil => exact straight_pure _
  | cons row rest ih =>
    exact (straight_index? row).bind fun _ => ih.bind fun _ => straight_pure _

end Sqlite

theorem Engine.straight_sqlite : Engine.sqlite.Straight where
  tables := (Sqlite.straight_listing _ _).bind fun _ => straight_ofOutcome _
  views := (Sqlite.straight_listing _ _).bind fun _ => straight_ofOutcome _
  describeTable := fun ref =>
    (straight_note (reportsFailure_append rfl)).bind fun _ =>
    (Sqlite.straight_tableInfo ref).bind fun _ =>
    (straight_ofOutcome _).bind fun _ =>
    (straight_ofOutcome _).bind fun _ =>
    (straight_queryWith _ _ _).bind fun _ =>
    ((straight_query _ _).bind fun rows =>
      (Sqlite.straight_indexesOf rows).bind fun _ => straight_pure _).bind fun _ => straight_pure _
  describeView := fun ref =>
    (Sqlite.straight_tableInfo ref).bind fun _ =>
    (straight_ofOutcome _).bind fun _ => straight_pure _

end

/-- No engine handles a failure itself when it lists or describes relations. -/
theorem Engine.straight_ofDialect (dialect : Dialect) : (Engine.ofDialect dialect).Straight := by
  cases dialect with
  | postgres => exact straight_postgres
  | mysql => exact straight_mysql
  | sqlserver => exact straight_sqlServer
  | sqlite => exact straight_sqlite
  | generic => exact straight_generic

/-! ### Keys of described relations

The key of what is described is compared with the key of what was listed. Postgres and SQL Server write the
schema of the listing into what they describe; MySQL and SQLite write none, and list none either. -/

/-- The engine describes each relation that it may list under the key of the listing. -/
structure Engine.KeepsListedKeys (engine : Engine) : Prop where
  table : ∀ {refs : List RelationRef} {ref : RelationRef} {found : Table},
    engine.tables.MayEnd (.ok refs) → ref ∈ refs →
      (engine.describeTable ref).MayEnd (.ok found) → found.key = ref.key
  view : ∀ {refs : List RelationRef} {ref : RelationRef} {found : View},
    engine.views.MayEnd (.ok refs) → ref ∈ refs →
      (engine.describeView ref).MayEnd (.ok found) → found.key = ref.key

theorem informationSchemaView_key {ref : RelationRef} {found : View}
    (described : (informationSchemaView ref).MayEnd (.ok found)) : found.key = ref.key := by
  obtain ⟨columns, -, described⟩ := Procedure.mayEnd_bind described
  cases described
  rfl

theorem Engine.keepsListedKeys_postgres : Engine.postgres.KeepsListedKeys where
  table := by
    intro refs ref found _ _ described
    obtain ⟨_, -, described⟩ := Procedure.mayEnd_bind described
    obtain ⟨columns, -, described⟩ := Procedure.mayEnd_bind described
    obtain ⟨primaryKey, -, described⟩ := Procedure.mayEnd_bind described
    obtain ⟨foreignKeys, -, described⟩ := Procedure.mayEnd_bind described
    obtain ⟨indexes, -, described⟩ := Procedure.mayEnd_bind described
    cases described
    rfl
  view := fun _ _ described => informationSchemaView_key described

theorem Engine.keepsListedKeys_sqlServer : Engine.sqlServer.KeepsListedKeys where
  table := by
    intro refs ref found _ _ described
    obtain ⟨_, -, described⟩ := Procedure.mayEnd_bind described
    obtain ⟨columns, -, described⟩ := Procedure.mayEnd_bind described
    cases described
    rfl
  view := fun _ _ described => informationSchemaView_key described

theorem RelationRef.key_of_schema_eq_none {ref : RelationRef} (absent : ref.schema = none) :
    ref.key = relationKey none ref.name := by
  rw [RelationRef.key, absent]

theorem Mysql.schema_of_tableName {row : Row} {ref : RelationRef}
    (read : Mysql.tableName row = .ok ref) : ref.schema = none := by
  obtain ⟨name, -, read⟩ := bind_eq_ok_iff.1 read
  cases read
  rfl

theorem Mysql.schema_of_viewName {row : Row} {ref : RelationRef}
    (read : Mysql.viewName row = .ok ref) : ref.schema = none := by
  obtain ⟨name, -, read⟩ := bind_eq_ok_iff.1 read
  obtain ⟨definition, -, read⟩ := bind_eq_ok_iff.1 read
  cases read
  rfl

theorem Engine.keepsListedKeys_mysql : Engine.mysql.KeepsListedKeys where
  table := by
    intro refs ref found listed member described
    obtain ⟨row, read⟩ := Procedure.exists_of_mem_queryWith listed member
    rw [RelationRef.key_of_schema_eq_none (Mysql.schema_of_tableName read)]
    obtain ⟨_, -, described⟩ := Procedure.mayEnd_bind described
    obtain ⟨columns, -, described⟩ := Procedure.mayEnd_bind described
    cases described
    rfl
  view := by
    intro refs ref found listed member described
    obtain ⟨row, read⟩ := Procedure.exists_of_mem_queryWith listed member
    rw [RelationRef.key_of_schema_eq_none (Mysql.schema_of_viewName read)]
    obtain ⟨columns, -, described⟩ := Procedure.mayEnd_bind described
    cases described
    rfl

theorem Sqlite.schema_of_tableName {row : Row} {ref : RelationRef}
    (read : Sqlite.tableName row = .ok ref) : ref.schema = none := by
  obtain ⟨name, -, read⟩ := bind_eq_ok_iff.1 read
  cases read
  rfl

theorem Sqlite.schema_of_viewName {row : Row} {ref : RelationRef}
    (read : Sqlite.viewName row = .ok ref) : ref.schema = none := by
  obtain ⟨name, -, read⟩ := bind_eq_ok_iff.1 read
  obtain ⟨definition, -, read⟩ := bind_eq_ok_iff.1 read
  cases read
  rfl

theorem Engine.keepsListedKeys_sqlite : Engine.sqlite.KeepsListedKeys where
  table := by
    intro refs ref found listed member described
    obtain ⟨rows, -, listed⟩ := Procedure.mayEnd_bind listed
    obtain ⟨row, -, read⟩ := exists_of_mem_mapM listed member
    rw [RelationRef.key_of_schema_eq_none (Sqlite.schema_of_tableName read)]
    obtain ⟨_, -, described⟩ := Procedure.mayEnd_bind described
    obtain ⟨info, -, described⟩ := Procedure.mayEnd_bind described
    obtain ⟨columns, -, described⟩ := Procedure.mayEnd_bind described
    obtain ⟨primaryKey, -, described⟩ := Procedure.mayEnd_bind described
    obtain ⟨foreignKeys, -, described⟩ := Procedure.mayEnd_bind described
    obtain ⟨indexes, -, described⟩ := Procedure.mayEnd_bind described
    cases described
    rfl
  view := by
    intro refs ref found listed member described
    obtain ⟨rows, -, listed⟩ := Procedure.mayEnd_bind listed
    obtain ⟨row, -, read⟩ := exists_of_mem_mapM listed member
    rw [RelationRef.key_of_schema_eq_none (Sqlite.schema_of_viewName read)]
    obtain ⟨info, -, described⟩ := Procedure.mayEnd_bind described
    obtain ⟨columns, -, described⟩ := Procedure.mayEnd_bind described
    cases described
    rfl

theorem Engine.keepsListedKeys_generic : Engine.generic.KeepsListedKeys where
  table := by
    intro refs ref found _ _ described
    cases described
    rfl
  view := by
    intro refs ref found _ _ described
    cases described
    rfl

/-- Every engine keeps the keys of its listings. MySQL and SQLite describe a relation without a schema,
but neither do they list one. -/
theorem Engine.keepsListedKeys_ofDialect (dialect : Dialect) :
    (Engine.ofDialect dialect).KeepsListedKeys := by
  cases dialect with
  | postgres => exact keepsListedKeys_postgres
  | mysql => exact keepsListedKeys_mysql
  | sqlserver => exact keepsListedKeys_sqlServer
  | sqlite => exact keepsListedKeys_sqlite
  | generic => exact keepsListedKeys_generic

/-- The test of a connection reports no failed relation, even where it handles a failure itself. -/
theorem Engine.silent_probe_ofDialect (dialect : Dialect) : (ofDialect dialect).probe.Silent := by
  cases dialect with
  | sqlite =>
    intro answer
    cases answer with
    | ok value => exact ⟨rfl, trivial⟩
    | error failure => exact ⟨reportsFailure_append rfl, trivial⟩
  | generic => exact ⟨rfl, trivial⟩
  | _ => trivial

/-- No test of a connection fails: one that gets no answer finds that the connection does not work. -/
theorem Engine.probe_ofDialect (dialect : Dialect) (reply : Nat → Call → Reply) (turn : Nat)
    (happened : List Happening) :
    ∃ works, ((ofDialect dialect).probe.trace reply turn happened).outcome = .ok works ∧
      ((∃ failure, .error failure ∈ (ofDialect dialect).probe.heard reply turn) → works = false) := by
  cases dialect with
  | sqlite =>
    change ∃ works, (Sqlite.probe.trace reply turn happened).outcome = .ok works ∧ _
    unfold Sqlite.probe
    simp only [Procedure.trace]
    cases answer : (reply turn { sql := "SELECT 1" }).answer with
    | ok value =>
      have heard : Sqlite.probe.heard reply turn = [.ok value] := by
        simp only [Sqlite.probe, Procedure.heard, answer]
        rfl
      refine ⟨true, by split <;> rfl, fun ⟨failure, raised⟩ => ?_⟩
      change .error failure ∈ Sqlite.probe.heard reply turn at raised
      simp [heard] at raised
    | error failure => exact ⟨false, by split <;> rfl, fun _ => rfl⟩
  | generic => exact ⟨false, rfl, fun _ => rfl⟩
  | _ => exact ⟨true, rfl, by rintro ⟨failure, ⟨⟩⟩⟩

end QueryDesk.Catalog
