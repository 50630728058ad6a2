/-
Module: QueryDesk.Proofs.Catalog.Respelling
Purpose: The case of column names does not matter to an introspection. Two runs of one procedure on
  connections whose answers are the same up to the case of column names go side by side: they ask the
  same, log the same, and end with related values. Every engine reads its rows column by column, so that
  the two runs of a listing or a description end with the same value.
Imports: QueryDesk.Proofs.Catalog.Partial, QueryDesk.Proofs.Catalog.Spelling
Main exports: Procedure.Alike, Alike.bind, Alike.trace_eq, IgnoresCase, agree_mapM, Engine.IgnoresCase,
  Engine.ignoresCase_ofDialect, introspect_ignores_case
-/
import QueryDesk.Proofs.Catalog.Partial
import QueryDesk.Proofs.Catalog.Spelling

namespace QueryDesk.Catalog

open QueryDesk.Number QueryDesk.Sql QueryDesk.Text

variable {α α' β β' : Type} {related : α → α' → Prop} {onward : β → β' → Prop}

namespace Procedure

/-- Two procedures that go side by side when the answers to their calls are the same up to the case of
column names: they ask and log the same, and end with related values or the same failure. -/
inductive Alike {α α' : Type} (related : α → α' → Prop) : Procedure α → Procedure α' → Prop
  | done {outcome : Except Failure α} {other : Except Failure α'} :
      Agree related outcome other → Alike related (.done outcome) (.done other)
  | ask (call : Call) {next : Except Failure Value → Procedure α}
      {next' : Except Failure Value → Procedure α'} :
      (∀ answer other, Agree Value.Respelled answer other → Alike related (next answer) (next' other)) →
      Alike related (.ask call next) (.ask call next')
  | log (entry : LogEvent) {next : Procedure α} {next' : Procedure α'} :
      Alike related next next' → Alike related (.log entry next) (.log entry next')

theorem Alike.bind {first : Procedure α} {second : Procedure α'} (alike : Alike related first second)
    {next : α → Procedure β} {next' : α' → Procedure β'}
    (others : ∀ value value', related value value' → Alike onward (next value) (next' value')) :
    Alike onward (first >>= next) (second >>= next') := by
  change Alike onward (first.bind next) (second.bind next')
  induction alike with
  | done agree =>
    cases agree with
    | ok both => exact others _ _ both
    | error failure => exact .done (.error failure)
  | ask call _ ih => exact .ask call fun answer other respelled => ih answer other respelled
  | log entry _ ih => exact .log entry ih

/-- Behind the same value, the two procedures go on from one value. -/
theorem Alike.next {first second : Procedure α} (alike : Alike Eq first second)
    {next : α → Procedure β} {next' : α → Procedure β'}
    (others : ∀ value, Alike onward (next value) (next' value)) :
    Alike onward (first >>= next) (second >>= next') :=
  alike.bind fun value _ same => same ▸ others value

theorem alike_pure {value : α} {value' : α'} (both : related value value') :
    Alike related (pure value) (pure value') :=
  .done (.ok both)

theorem alike_ofOutcome {outcome : Except Failure α} {other : Except Failure α'}
    (agree : Agree related outcome other) : Alike related (ofOutcome outcome) (ofOutcome other) :=
  .done agree

theorem alike_note (message : String) : Alike Eq (note message) (note message) :=
  .log _ (.done (.ok rfl))

theorem alike_raw (sql : String) (params : Option (List Value)) :
    Alike RawResult.Respelled (raw sql params) (raw sql params) :=
  .ask _ fun _ _ respelled => .done (respelled.bind fun _ _ answers => answers.agree)

theorem alike_query (sql : String) (params : Option (List Value)) :
    Alike (List.Forall₂ Row.Alike) (query sql params) (query sql params) :=
  .ask _ fun _ _ respelled => .done (respelled.bind fun _ _ answers => answers.rows)

/-- Replies that take the same time, and whose answers are the same up to the case of column names. -/
structure RespelledReply (reply other : Reply) : Prop where
  delay : reply.delay = other.delay
  answer : Agree Value.Respelled reply.answer other.answer

/-- Procedures that go side by side and end with the same value have the same trace. -/
theorem Alike.trace_eq {first second : Procedure α} (alike : Alike Eq first second)
    {reply other : Nat → Call → Reply}
    (respelled : ∀ turn call, RespelledReply (reply turn call) (other turn call)) (turn : Nat)
    (happened : List Happening) :
    first.trace reply turn happened = second.trace other turn happened := by
  induction alike generalizing turn happened with
  | done agree =>
    cases agree with
    | ok same =>
      rw [same]
      rfl
    | error failure => rfl
  | ask call _ ih =>
    have here := respelled turn call
    simp only [trace, here.delay, ih _ _ here.answer]
  | log entry _ ih => exact ih turn _

end Procedure

theorem agree_refl (outcome : Except Failure α) : Agree Eq outcome outcome := by
  cases outcome with
  | ok value => exact .ok rfl
  | error failure => exact .error failure

/-- Rows side by side that are read alike are read as the same list. -/
theorem agree_mapM {rows : List α} {others : List α'} {read : α → Except Failure β}
    {read' : α' → Except Failure β'} (side_by_side : List.Forall₂ related rows others)
    (alike : ∀ row other, related row other → Agree onward (read row) (read' other)) :
    Agree (List.Forall₂ onward) (rows.mapM read) (others.mapM read') := by
  induction side_by_side with
  | nil => exact .ok .nil
  | cons first _ ih =>
    rw [List.mapM_cons, List.mapM_cons]
    refine (alike _ _ first).bind fun value value' both => ?_
    exact ih.bind fun values values' all => .ok (.cons both all)

/-- Rows side by side that are read as the same are read as the same list. -/
theorem agree_mapM_eq {rows : List α} {others : List α'} {read : α → Except Failure β}
    {read' : α' → Except Failure β} (side_by_side : List.Forall₂ related rows others)
    (same : ∀ row other, related row other → read row = read' other) :
    Agree Eq (rows.mapM read) (others.mapM read') := by
  have alike : Agree (List.Forall₂ Eq) (rows.mapM read) (others.mapM read') :=
    agree_mapM side_by_side fun row other both => same row other both ▸ agree_refl _
  rwa [List.forall₂_eq_eq_eq] at alike

/-- Whether rows that are alike are read as the same. -/
def IgnoresCase (read : Row → Except Failure α) : Prop :=
  ∀ row other, Row.Alike row other → read row = read other

theorem Procedure.alike_queryWith {read : Row → Except Failure α} (ignores : IgnoresCase read)
    (sql : String) (params : Option (List Value)) :
    Alike Eq (queryWith read sql params) (queryWith read sql params) :=
  (alike_query sql params).bind fun _ _ rows => alike_ofOutcome (agree_mapM_eq rows ignores)

theorem ignoresCase_informationSchemaColumn : IgnoresCase informationSchemaColumn := by
  intro row other alike
  simp (disch := decide) only [informationSchemaColumn, rowText, rowText?, alike.cell]

theorem ignoresCase_tableRef : IgnoresCase tableRef := by
  intro row other alike
  simp (disch := decide) only [tableRef, rowText, rowText?, alike.cell]

theorem ignoresCase_viewRef : IgnoresCase viewRef := by
  intro row other alike
  simp (disch := decide) only [viewRef, rowText, rowText?, alike.cell]

/-! ### The engines, reader by reader

An engine asks, and reads each row of the answer by the names of its columns. The procedures go side by side
as soon as their readers ignore the case, so that for each engine the readers are gone through, and nothing
is said of whole answers. -/

/-- The engine lists and describes the same whatever the case of the column names in the answers. -/
structure Engine.IgnoresCase (engine : Engine) : Prop where
  probe : Procedure.Alike Eq engine.probe engine.probe
  tables : Procedure.Alike Eq engine.tables engine.tables
  views : Procedure.Alike Eq engine.views engine.views
  describeTable : ∀ ref, Procedure.Alike Eq (engine.describeTable ref) (engine.describeTable ref)
  describeView : ∀ ref, Procedure.Alike Eq (engine.describeView ref) (engine.describeView ref)

open Procedure

theorem alike_informationSchemaView (ref : RelationRef) :
    Alike Eq (informationSchemaView ref) (informationSchemaView ref) :=
  (alike_queryWith ignoresCase_informationSchemaColumn _ _).next fun _ => alike_pure rfl

theorem Engine.ignoresCase_postgres : Engine.postgres.IgnoresCase where
  probe := alike_pure rfl
  tables := alike_queryWith ignoresCase_tableRef _ _
  views := alike_queryWith ignoresCase_viewRef _ _
  describeTable := by
    have keyColumn : Catalog.IgnoresCase (rowLabel · "attname") := by
      intro row other alike
      simp (disch := decide) only [rowLabel, alike.cell]
    have foreignKey : Catalog.IgnoresCase Postgres.foreignKey := by
      intro row other alike
      simp (disch := decide) only [Postgres.foreignKey, rowLabel, alike.cell]
    have index : Catalog.IgnoresCase Postgres.index := by
      intro row other alike
      simp (disch := decide) only [Postgres.index, rowLabel, alike.cell]
    exact fun _ =>
      (alike_note _).next fun _ =>
      (alike_queryWith ignoresCase_informationSchemaColumn _ _).next fun _ =>
      (alike_queryWith keyColumn _ _).next fun _ =>
      (alike_queryWith foreignKey _ _).next fun _ =>
      (alike_queryWith index _ _).next fun _ => alike_pure rfl
  describeView := alike_informationSchemaView

theorem Engine.ignoresCase_sqlServer : Engine.sqlServer.IgnoresCase where
  probe := alike_pure rfl
  tables := alike_queryWith ignoresCase_tableRef _ _
  views := alike_queryWith ignoresCase_viewRef _ _
  describeTable := fun _ =>
    (alike_note _).next fun _ =>
    (alike_queryWith ignoresCase_informationSchemaColumn _ _).next fun _ => alike_pure rfl
  describeView := alike_informationSchemaView

theorem Mysql.ignoresCase_column : IgnoresCase Mysql.column := by
  intro row other alike
  simp (disch := decide) only [Mysql.column, rowText, rowText?, alike.cell]

theorem Engine.ignoresCase_mysql : Engine.mysql.IgnoresCase where
  probe := alike_pure rfl
  tables := by
    refine alike_queryWith (fun row other alike => ?_) _ _
    simp (disch := decide) only [Mysql.tableName, rowText, alike.cell]
  views := by
    refine alike_queryWith (fun row other alike => ?_) _ _
    simp (disch := decide) only [Mysql.viewName, rowText, rowText?, alike.cell]
  describeTable := fun _ =>
    (alike_note _).next fun _ =>
    (alike_queryWith Mysql.ignoresCase_column _ _).next fun _ => alike_pure rfl
  describeView := fun _ => (alike_queryWith Mysql.ignoresCase_column _ _).next fun _ => alike_pure rfl

theorem Engine.ignoresCase_generic : Engine.generic.IgnoresCase where
  probe := (alike_note _).next fun _ => alike_pure rfl
  tables := alike_pure rfl
  views := alike_pure rfl
  describeTable := fun _ => alike_pure rfl
  describeView := fun _ => alike_pure rfl

/-- Sorting keeps lists side by side whose members compare in the same way. -/
theorem forall₂_mergeSort {items : List α} {others : List α'}
    (side_by_side : List.Forall₂ related items others)
    {le : α → α → Bool} {le' : α' → α' → Bool}
    (same : ∀ a a', related a a' → ∀ b b', related b b' → le a b = le' a' b') :
    List.Forall₂ related (items.mergeSort le) (others.mergeSort le') := by
  obtain ⟨as_many, each⟩ := List.forall₂_iff_zip.1 side_by_side
  -- Both lists are sorted as the list of their pairs is.
  let pairs := items.zip others
  let sorted := pairs.mergeSort fun a b => le a.1 b.1
  have left : sorted.map Prod.fst = (pairs.map Prod.fst).mergeSort le :=
    List.map_mergeSort fun _ _ _ _ => rfl
  have right : sorted.map Prod.snd = (pairs.map Prod.snd).mergeSort le' :=
    List.map_mergeSort fun a first b second => same _ _ (each first) _ _ (each second)
  rw [List.map_fst_zip as_many.le] at left
  rw [List.map_snd_zip as_many.ge] at right
  rw [← left, ← right, List.forall₂_map_left_iff, List.forall₂_map_right_iff, List.forall₂_same]
  exact fun pair member => each (List.mem_mergeSort.1 member)

namespace Sqlite

/-- Rows with an integer, side by side. -/
def SamePlace (entry other : Int × Row) : Prop :=
  entry.1 = other.1 ∧ Row.Alike entry.2 other.2

variable {rows others : List Row}

theorem rowInt_eq {row other : Row} (alike : Row.Alike row other) {column : String}
    (ascii : IsAscii column) : rowInt row column = rowInt other column := by
  rw [rowInt, rowInt, alike.cell ascii]

theorem agree_withInt {column : String} (ascii : IsAscii column)
    (side_by_side : List.Forall₂ Row.Alike rows others) :
    Agree (List.Forall₂ SamePlace) (withInt column rows) (withInt column others) := by
  refine agree_mapM side_by_side fun row other alike => ?_
  rw [rowInt_eq alike ascii]
  cases rowInt other column with
  | ok n => exact .ok ⟨rfl, alike⟩
  | error failure => exact .error failure

theorem forall₂_inOrder {entries others : List (Int × Row)}
    (side_by_side : List.Forall₂ SamePlace entries others) :
    List.Forall₂ Row.Alike (inOrder entries) (inOrder others) := by
  refine List.forall₂_map_left_iff.2 (List.forall₂_map_right_iff.2 ?_)
  refine (forall₂_mergeSort side_by_side ?_).imp fun _ _ entry => entry.2
  intro a a' first b b' second
  rw [first.1, second.1]

theorem ignoresCase_column : Catalog.IgnoresCase column := by
  intro row other alike
  simp (disch := decide) only [column, rowText, rowText?, rowInt, alike.cell]

theorem ignoresCase_name : Catalog.IgnoresCase (rowText · "name") := by
  intro row other alike
  simp (disch := decide) only [rowText, alike.cell]

theorem ignoresCase_relationName : Catalog.IgnoresCase relationName := by
  intro row other alike
  simp (disch := decide) only [relationName, alike.cell, alike "name"]

theorem agree_primaryKey (side_by_side : List.Forall₂ Row.Alike rows others) :
    Agree Eq (primaryKey rows) (primaryKey others) := by
  refine (agree_withInt (by decide) side_by_side).bind fun placed placed' both => ?_
  refine agree_mapM_eq (forall₂_inOrder (List.rel_filter (fun entry other same => ?_) both))
    ignoresCase_name
  change decide (0 < entry.1) = true ↔ decide (0 < other.1) = true
  rw [same.1]

theorem alike_listing (sql what : String) :
    Alike (List.Forall₂ Row.Alike) (listing sql what) (listing sql what) := by
  refine (alike_raw sql none).bind fun raw other respelled => ?_
  have rows := respelled.rowMappings
  dsimp only
  rw [rows.length_eq, respelled.shape]
  exact (alike_note _).next fun _ => alike_pure rows

theorem alike_tableInfo (ref : RelationRef) :
    Alike (List.Forall₂ Row.Alike) (tableInfo ref) (tableInfo ref) := by
  refine (alike_note _).next fun _ => (alike_query _ _).bind fun rows others side_by_side => ?_
  rw [side_by_side.length_eq]
  exact (alike_note _).next fun _ => alike_pure side_by_side

theorem alike_index? {row other : Row} (alike : Row.Alike row other) :
    Alike Eq (index? row) (index? other) := by
  have origin : Row.cell row "origin" = Row.cell other "origin" := alike.cell (by decide)
  have unique : Row.cell row "unique" = Row.cell other "unique" := alike.cell (by decide)
  have name : rowText row "name" = rowText other "name" := ignoresCase_name row other alike
  unfold index?
  rw [origin, unique, name]
  refine (alike_ofOutcome (agree_refl _)).next fun origin => ?_
  split
  · exact alike_pure rfl
  · exact (alike_ofOutcome (agree_refl _)).next fun name =>
      (alike_query _ _).bind fun _ _ info =>
      (alike_ofOutcome (agree_withInt (by decide) info)).bind fun _ _ placed =>
      (alike_ofOutcome (agree_mapM_eq (forall₂_inOrder placed) ignoresCase_name)).next fun columns =>
      (alike_ofOutcome (agree_refl _)).next fun _ => alike_pure rfl

theorem alike_indexesOf (side_by_side : List.Forall₂ Row.Alike rows others) :
    Alike Eq (indexesOf rows) (indexesOf others) := by
  induction side_by_side with
  | nil => exact alike_pure rfl
  | cons first _ ih => exact (alike_index? first).next fun _ => ih.next fun _ => alike_pure rfl

theorem alike_indexes (ref : RelationRef) : Alike Eq (indexes ref) (indexes ref) :=
  (alike_query _ _).bind fun _ _ rows => (alike_indexesOf rows).next fun _ => alike_pure rfl

/-- Only whether the test got an answer counts, not what the answer holds. -/
theorem alike_probe : Alike Eq probe probe := by
  refine .ask _ fun answer other respelled => ?_
  cases respelled with
  | ok _ => exact (alike_note _).next fun _ => alike_pure rfl
  | error failure => exact .log _ (alike_pure rfl)

theorem ignoresCase_tableName : Catalog.IgnoresCase tableName := by
  intro row other alike
  rw [tableName, tableName, ignoresCase_relationName row other alike]

theorem ignoresCase_viewName : Catalog.IgnoresCase viewName := by
  intro row other alike
  rw [viewName, viewName, ignoresCase_relationName row other alike]
  simp (disch := decide) only [rowText?, alike.cell]

theorem ignoresCase_foreignKey : Catalog.IgnoresCase foreignKey := by
  intro row other alike
  simp (disch := decide) only [foreignKey, rowText, alike.cell]

end Sqlite

theorem Engine.ignoresCase_sqlite : Engine.sqlite.IgnoresCase where
  probe := Sqlite.alike_probe
  tables := (Sqlite.alike_listing _ _).bind fun _ _ rows =>
    alike_ofOutcome (agree_mapM_eq rows Sqlite.ignoresCase_tableName)
  views := (Sqlite.alike_listing _ _).bind fun _ _ rows =>
    alike_ofOutcome (agree_mapM_eq rows Sqlite.ignoresCase_viewName)
  describeTable := fun ref =>
    (alike_note _).next fun _ =>
    (Sqlite.alike_tableInfo ref).bind fun _ _ rows =>
    (alike_ofOutcome (agree_mapM_eq rows Sqlite.ignoresCase_column)).next fun _ =>
    (alike_ofOutcome (Sqlite.agree_primaryKey rows)).next fun _ =>
    (alike_queryWith Sqlite.ignoresCase_foreignKey _ _).next fun _ =>
    (Sqlite.alike_indexes ref).next fun _ => alike_pure rfl
  describeView := fun ref =>
    (Sqlite.alike_tableInfo ref).bind fun _ _ rows =>
    (alike_ofOutcome (agree_mapM_eq rows Sqlite.ignoresCase_column)).next fun _ => alike_pure rfl

/-- Every engine reads its rows column by column, whatever the case of their names. -/
theorem Engine.ignoresCase_ofDialect (dialect : Dialect) : (Engine.ofDialect dialect).IgnoresCase := by
  cases dialect with
  | postgres => exact ignoresCase_postgres
  | mysql => exact ignoresCase_mysql
  | sqlserver => exact ignoresCase_sqlServer
  | sqlite => exact ignoresCase_sqlite
  | generic => exact ignoresCase_generic

/-- Connections that answer in the same time, and the same up to the case of column names. The case may
differ from row to row and from answer to answer. -/
def Connection.Respelled (connection other : Connection) : Prop :=
  ∀ site call, RespelledReply (connection site call) (other site call)

section

variable {connection other : Connection}

theorem Connection.Respelled.traceOf_eq (respelled : connection.Respelled other) {first second : Procedure α}
    (alike : Alike Eq first second) (phase : Phase) :
    connection.traceOf phase first = other.traceOf phase second :=
  alike.trace_eq (fun turn call => respelled ⟨phase, turn⟩ call) 0 []

/-- The guarded descriptions run side by side as the descriptions do. -/
theorem Connection.Respelled.traceOf_guarded (respelled : connection.Respelled other)
    {describe : Procedure α} (alike : Alike Eq describe describe) (ref : RelationRef)
    (wrap : α → Relation) (phase : Phase) :
    connection.traceOf phase (guarded ref describe wrap) =
      other.traceOf phase (guarded ref describe wrap) := by
  have alone := respelled.traceOf_eq alike phase
  rw [Connection.traceOf, Connection.traceOf] at alone
  rw [Connection.traceOf, Connection.traceOf, trace_guarded, trace_guarded, alone]

theorem describeTraces_eq {engine : Engine} (ignores : engine.IgnoresCase)
    (respelled : connection.Respelled other) (tables views : List RelationRef) :
    describeTraces engine connection tables views = describeTraces engine other tables views := by
  refine List.ext_getElem? fun index => ?_
  rw [describeTraces, describeTraces, List.getElem?_mapIdx, List.getElem?_mapIdx]
  refine Option.map_congr fun task here => ?_
  rcases List.mem_append.1 (List.mem_of_getElem? here) with table | view
  · obtain ⟨ref, -, rfl⟩ := List.mem_map.1 table
    exact respelled.traceOf_guarded (ignores.describeTable ref) ref _ (.relation index)
  · obtain ⟨ref, -, rfl⟩ := List.mem_map.1 view
    exact respelled.traceOf_guarded (ignores.describeView ref) ref _ (.relation index)

end

/-- The case of column names does not matter. On connections whose answers are the same up to the case of
column names, an introspection ends with the same schema, the same log, the same warnings and the same
word about its completeness, at the same moment. -/
theorem introspect_ignores_case {connection other : Connection} (respelled : connection.Respelled other)
    (start : Rat) (dialect : Dialect) (budget : Binary64) (concurrency : Int) :
    introspectFrom start (.ofDialect dialect) connection budget concurrency =
      introspectFrom start (.ofDialect dialect) other budget concurrency := by
  have ignores := Engine.ignoresCase_ofDialect dialect
  have probe := respelled.traceOf_eq ignores.probe .probe
  have tables := respelled.traceOf_eq ignores.tables .tables
  have views := respelled.traceOf_eq ignores.views .views
  rw [Connection.traceOf, Connection.traceOf] at probe tables views
  simp only [introspectFrom, listAndDescribe, describeAll, probe, tables, views,
    describeTraces_eq ignores respelled]

/-- The row of a column that is the primary key. -/
def keyColumnRow : Row :=
  [(.name "Field", .text "id"), (.name "Type", .text "int"), (.name "Null", .text "NO"),
    (.name "Key", .text "PRI")]

/-- A connection to a catalog with one table, which has this column. The rows of its answers are spelled
in some way. -/
def spelledConnection (spell : Row → Row) : Connection := fun _ call =>
  { delay := 1
    answer :=
      if call.sql = Mysql.tablesQuery then
        .ok (.list [.mapping (spell [(.name "table_name", .text "t")])])
      else if call.sql = "DESCRIBE " ++ quoteMysql "t" then .ok (.list [.mapping (spell keyColumnRow)])
      else .ok (.list []) }

theorem spelledConnection_respelled :
    (spelledConnection id).Respelled (spelledConnection Row.raised) := by
  have single : ∀ row : Row, row.AsciiNames → (row.lowered.map Prod.fst).Nodup →
      Agree Value.Respelled (.ok (.list [.mapping row])) (.ok (.list [.mapping row.raised])) :=
    fun row named apart =>
      .ok (.list (.rows (by simp) (.cons (.mapping (Row.respelled_raised named apart)) .nil)))
  intro site call
  refine ⟨rfl, ?_⟩
  dsimp only [spelledConnection, id]
  split
  · refine single _ ?_ (by decide +kernel)
    simp only [Row.AsciiNames, List.forall_mem_singleton, Key.name.injEq, exists_eq_left']
    decide
  · split
    · refine single keyColumnRow ?_ (by decide +kernel)
      simp only [Row.AsciiNames, keyColumnRow, List.forall_mem_cons, Key.name.injEq, exists_eq_left',
        List.not_mem_nil, IsEmpty.forall_iff, implies_true, and_true]
      decide
    · exact .ok (.same _)

/-- The table is found with its column, whether the columns of the catalog are named as the statements name
them or in upper case. -/
theorem introspect_ignores_case_of_raised :
    (spelledConnection id).Respelled (spelledConnection Row.raised) ∧
    introspectFrom 0 (.ofDialect .mysql) (spelledConnection id) (.ofInt 60) 4 =
      introspectFrom 0 (.ofDialect .mysql) (spelledConnection Row.raised) (.ofInt 60) 4 ∧
    (introspectFrom 0 (.ofDialect .mysql) (spelledConnection Row.raised) (.ofInt 60) 4).toOption.map
      (fun found => found.schema.tables.map fun table => (table.name, table.columns.map Column.name)) =
        some [("t", ["id"])] := by
  refine ⟨spelledConnection_respelled, ?_, by decide +kernel⟩
  exact introspect_ignores_case spelledConnection_respelled 0 .mysql (.ofInt 60) 4

end QueryDesk.Catalog
