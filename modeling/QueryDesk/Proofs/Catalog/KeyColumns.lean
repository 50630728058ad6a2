/-
Module: QueryDesk.Proofs.Catalog.KeyColumns
Purpose: The primary keys of described tables. Whatever a connection answers, the marked columns of a
  table are those that its primary key names, as long as no two columns share a name. MySQL lists the
  marked columns in their order, SQLite by their numbers in the key.
Imports: QueryDesk.Proofs.Catalog.Omissions
Main exports: Table.markedNames, ListsByNumber, byNumber, listsByNumber_byNumber, Engine.ListsMarked,
  Sqlite.Numbers, Sqlite.NumberedKey, Sqlite.numberedKey_of_describeTable, Procedure.mayEnd_of_ask,
  exists_described_of_mem, introspect_keys
-/
import QueryDesk.Proofs.Catalog.Omissions

namespace QueryDesk.Catalog

open QueryDesk.Number

variable {α : Type} {start : Rat} {dialect : Dialect} {engine : Engine} {connection : Connection}
  {budget : Binary64} {concurrency : Int} {found : Introspection} {table : Table}

/-- The names of the columns that are marked as parts of the primary key, in their order. -/
def Table.markedNames (table : Table) : List String :=
  (table.columns.filter Column.isPrimaryKey).map Column.name

/-- Where every column has a name of its own, a column is marked when a marked column has its name. -/
theorem Table.mem_markedNames_iff (distinct : (table.columns.map Column.name).Nodup)
    {column : Column} (member : column ∈ table.columns) :
    column.name ∈ table.markedNames ↔ column.isPrimaryKey = true := by
  rw [Table.markedNames, List.mem_map]
  constructor
  · rintro ⟨marked, among, same⟩
    rw [List.mem_filter] at among
    obtain rfl : marked = column := List.inj_on_of_nodup_map distinct among.1 member same
    exact among.2
  · intro marked
    exact ⟨column, List.mem_filter.2 ⟨member, marked⟩, rfl⟩

theorem Table.nodup_markedNames (distinct : (table.columns.map Column.name).Nodup) :
    table.markedNames.Nodup :=
  distinct.sublist (List.filter_sublist.map Column.name)

/-- A list of numbered items by their numbers: it has those with a positive number, the numbers ascend,
and items with one number stand in the order in which they came. -/
structure ListsByNumber (numbered listed : List (Int × α)) : Prop where
  ascending : listed.Pairwise fun a b => a.1 ≤ b.1
  filter_eq : ∀ n : Int, (listed.filter fun entry => entry.1 == n) =
    if 0 < n then numbered.filter fun entry => entry.1 == n else []

theorem numberLe_trans (a b c : Int × α) (first : decide (a.1 ≤ b.1) = true)
    (second : decide (b.1 ≤ c.1) = true) : decide (a.1 ≤ c.1) = true :=
  decide_eq_true ((of_decide_eq_true first).trans (of_decide_eq_true second))

theorem numberLe_total (a b : Int × α) : (decide (a.1 ≤ b.1) || decide (b.1 ≤ a.1)) = true := by
  simpa using le_total a.1 b.1

/-- A sort by number keeps the order of the items with one number. -/
theorem filter_mergeSort_number (numbered : List (Int × α)) (n : Int) :
    ((numbered.mergeSort fun a b => a.1 ≤ b.1).filter fun entry => entry.1 == n) =
      numbered.filter fun entry => entry.1 == n := by
  have perm := numbered.mergeSort_perm fun a b => decide (a.1 ≤ b.1)
  -- The items with this number are in order before the sort, so the sort keeps them as a sublist.
  have level : (numbered.filter fun entry => entry.1 == n).Pairwise
      fun a b => decide (a.1 ≤ b.1) = true := by
    refine List.pairwise_of_forall_mem_list fun a inside b other => ?_
    have first := beq_iff_eq.1 (List.mem_filter.1 inside).2
    have second := beq_iff_eq.1 (List.mem_filter.1 other).2
    exact decide_eq_true (first.trans second.symm).le
  have kept := (List.sublist_mergeSort numberLe_trans numberLe_total level
    List.filter_sublist).filter fun entry => entry.1 == n
  simp only [List.filter_filter, Bool.and_self] at kept
  exact (kept.eq_of_length (perm.filter _).length_eq.symm).symm

/-- The items with a positive number, sorted by their numbers. -/
def byNumber (numbered : List (Int × α)) : List (Int × α) :=
  (numbered.filter fun entry => 0 < entry.1).mergeSort fun a b => a.1 ≤ b.1

theorem listsByNumber_byNumber (numbered : List (Int × α)) :
    ListsByNumber numbered (byNumber numbered) where
  ascending :=
    (List.pairwise_mergeSort numberLe_trans numberLe_total _).imp of_decide_eq_true
  filter_eq := by
    intro n
    rw [byNumber, filter_mergeSort_number, List.filter_filter]
    split
    next positive =>
      refine List.filter_congr fun entry _ => ?_
      by_cases same : entry.1 = n
      · simp [same, positive]
      · simp [same]
    next other =>
      refine List.filter_eq_nil_iff.2 fun entry _ both => ?_
      simp only [Bool.and_eq_true, beq_iff_eq, decide_eq_true_eq] at both
      exact other (both.1 ▸ both.2)

/-- The sort looks at the numbers only. -/
theorem map_byNumber {β : Type} (view : α → β) (numbered : List (Int × α)) :
    (byNumber numbered).map (Prod.map id view) = byNumber (numbered.map (Prod.map id view)) := by
  rw [byNumber, byNumber, List.filter_map]
  exact List.map_mergeSort fun _ _ _ _ => rfl

/-- The primary key of every table that an engine describes lists the marked columns. -/
def Engine.ListsMarked (engine : Engine) : Prop :=
  ∀ {ref : RelationRef} {table : Table}, (engine.describeTable ref).MayEnd (.ok table) →
    table.primaryKey = table.markedNames

theorem Engine.listsMarked_mysql : Engine.mysql.ListsMarked := by
  intro ref table described
  obtain ⟨_, -, described⟩ := Procedure.mayEnd_bind described
  obtain ⟨columns, -, described⟩ := Procedure.mayEnd_bind described
  cases described
  rfl

/-- The information schema marks no column. -/
theorem isPrimaryKey_informationSchemaColumn {row : Row} {column : Column}
    (read : informationSchemaColumn row = .ok column) : column.isPrimaryKey = false := by
  obtain ⟨_, -, read⟩ := bind_eq_ok_iff.1 read
  obtain ⟨_, -, read⟩ := bind_eq_ok_iff.1 read
  obtain ⟨_, -, read⟩ := bind_eq_ok_iff.1 read
  obtain ⟨_, -, read⟩ := bind_eq_ok_iff.1 read
  obtain ⟨_, -, read⟩ := bind_eq_ok_iff.1 read
  cases read
  rfl

theorem Engine.listsMarked_sqlServer : Engine.sqlServer.ListsMarked := by
  intro ref table described
  obtain ⟨_, -, described⟩ := Procedure.mayEnd_bind described
  obtain ⟨columns, read, described⟩ := Procedure.mayEnd_bind described
  cases described
  have unmarked : columns.filter Column.isPrimaryKey = [] := by
    refine List.filter_eq_nil_iff.2 fun column member => ?_
    obtain ⟨row, read⟩ := Procedure.exists_of_mem_queryWith read member
    simp [isPrimaryKey_informationSchemaColumn read]
  simp [Table.markedNames, unmarked]

theorem Engine.listsMarked_generic : Engine.generic.ListsMarked := by
  intro ref table described
  cases described
  rfl

/-- Postgres marks the columns that the primary key names. -/
theorem Postgres.isPrimaryKey_iff {ref : RelationRef} {column : Column}
    (described : (Postgres.describeTable ref).MayEnd (.ok table)) (member : column ∈ table.columns) :
    column.isPrimaryKey = true ↔ column.name ∈ table.primaryKey := by
  obtain ⟨_, -, described⟩ := Procedure.mayEnd_bind described
  obtain ⟨columns, -, described⟩ := Procedure.mayEnd_bind described
  obtain ⟨primaryKey, -, described⟩ := Procedure.mayEnd_bind described
  obtain ⟨foreignKeys, -, described⟩ := Procedure.mayEnd_bind described
  obtain ⟨indexes, -, described⟩ := Procedure.mayEnd_bind described
  cases described
  obtain ⟨plain, -, rfl⟩ := List.mem_map.1 member
  exact List.contains_iff_mem

/-! ### The numbers of a key in SQLite

SQLite gives each column its place in the primary key as a number, zero for none. The columns and the key
are read from the same rows in two passes, one that keeps the order of the rows and one that sorts by the
number; the rows with their numbers are what both passes are compared with. -/

namespace Sqlite

/-- A column in a row is marked when its number is positive. -/
theorem exists_number {row : Row} {column : Column} (read : Sqlite.column row = .ok column) :
    rowText row "name" = .ok column.name ∧
      ∃ n, rowInt row "pk" = .ok n ∧ column.isPrimaryKey = decide (0 < n) := by
  obtain ⟨name, named, read⟩ := bind_eq_ok_iff.1 read
  obtain ⟨_, -, read⟩ := bind_eq_ok_iff.1 read
  obtain ⟨_, -, read⟩ := bind_eq_ok_iff.1 read
  obtain ⟨_, -, read⟩ := bind_eq_ok_iff.1 read
  obtain ⟨n, numbered, read⟩ := bind_eq_ok_iff.1 read
  cases read
  exact ⟨named, n, numbered, rfl⟩

/-- Columns with their numbers in the primary key, as rows have them. -/
def Numbers (rows : List Row) (numbered : List (Int × Column)) : Prop :=
  List.Forall₂ (fun row entry => rowInt row "pk" = .ok entry.1 ∧ Sqlite.column row = .ok entry.2)
    rows numbered

theorem exists_numbers {rows : List Row} {columns : List Column}
    (read : rows.mapM Sqlite.column = .ok columns) :
    ∃ numbered, Numbers rows numbered ∧ numbered.map Prod.snd = columns := by
  induction rows generalizing columns with
  | nil =>
    cases read
    exact ⟨[], .nil, rfl⟩
  | cons row rest ih =>
    rw [List.mapM_cons] at read
    obtain ⟨column, first, read⟩ := bind_eq_ok_iff.1 read
    obtain ⟨columns, others, read⟩ := bind_eq_ok_iff.1 read
    cases read
    obtain ⟨numbered, numbers, rfl⟩ := ih others
    obtain ⟨-, n, number, -⟩ := exists_number first
    exact ⟨(n, column) :: numbered, .cons ⟨number, first⟩ numbers, rfl⟩

/-- The marked columns are those with a positive number. -/
theorem Numbers.isPrimaryKey_eq {rows : List Row} {numbered : List (Int × Column)}
    (numbers : Numbers rows numbered) {entry : Int × Column} (member : entry ∈ numbered) :
    entry.2.isPrimaryKey = decide (0 < entry.1) := by
  induction numbers with
  | nil => cases member
  | cons here _ ih =>
    rcases List.mem_cons.1 member with rfl | member
    · obtain ⟨-, n, number, marked⟩ := exists_number here.2
      rw [here.1] at number
      cases number
      exact marked
    · exact ih member

/-- Rows with their numbers carry the names of the columns. -/
theorem Numbers.exists_withInt {rows : List Row} {numbered : List (Int × Column)}
    (numbers : Numbers rows numbered) :
    ∃ placed, withInt "pk" rows = .ok placed ∧
      placed.map (Prod.map id fun row => rowText row "name") =
        numbered.map (Prod.map id fun column => .ok column.name) := by
  induction numbers with
  | nil => exact ⟨[], rfl, rfl⟩
  | @cons row entry rest others here _ ih =>
    obtain ⟨placed, read, same⟩ := ih
    refine ⟨(entry.1, row) :: placed, ?_, ?_⟩
    · rw [withInt] at read ⊢
      rw [List.mapM_cons, read, here.1]
      rfl
    · rw [List.map_cons, List.map_cons, same]
      simp only [Prod.map, (exists_number here.2).1]

/-- The primary key names the columns with a positive number, sorted by their numbers. -/
theorem Numbers.primaryKey_eq {rows : List Row} {numbered : List (Int × Column)}
    (numbers : Numbers rows numbered) :
    primaryKey rows = .ok ((byNumber numbered).map fun entry => entry.2.name) := by
  obtain ⟨placed, read, same⟩ := numbers.exists_withInt
  have named : (byNumber placed).map (fun entry => rowText entry.2 "name") =
      (byNumber numbered).map fun entry => .ok entry.2.name := by
    have sorted := congrArg (List.map Prod.snd ∘ byNumber) same
    simp only [Function.comp_apply, ← map_byNumber, List.map_map] at sorted
    exact sorted
  calc primaryKey rows
      = ((byNumber placed).map Prod.snd).mapM fun row => rowText row "name" := by
        rw [primaryKey, read]
        rfl
    _ = ((byNumber placed).map fun entry => rowText entry.2 "name").mapM id := by
        rw [List.mapM_map, List.mapM_map]
        rfl
    _ = (byNumber numbered).mapM fun entry => pure entry.2.name := by
        rw [named, List.mapM_map]
        rfl
    _ = _ := List.mapM_pure

/-- The primary key of a table as SQLite numbers it: the rows are the connection's answer to the
question about the columns of the table, and the key names the columns by their numbers in it. -/
def NumberedKey (connection : Connection) (table : Table) : Prop :=
  ∃ index answer rows numbered listed,
    (connection ⟨.relation index, 0⟩ { sql := pragma "table_info" table.name }).answer =
      .ok answer ∧
    rowsOfValue answer = .ok rows ∧
    Numbers rows numbered ∧
    numbered.map Prod.snd = table.columns ∧
    ListsByNumber numbered listed ∧
    table.primaryKey = listed.map fun entry => entry.2.name

/-- The primary key lists the marked columns, in the order of their numbers. -/
theorem Numbers.perm_markedNames {rows : List Row} {numbered : List (Int × Column)}
    (numbers : Numbers rows numbered) (all : numbered.map Prod.snd = table.columns) :
    ((byNumber numbered).map fun entry => entry.2.name).Perm table.markedNames := by
  have marked : (numbered.filter fun entry => 0 < entry.1) =
      numbered.filter fun entry => entry.2.isPrimaryKey :=
    List.filter_congr fun entry member => (numbers.isPrimaryKey_eq member).symm
  have names : table.markedNames =
      (numbered.filter fun entry => 0 < entry.1).map fun entry => entry.2.name := by
    rw [Table.markedNames, ← all, List.filter_map, List.map_map, marked]
    rfl
  rw [names]
  exact (List.mergeSort_perm _ _).map _

end Sqlite

/-- After a call, a procedure may end only as it does with the answer that it gets. -/
theorem Procedure.mayEnd_of_ask {call : Call} {next : Except Failure Value → Procedure α}
    {reply : Nat → Call → Reply} {turn : Nat} {happened : List Happening}
    {outcome : Except Failure α}
    (ended : ((Procedure.ask call next).trace reply turn happened).outcome = outcome) :
    (next (reply turn call).answer).MayEnd outcome := by
  subst ended
  simp only [trace]
  split
  · exact mayEnd_trace _ _ _ _
  · exact mayEnd_trace _ _ _ _

/-- Only log entries come before the question about the columns of a table, and the table has the columns
and the primary key that the rows of the answer have. -/
theorem Sqlite.describeTable_asks (ref : RelationRef) :
    ∃ (first second : LogEvent) (next : Except Failure Value → Procedure Table),
      describeTable ref =
        .log first (.log second (.ask { sql := pragma "table_info" ref.name } next)) ∧
      ∀ {answer : Except Failure Value} {table : Table}, (next answer).MayEnd (.ok table) →
        ∃ value rows, answer = .ok value ∧ rowsOfValue value = .ok rows ∧
          rows.mapM column = .ok table.columns ∧ primaryKey rows = .ok table.primaryKey ∧
          table.name = ref.name := by
  refine ⟨_, _, _, rfl, ?_⟩
  intro answer table described
  obtain ⟨rows, asked, described⟩ := Procedure.mayEnd_bind described
  obtain ⟨_, read, asked⟩ := Procedure.mayEnd_bind asked
  obtain ⟨_, -, asked⟩ := Procedure.mayEnd_bind asked
  cases asked
  obtain ⟨value, answered, rowsOf⟩ := bind_eq_ok_iff.1 read
  obtain ⟨columns, columnsRead, described⟩ := Procedure.mayEnd_bind described
  obtain ⟨key, keyRead, described⟩ := Procedure.mayEnd_bind described
  obtain ⟨foreignKeys, -, described⟩ := Procedure.mayEnd_bind described
  obtain ⟨indexes, -, described⟩ := Procedure.mayEnd_bind described
  cases described
  exact ⟨value, rows, answered, rowsOf, columnsRead, keyRead, rfl⟩

/-- What SQLite describes on a connection has its key by the numbers in the connection's answer. -/
theorem Sqlite.numberedKey_of_describeTable {ref : RelationRef} {index : Nat}
    (described : (connection.traceOf (.relation index) (describeTable ref)).outcome = .ok table) :
    NumberedKey connection table ∧ table.primaryKey.Perm table.markedNames := by
  obtain ⟨first, second, next, asks, ends⟩ := describeTable_asks ref
  rw [asks] at described
  obtain ⟨value, rows, answered, rowsOf, columnsRead, keyRead, named⟩ :=
    ends (Procedure.mayEnd_of_ask described)
  obtain ⟨numbered, numbers, all⟩ := exists_numbers columnsRead
  have key := Except.ok.inj (keyRead.symm.trans numbers.primaryKey_eq)
  constructor
  · rw [← named] at answered
    exact ⟨index, value, rows, numbered, byNumber numbered, answered, rowsOf, numbers, all,
      listsByNumber_byNumber numbered, key⟩
  · rw [key]
    exact numbers.perm_markedNames all

/-- A table in the schema of an introspection is what some listed relation is described as. -/
theorem exists_described_of_mem
    (course : introspectFrom start engine connection budget concurrency = .ok found)
    (listed : table ∈ found.schema.tables) :
    ∃ index ref, (connection.traceOf (.relation index) (engine.describeTable ref)).outcome =
      .ok table := by
  have not_empty : ∀ {progress : Progress} {warnings : List String} {complete : Bool},
      .ok (Introspection.empty progress warnings complete) ≠ (.ok found : Except Failure _) := by
    rintro _ _ _ ⟨⟩
    cases listed
  simp only [introspectFrom] at course
  split at course
  next => cases course
  next => exact absurd course not_empty
  next =>
    simp only [listAndDescribe] at course
    split at course
    next tables views _ _ =>
      split at course
      next => cases course
      next =>
        rw [describeAll_eq] at course
        cases course
        obtain ⟨schedule, continues, followed⟩ := Pool.exists_follow_runUntil _ _
          (describingPool engine connection concurrency.toNat tables views)
        rw [schema_of_follow continues followed] at listed
        have inside := (firstOfEachKey_spec _ _).2 ((List.mergeSort_perm _ _).mem_iff.1 listed)
        obtain ⟨index, ref, -, -, described⟩ := mem_describedExcept.1 inside
        exact ⟨0 + index, ref, described⟩
    next => exact absurd course not_empty

/-- The primary keys of an introspection. In a table whose columns have names of their own, a column is
marked when the primary key has its name, and only then. MySQL lists the marked columns in their order,
SQLite by their numbers; neither lists a column twice. -/
theorem introspect_keys
    (course : introspectFrom start (.ofDialect dialect) connection budget concurrency = .ok found)
    (listed : table ∈ found.schema.tables)
    (distinct : (table.columns.map Column.name).Nodup) :
    (∀ column ∈ table.columns, column.isPrimaryKey = true ↔ column.name ∈ table.primaryKey) ∧
    (dialect = .mysql → table.primaryKey = table.markedNames ∧ table.primaryKey.Nodup) ∧
    (dialect = .sqlite → Sqlite.NumberedKey connection table ∧
      table.primaryKey.Perm table.markedNames ∧ table.primaryKey.Nodup) := by
  obtain ⟨index, ref, described⟩ := exists_described_of_mem course listed
  have ends := Procedure.mayEnd_trace ((Engine.ofDialect dialect).describeTable ref)
    (connection.during (.relation index)) 0 []
  change Procedure.MayEnd _ (connection.traceOf _ _).outcome at ends
  rw [described] at ends
  have once := Table.nodup_markedNames distinct
  have of_perm (perm : table.primaryKey.Perm table.markedNames) : ∀ column ∈ table.columns,
      column.isPrimaryKey = true ↔ column.name ∈ table.primaryKey := by
    intro column member
    rw [perm.mem_iff, Table.mem_markedNames_iff distinct member]
  cases dialect with
  | postgres => exact ⟨fun column => Postgres.isPrimaryKey_iff ends, nofun, nofun⟩
  | mysql =>
    have marked := Engine.listsMarked_mysql ends
    exact ⟨of_perm (.of_eq marked), fun _ => ⟨marked, marked ▸ once⟩, nofun⟩
  | sqlserver => exact ⟨of_perm (.of_eq (Engine.listsMarked_sqlServer ends)), nofun, nofun⟩
  | sqlite =>
    obtain ⟨numbered, perm⟩ := Sqlite.numberedKey_of_describeTable described
    exact ⟨of_perm perm, nofun, fun _ => ⟨numbered, perm, perm.nodup_iff.2 once⟩⟩
  | generic => exact ⟨of_perm (.of_eq (Engine.listsMarked_generic ends)), nofun, nofun⟩

/-- The row of a column with a name and a number. -/
def keyedRow (name : String) (number : Int) : Row :=
  [(.name "name", .text name), (.name "pk", .int number)]

/-- A key with the columns c and d side by side, and a after them. -/
def keyedRows : List Row :=
  [keyedRow "a" 2, keyedRow "b" 0, keyedRow "c" 1, keyedRow "d" 1]

/-- The answers of a catalog with one table. -/
def keyedAnswers (call : Call) : Except Failure Value :=
  if call.sql = Sqlite.tablesQuery then .ok (.list [.mapping [(.name "name", .text "t")]])
  else if call.sql = Sqlite.pragma "table_info" "t" then .ok (.list (keyedRows.map .mapping))
  else .ok (.list [])

/-- A connection to this catalog. -/
def keyedConnection : Connection := fun _ call => { answer := keyedAnswers call }

/-- The table of this catalog. -/
def keyedTable : Table :=
  let column (name : String) (marked : Bool) : Column :=
    { name := name, type := "ANY", isPrimaryKey := marked }
  { name := "t"
    columns := [column "a" true, column "b" false, column "c" true, column "d" true]
    primaryKey := ["c", "d", "a"] }

theorem primaryKey_keyedRows : Sqlite.primaryKey keyedRows = .ok ["c", "d", "a"] := by
  have sorted : Sqlite.inOrder [(2, keyedRow "a" 2), (1, keyedRow "c" 1), (1, keyedRow "d" 1)] =
      [keyedRow "c" 1, keyedRow "d" 1, keyedRow "a" 2] := by
    simp [Sqlite.inOrder, List.mergeSort]
  change (Sqlite.inOrder [(2, keyedRow "a" 2), (1, keyedRow "c" 1), (1, keyedRow "d" 1)]).mapM
    (fun row => rowText row "name") = _
  rw [sorted]
  rfl

theorem answered_keyed :
    (Sqlite.describeTable { name := "t" }).answered keyedAnswers = .ok keyedTable := by
  have info : (Sqlite.tableInfo { name := "t" }).answered keyedAnswers = .ok keyedRows := rfl
  have columns : keyedRows.mapM Sqlite.column = .ok keyedTable.columns := rfl
  have foreignKeys : (Procedure.queryWith Sqlite.foreignKey
      (Sqlite.pragma "foreign_key_list" "t")).answered keyedAnswers = .ok [] := rfl
  have indexes : (Sqlite.indexes { name := "t" }).answered keyedAnswers = .ok [] :=
    congrArg Except.ok List.mergeSort_nil
  simp only [Sqlite.describeTable, Procedure.answered_bind, Procedure.answered_note,
    Procedure.answered_ofOutcome, Procedure.answered_pure, info, foreignKeys, indexes]
  change (do
    let columns ← keyedRows.mapM Sqlite.column
    let key ← Sqlite.primaryKey keyedRows
    .ok ({ name := "t", columns := columns, primaryKey := key } : Table)) = _
  rw [columns, primaryKey_keyedRows]
  rfl

theorem listsBoth_keyed :
    ListsBoth 0 (.ofDialect .sqlite) keyedConnection (.infinite false) [{ name := "t" }] [] where
  works := rfl
  tables := ⟨by decide +kernel, by decide +kernel⟩
  views := ⟨by decide +kernel, by decide +kernel⟩

/-- The columns c and d come before a, in the order of their rows. -/
theorem introspect_keys_sample :
    ∃ found, introspectFrom 0 (.ofDialect .sqlite) keyedConnection (.infinite false) 1 = .ok found ∧
      keyedTable ∈ found.schema.tables ∧
      (keyedTable.columns.map Column.name).Nodup ∧
      (∀ column ∈ keyedTable.columns,
        column.isPrimaryKey = true ↔ column.name ∈ keyedTable.primaryKey) ∧
      Sqlite.NumberedKey keyedConnection keyedTable := by
  have enough : (1 : Int) ≤ 1 := Int.le_refl 1
  have course := listsBoth_keyed.introspectFrom_eq enough
  obtain ⟨left, -, late, tables, -⟩ := listsBoth_keyed.describes enough course
  have answers : ∀ site call, (keyedConnection site call).answer = keyedAnswers call := fun _ _ => rfl
  have described : (keyedConnection.traceOf (.relation 0)
      (Sqlite.describeTable { name := "t" })).outcome = .ok keyedTable :=
    (outcome_traceOf answers _ _).trans answered_keyed
  -- Without a deadline, no task is left.
  have ended : 0 + 0 ∉ left := fun some_left => by
    obtain ⟨limit, deadline, -⟩ := late ⟨_, some_left⟩
    cases deadline
  have works := ((Engine.straight_ofDialect .sqlite).describeTable _).not_raises_iff.2
    ⟨_, described⟩
  obtain ⟨table, listed, -⟩ := (tables.present_iff 0 { name := "t" } rfl).2 ⟨ended, works⟩
  obtain ⟨index, ref, here, -, same⟩ := tables.described table listed
  obtain ⟨rfl, rfl⟩ : index = 0 ∧ ref = { name := "t" } := by
    cases index with
    | zero => exact ⟨rfl, (Option.some.inj here).symm⟩
    | succ index => cases here
  obtain rfl : table = keyedTable := Except.ok.inj (same.symm.trans described)
  have distinct : (keyedTable.columns.map Column.name).Nodup := by decide
  obtain ⟨marked, -, numbered⟩ := introspect_keys course listed distinct
  exact ⟨_, course, listed, distinct, marked, (numbered rfl).1⟩

end QueryDesk.Catalog
