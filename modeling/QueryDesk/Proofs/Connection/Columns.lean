/-
Module: QueryDesk.Proofs.Connection.Columns
Purpose: What becomes of the columns that a blocking driver describes. Its rows are tuples, and they
  become mappings under the names of the columns, so that columns of one name become one: it stands
  where the first of them stood and has the cells of the last. Nothing is lost exactly if no name
  repeats.
Imports: QueryDesk.Connection.Adapter, Mathlib.Data.List.Dedup, Mathlib.Data.List.Induction
Main exports: distinct_eq_self_iff, Mapping.keys_ofPairs, Mapping.get?_ofPairs,
  CursorAnswers.Delivers, execute_keeps_columns
-/
import QueryDesk.Connection.Adapter
import Mathlib.Data.List.Dedup
import Mathlib.Data.List.Induction

namespace QueryDesk

open QueryDesk.Sql

section Distinct

variable {α β : Type}

/-- One more item of a list without its repetitions. -/
theorem distinct_concat [BEq α] [LawfulBEq α] (items : List α) (item : α) :
    distinct (items ++ [item]) =
      if item ∈ distinct items then distinct items else distinct items ++ [item] := by
  rw [distinct, List.foldl_append, ← distinct]
  simp

variable [DecidableEq α] [DecidableEq β]

/-- Keeping each item at its first place is, seen from the other end, keeping it at its last. -/
theorem distinct_eq_dedup (items : List α) : distinct items = items.reverse.dedup.reverse := by
  induction items using List.reverseRecOn with
  | nil => rfl
  | append_singleton items item ih =>
      rw [distinct_concat, List.reverse_append, List.reverse_singleton, List.singleton_append,
        List.dedup_cons, ih]
      by_cases member : item ∈ items <;> simp [member]

/-- A list keeps all its items exactly if none repeats. -/
theorem distinct_eq_self_iff {items : List α} : distinct items = items ↔ items.Nodup := by
  rw [distinct_eq_dedup, List.reverse_eq_iff, List.dedup_eq_self, List.nodup_reverse]

/-- Renaming items apart keeps their first places. -/
theorem distinct_map {rename : α → β} (injective : Function.Injective rename) (items : List α) :
    distinct (items.map rename) = (distinct items).map rename := by
  rw [distinct_eq_dedup, distinct_eq_dedup, ← List.map_reverse,
    List.dedup_map_of_injective injective, List.map_reverse]

end Distinct

namespace Mapping

/-- A key that is there keeps its place, and a new one comes last. -/
theorem keys_insert (entries : Mapping) (key : Key) (value : Value) :
    (entries.insert key value).map Prod.fst =
      if key ∈ entries.map Prod.fst then entries.map Prod.fst
      else entries.map Prod.fst ++ [key] := by
  induction entries with
  | nil => rfl
  | cons entry rest ih =>
      obtain ⟨other, cell⟩ := entry
      rw [insert]
      by_cases same : other = key
      · simp [same]
      · rw [if_neg same, List.map_cons, ih]
        split <;> simp_all [eq_comm]

theorem get?_cons (entries : Mapping) (key sought : Key) (value : Value) :
    get? ((key, value) :: entries) sought = if sought = key then some value else entries.get? sought := by
  rw [get?, List.lookup_cons]
  by_cases same : sought = key
  · simp [same]
  · rw [beq_false_of_ne same, if_neg same]
    rfl

/-- The value that was put in last is found. -/
theorem get?_insert (entries : Mapping) (key sought : Key) (value : Value) :
    (entries.insert key value).get? sought = if sought = key then some value else entries.get? sought := by
  induction entries with
  | nil => exact get?_cons [] key sought value
  | cons entry rest ih =>
      obtain ⟨other, cell⟩ := entry
      rw [insert]
      by_cases here : other = key
      · subst here
        rw [if_pos rfl, get?_cons, get?_cons]
        split <;> rfl
      · rw [if_neg here, get?_cons, get?_cons, ih]
        by_cases found : sought = other
        · rw [if_pos found, if_pos found, if_neg (found ▸ here)]
        · rw [if_neg found, if_neg found]

theorem ofPairs_concat (pairs : Mapping) (pair : Key × Value) :
    ofPairs (pairs ++ [pair]) = (ofPairs pairs).insert pair.1 pair.2 := by
  rw [ofPairs, List.foldl_append]
  rfl

/-- The keys of a mapping are the keys of the pairs, each where it stood first. -/
theorem keys_ofPairs (pairs : Mapping) :
    (ofPairs pairs).map Prod.fst = distinct (pairs.map Prod.fst) := by
  induction pairs using List.reverseRecOn with
  | nil => rfl
  | append_singleton pairs pair ih =>
      rw [ofPairs_concat, keys_insert, ih, List.map_append, List.map_singleton, distinct_concat]

/-- The value under a key is that of the last pair with the key. -/
theorem get?_ofPairs (pairs : Mapping) (key : Key) :
    (ofPairs pairs).get? key = get? pairs.reverse key := by
  induction pairs using List.reverseRecOn with
  | nil => rfl
  | append_singleton pairs pair ih =>
      rw [ofPairs_concat, get?_insert, ih, List.reverse_append, List.reverse_singleton,
        List.singleton_append, get?_cons]

/-- Pairs without the key in front of a mapping do not change what stands under the key. -/
theorem get?_append_of_not_mem {front : Mapping} {key : Key} (absent : key ∉ front.map Prod.fst)
    (back : Mapping) : get? (front ++ back) key = back.get? key := by
  induction front with
  | nil => rfl
  | cons pair rest ih =>
      rw [List.map_cons, List.mem_cons, not_or] at absent
      rw [List.cons_append, get?_cons, if_neg absent.1, ih absent.2]

/-- The last pair with a key gives the value under it. -/
theorem get?_ofPairs_of_last {pairs : Mapping} {key : Key} {value : Value} {i : Nat}
    (here : pairs[i]? = some (key, value)) (last : key ∉ (pairs.map Prod.fst).drop (i + 1)) :
    (ofPairs pairs).get? key = some value := by
  obtain ⟨inside, at_i⟩ := List.getElem?_eq_some_iff.1 here
  have split : pairs = pairs.take i ++ (key, value) :: pairs.drop (i + 1) := by
    rw [← at_i, List.getElem_cons_drop, List.take_append_drop]
  have behind : key ∉ (pairs.drop (i + 1)).reverse.map Prod.fst := by
    rw [List.map_reverse, List.mem_reverse, List.map_drop]
    exact last
  have reversed : pairs.reverse =
      (pairs.drop (i + 1)).reverse ++ (key, value) :: (pairs.take i).reverse := by
    conv_lhs => rw [split]
    simp
  rw [get?_ofPairs, reversed, get?_append_of_not_mem behind, get?_cons, if_pos rfl]

end Mapping

/-! ### Rows under repeated names

A row becomes a mapping by inserting its cells one after the other. A name that is there keeps its place and
takes the new cell, so that the keys are the names at their first places, and under each stands the cell of
its last column. -/

section Rows

variable {names : List String} {cells : List Value}

/-- A row of one cell for each name is the mapping from the names to the cells. -/
theorem rowOfCells_eq_ofPairs (full : cells.length = names.length) :
    rowOfCells names cells = Mapping.ofPairs ((names.map Key.name).zip cells) := by
  cases names with
  | nil =>
      rw [List.length_nil, List.length_eq_zero_iff] at full
      rw [full]
      rfl
  | cons name more => rfl

theorem keys_zip (full : cells.length = names.length) :
    ((names.map Key.name).zip cells).map Prod.fst = names.map Key.name := by
  rw [List.map_fst_zip]
  exact Nat.le_of_eq ((List.length_map Key.name).trans full.symm)

/-- The names of a row are the names of the columns, each at its first place. -/
theorem keys_rowOfCells (full : cells.length = names.length) :
    (rowOfCells names cells).map Prod.fst = (distinct names).map Key.name := by
  rw [rowOfCells_eq_ofPairs full, Mapping.keys_ofPairs, keys_zip full,
    distinct_map fun _ _ same => Key.name.inj same]

/-- Under a name stands the cell of the last column with the name. -/
theorem field?_rowOfCells (full : cells.length = names.length) {i : Nat} {name : String}
    (here : names[i]? = some name) (last : name ∉ names.drop (i + 1)) :
    (rowOfCells names cells).field? name = cells[i]? := by
  have inside : i < cells.length := full ▸ (List.getElem?_eq_some_iff.1 here).1
  have cell : cells[i]? = some cells[i] := List.getElem?_eq_getElem inside
  have pair : ((names.map Key.name).zip cells)[i]? = some (.name name, cells[i]) := by
    rw [List.getElem?_zip_eq_some, List.getElem?_map, here]
    exact ⟨rfl, cell⟩
  rw [rowOfCells_eq_ofPairs full, cell]
  refine Mapping.get?_ofPairs_of_last pair ?_
  rw [keys_zip full, ← List.map_drop]
  exact fun member => last ((List.mem_map_of_injective fun _ _ same => Key.name.inj same).1 member)

/-- If no name repeats, every column is the last one with its name. -/
theorem notMem_drop_of_nodup (nodup : names.Nodup) {i : Nat} {name : String}
    (here : names[i]? = some name) : name ∉ names.drop (i + 1) := by
  intro member
  obtain ⟨j, there⟩ := List.mem_iff_getElem?.1 member
  rw [List.getElem?_drop, ← here] at there
  obtain ⟨inside, -⟩ := List.getElem?_eq_some_iff.1 here
  have same : i = i + 1 + j := (List.getElem?_inj inside nodup).1 there.symm
  omega

/-- The columns of a row have its names. -/
theorem exists_columns_of_keys {row : Row} (keys : row.map Prod.fst = names.map Key.name) :
    ∃ columns, row.mapM columnOfCell = .ok columns ∧ columns.map ColumnMeta.name = names := by
  induction row generalizing names with
  | nil =>
      cases names with
      | nil => exact ⟨[], rfl, rfl⟩
      | cons name more => cases keys
  | cons entry rest ih =>
      obtain ⟨key, cell⟩ := entry
      cases names with
      | nil => cases keys
      | cons name more =>
          rw [List.map_cons, List.map_cons, List.cons.injEq] at keys
          obtain ⟨rfl, behind⟩ := keys
          obtain ⟨columns, read, named⟩ := ih behind
          refine ⟨⟨name, cell.jsonType.name⟩ :: columns, ?_, by rw [List.map_cons, named]⟩
          rw [List.mapM_cons, read]
          rfl

/-- Tuples under the names of their columns are normalized to the mappings of their rows. -/
theorem exists_normalize_tuples {rows : List (List Value)} (nonempty : rows ≠ [])
    (full : ∀ cells ∈ rows, cells.length = names.length) (shape : Shape) :
    ∃ columns, normalize (.rows shape (rows.map .tuple) names) =
        .ok { columns := columns, rows := rows.map (rowOfCells names) } ∧
      columns.map ColumnMeta.name = distinct names := by
  have read : rowsOfValue (.rows shape (rows.map .tuple) names) =
      .ok (rows.map (rowOfCells names)) := by
    refine congrArg Except.ok ?_
    rw [RawResult.rowMappings, List.map_map]
    rfl
  cases rows with
  | nil => exact absurd rfl nonempty
  | cons first rest =>
      obtain ⟨columns, made, named⟩ :=
        exists_columns_of_keys (keys_rowOfCells (full first List.mem_cons_self))
      refine ⟨columns, ?_, named⟩
      rw [normalize, read, List.map_cons]
      dsimp only
      rw [made]
      rfl

end Rows

/-- A driver runs a statement, describes its columns and hands over rows of one cell for each of them. -/
structure CursorAnswers.Delivers (answers : CursorAnswers) (names : List String)
    (rows : List (List Value)) : Prop where
  opened : answers.opened = .ok ()
  executed : answers.executed = .ok ()
  described : answers.columns = some names
  fetched : ∃ handed, answers.fetched = .ok handed ∧
    handed.map Adapter.tupleRow = rows.map .tuple
  closed : answers.closed = .ok ()
  full : ∀ cells ∈ rows, cells.length = names.length

namespace Adapter

/-- A row that is handed over as a list or a tuple has its cells as its items. -/
theorem items_of_tupleRow {row : Value} {cells : List Value} (tuple : tupleRow row = .tuple cells) :
    row.items = .ok cells := by
  cases row with
  | list items | tuple items =>
    cases tuple
    rfl
  | _ => cases tuple

/-- Rows that are handed over as lists or tuples become tuples of their cells. -/
theorem mapM_items {handed : List Value} {rows : List (List Value)}
    (tuples : handed.map tupleRow = rows.map .tuple) :
    handed.mapM (fun row => row.items.map Value.tuple) = .ok (rows.map .tuple) := by
  induction rows generalizing handed with
  | nil =>
    rw [List.map_eq_nil_iff.1 tuples]
    rfl
  | cons cells rows ih =>
    obtain ⟨row, rest, rfl, first, others⟩ := List.map_eq_cons_iff.1 tuples
    rw [List.mapM_cons, items_of_tupleRow first, ih others]
    rfl

/-- The rows that are delivered are fetched as tuples under the names of their columns. -/
theorem runBlocking_delivered {answers : CursorAnswers} {names : List String}
    {rows : List (List Value)} (delivers : answers.Delivers names rows) (sql : String)
    (params : List Value) :
    runBlocking answers sql params =
      ([.execute sql (some params), .closeCursor],
        .ok { shape := .rowsAndFields, rows := rows.map .tuple, fields := names }) := by
  obtain ⟨handed, fetched, tuples⟩ := delivers.fetched
  have read : tupleRows answers =
      .ok { shape := .rowsAndFields, rows := rows.map .tuple, fields := names } := by
    rw [tupleRows, delivers.described, fetched]
    dsimp only [bind, Except.bind]
    rw [mapM_items tuples]
    rfl
  rw [runBlocking, delivers.opened]
  dsimp only
  rw [delivers.executed]
  dsimp only
  rw [read, closing, delivers.closed]
  rfl

/-- They reach the caller if the call has any time. -/
theorem execute_delivered (style : ParamStyle) {answers : String → List Value → CursorAnswers}
    {call : Call} {names : List String} {rows : List (List Value)}
    (starts : (TimeLimit.ofMeasure? call.timeout).starts = true)
    (delivers : (answers ((blocking style).statement call) (call.params.getD [])).Delivers
      names rows) :
    ((blocking style).execute answers call).2.2 =
      .ok { shape := .rowsAndFields, rows := rows.map .tuple, fields := names } := by
  have ran : ((blocking style).execute answers call).2.2 =
      (if (TimeLimit.ofMeasure? call.timeout).starts then
        runBlocking (answers ((blocking style).statement call) (call.params.getD []))
          ((blocking style).statement call) (call.params.getD [])
      else ([], .error .elapsed)).2 := rfl
  rw [ran, if_pos starts, runBlocking_delivered delivers]

/-- What becomes of the columns and rows that a blocking driver delivers. There is a result; its columns
are the names that are described, each at its first place; and in each of its rows the cell of the last
column with a name stands under this name. So its columns are those of the description, and each of its
rows has every cell of the driver's row under the name of its column, exactly if no name repeats. -/
theorem execute_keeps_columns (style : ParamStyle) (answers : String → List Value → CursorAnswers)
    (call : Call) {names : List String} {rows : List (List Value)}
    (starts : (TimeLimit.ofMeasure? call.timeout).starts = true)
    (delivers : (answers ((blocking style).statement call) (call.params.getD [])).Delivers
      names rows)
    (nonempty : rows ≠ []) :
    ∃ raw result, ((blocking style).execute answers call).2.2 = .ok raw ∧
      normalize raw.toValue = .ok result ∧
      result.columns.map ColumnMeta.name = distinct names ∧
      List.Forall₂ (fun (row : Row) cells => ∀ (i : Nat) (name : String), names[i]? = some name →
        name ∉ names.drop (i + 1) → row.field? name = cells[i]?) result.rows rows ∧
      (names.Nodup ↔ result.columns.map ColumnMeta.name = names ∧
        List.Forall₂ (fun (row : Row) cells => ∀ (i : Nat) (name : String), names[i]? = some name →
          row.field? name = cells[i]?) result.rows rows) := by
  obtain ⟨columns, made, named⟩ := exists_normalize_tuples nonempty delivers.full .rowsAndFields
  have found : ∀ cells ∈ rows, ∀ (i : Nat) (name : String), names[i]? = some name →
      name ∉ names.drop (i + 1) → (rowOfCells names cells).field? name = cells[i]? :=
    fun cells member _ _ here last => field?_rowOfCells (delivers.full cells member) here last
  refine ⟨_, _, execute_delivered style starts delivers, made, named, ?_,
    ⟨fun nodup => ⟨?_, ?_⟩, ?_⟩⟩
  · rw [List.forall₂_map_left_iff, List.forall₂_same]
    exact found
  · rw [named, distinct_eq_self_iff.2 nodup]
  · rw [List.forall₂_map_left_iff, List.forall₂_same]
    exact fun cells member i name here =>
      found cells member i name here (notMem_drop_of_nodup nodup here)
  · rintro ⟨whole, -⟩
    exact distinct_eq_self_iff.1 (named.symm.trans whole)

/-- Two rows under two names, one of them handed over as a list. -/
def peopleAnswers : CursorAnswers where
  columns := some ["id", "name"]
  fetched := .ok [.list [.int 1, .text "a"], .tuple [.int 2, .null]]

theorem delivers_peopleAnswers :
    peopleAnswers.Delivers ["id", "name"] [[.int 1, .text "a"], [.int 2, .null]] where
  opened := rfl
  executed := rfl
  described := rfl
  fetched := ⟨_, rfl, rfl⟩
  closed := rfl
  full := by simp

/-- Both columns are kept, with all cells. -/
theorem execute_keeps_two_columns :
    (TimeLimit.ofMeasure? none).starts = true ∧
      peopleAnswers.Delivers ["id", "name"] [[.int 1, .text "a"], [.int 2, .null]] ∧
      [[Value.int 1, .text "a"], [.int 2, .null]] ≠ [] ∧
      ∃ raw result,
        ((blocking .questionMark).execute (fun _ _ => peopleAnswers)
          { sql := "SELECT id, name FROM t" }).2.2 = .ok raw ∧
        normalize raw.toValue = .ok result ∧
        result.columns.map ColumnMeta.name = ["id", "name"] ∧
        List.Forall₂ (fun (row : Row) cells => ∀ (i : Nat) (name : String),
          ["id", "name"][i]? = some name → row.field? name = cells[i]?) result.rows
          [[.int 1, .text "a"], [.int 2, .null]] := by
  have nonempty : [[Value.int 1, .text "a"], [.int 2, .null]] ≠ [] := List.cons_ne_nil _ _
  obtain ⟨raw, result, ran, made, -, -, kept⟩ :=
    execute_keeps_columns .questionMark (fun _ _ => peopleAnswers)
      { sql := "SELECT id, name FROM t" } rfl delivers_peopleAnswers nonempty
  exact ⟨rfl, delivers_peopleAnswers, nonempty, raw, result, ran, made, kept.1 (by decide)⟩

/-- A row of a join with two columns of one name. -/
def joinAnswers (first : Int) : CursorAnswers where
  columns := some ["id", "id"]
  fetched := .ok [.tuple [.int first, .int 7]]

theorem delivers_joinAnswers (first : Int) :
    (joinAnswers first).Delivers ["id", "id"] [[.int first, .int 7]] where
  opened := rfl
  executed := rfl
  described := rfl
  fetched := ⟨_, rfl, rfl⟩
  closed := rfl
  full := by simp

/-- Of two columns with one name the first is lost: there is one column left, and rows that differ in
the first column give the same result. -/
theorem execute_merges_columns :
    (joinAnswers 1).Delivers ["id", "id"] [[.int 1, .int 7]] ∧
      (joinAnswers 2).Delivers ["id", "id"] [[.int 2, .int 7]] ∧
      ∃ raw other result,
        ((blocking .questionMark).execute (fun _ _ => joinAnswers 1)
          { sql := "SELECT a.id, b.id FROM a, b" }).2.2 = .ok raw ∧
        ((blocking .questionMark).execute (fun _ _ => joinAnswers 2)
          { sql := "SELECT a.id, b.id FROM a, b" }).2.2 = .ok other ∧
        normalize raw.toValue = .ok result ∧ normalize other.toValue = .ok result ∧
        result.columns.map ColumnMeta.name = ["id"] :=
  ⟨delivers_joinAnswers 1, delivers_joinAnswers 2, _, _, _, rfl, rfl, rfl, rfl, rfl⟩

end Adapter

end QueryDesk
