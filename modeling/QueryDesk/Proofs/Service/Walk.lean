/-
Module: QueryDesk.Proofs.Service.Walk
Purpose: Walks over the pages of a query. A caller asks for the page at the offset zero, and then further by
  the limit of each page that may have another one behind it. On a connection that serves the rows
  of a query by pages, the walk ends, and it has brought each row once, in order. This is so exactly
  when its limit and its last offset are short enough to be written.
Imports: QueryDesk.Proofs.Page.PageText, QueryDesk.Proofs.Service.Sending
Main exports: Serves, Walk, Walk.unique, lastPage, execute_page, writable_of_walk, walk_brings_rows
-/
import QueryDesk.Proofs.Page.PageText
import QueryDesk.Proofs.Service.Sending

namespace QueryDesk

open QueryDesk.Number QueryDesk.Text QueryDesk.Sql

/-- The columns of a row have names. -/
def Row.Named (row : Row) : Prop :=
  ∀ entry ∈ row, ∃ name, entry.1 = Key.name name

theorem rowIssues_of_named {row : Row} (named : row.Named) (position : Nat) : rowIssues position row = [] := by
  rw [rowIssues, List.filterMap_eq_nil_iff]
  intro entry member
  obtain ⟨name, key⟩ := named entry member
  obtain ⟨key', cell⟩ := entry
  cases key
  rfl

theorem rowsIssuesFrom_of_named {rows : List Row} (named : ∀ row ∈ rows, row.Named) (position : Nat) :
    rowsIssuesFrom position rows = [] := by
  induction rows generalizing position with
  | nil => rfl
  | cons row rest ih =>
      rw [rowsIssuesFrom, rowIssues_of_named (named row (by simp)), List.nil_append]
      exact ih (fun other member => named other (by simp [member])) _

theorem exists_columns {row : Row} (named : row.Named) : ∃ columns, row.mapM columnOfCell = .ok columns := by
  induction row with
  | nil => exact ⟨[], rfl⟩
  | cons entry rest ih =>
      obtain ⟨columns, read⟩ := ih fun other member => named other (by simp [member])
      obtain ⟨name, key⟩ := named entry (by simp)
      obtain ⟨key', cell⟩ := entry
      cases key
      refine ⟨⟨name, cell.jsonType.name⟩ :: columns, ?_⟩
      rw [List.mapM_cons, read]
      rfl

/-- Rows that are mappings with named columns come out as they are. -/
theorem exists_normalize {rows : List Row} (named : ∀ row ∈ rows, row.Named) :
    ∃ columns, normalize (.list (rows.map .mapping)) = .ok ⟨columns, rows⟩ := by
  have rows_of : rowsOfValue (.list (rows.map .mapping)) = .ok rows := by
    have raw : RawResult.ofValue (.list (rows.map .mapping)) =
        .ok { shape := .rowList, rows := rows.map .mapping } := by
      cases rows <;> rfl
    have same : (rows.map Value.mapping).map (rowOfValue []) = rows := by
      rw [List.map_map]
      exact List.map_id rows
    rw [rowsOfValue, raw]
    exact congrArg Except.ok same
  unfold normalize
  rw [rows_of]
  cases rows with
  | nil => exact ⟨[], rfl⟩
  | cons first rest =>
      obtain ⟨columns, read⟩ := exists_columns (named first (by simp))
      refine ⟨columns, ?_⟩
      dsimp only
      rw [read]
      rfl

/-- A connection that serves the rows of a query by pages of a size, within a time: for the text of the
page at an offset it answers the rows of this page. What it makes of other texts is left open. -/
structure Serves (connection : Call → Reply) (time : TimeLimit) (dialect : Dialect) (limit : Int)
    (text : List Char) (rows : List Row) : Prop where
  answer : ∀ (call : Call), ∀ offset ≤ rows.length, call.sql.toList = pageText dialect limit offset text →
    (connection call).answer = .ok (.list (((rows.drop offset).take limit.toNat).map .mapping))
  inTime : ∀ (call : Call), ∀ offset ≤ rows.length, call.sql.toList = pageText dialect limit offset text →
    time.allows (connection call).delay = true

/-- A connection that knows the pages of one query by their texts, and fails for any other text. -/
def pageServer (dialect : Dialect) (limit : Int) (text : List Char) (rows : List Row) : Call → Reply :=
  fun call =>
    match (List.range (rows.length + 1)).find? fun offset =>
        call.sql.toList == pageText dialect limit (offset : Nat) text with
    | some offset => { answer := .ok (.list (((rows.drop offset).take limit.toNat).map .mapping)) }
    | none => { answer := .error (.ofMessage .badValue "no such page") }

/-- Such a connection serves the query. -/
theorem serves_pageServer (dialect : Dialect) (limit : Int) (text : List Char) (rows : List Row)
    {time : TimeLimit} (inTime : time.allows 0 = true) :
    Serves (pageServer dialect limit text rows) time dialect limit text rows := by
  have finds : ∀ (call : Call), ∀ offset ≤ rows.length,
      call.sql.toList = pageText dialect limit offset text → pageServer dialect limit text rows call =
        { answer := .ok (.list (((rows.drop offset).take limit.toNat).map .mapping)) } := by
    intro call offset inside same
    have found : ((List.range (rows.length + 1)).find? fun other =>
        call.sql.toList == pageText dialect limit (other : Nat) text) = some offset := by
      rw [List.find?_range_eq_some]
      refine ⟨by simp [same], List.mem_range.2 (by omega), fun other early => ?_⟩
      rw [Bool.not_eq_true', beq_eq_false_iff_ne, same]
      intro collide
      have equal := pageText_injective (Int.natCast_nonneg offset) (Int.natCast_nonneg other) collide
      omega
    rw [pageServer, found]
  exact ⟨fun call offset inside same => by rw [finds call offset inside same],
    fun call offset inside same => by rw [finds call offset inside same]; exact inTime⟩

/-- A walk over pages, given what each offset leads to: it goes on by the limit of each page that may have
another one behind it, and ends at the first one that has not. No page of it has failed. -/
inductive Walk (page : Int → Except Fault ExecutionOutcome) : Int → List ExecutionOutcome → Prop where
  | last {offset : Int} {outcome : ExecutionOutcome} (found : page offset = .ok outcome)
      (ends : outcome.pagination.hasMore = false) : Walk page offset [outcome]
  | next {offset : Int} {outcome : ExecutionOutcome} {later : List ExecutionOutcome}
      (found : page offset = .ok outcome) (more : outcome.pagination.hasMore = true)
      (walk : Walk page (offset + outcome.pagination.limit) later) : Walk page offset (outcome :: later)

/-- From one offset there is one walk. -/
theorem Walk.unique {page : Int → Except Fault ExecutionOutcome} {offset : Int}
    {one two : List ExecutionOutcome} (first : Walk page offset one) (second : Walk page offset two) :
    one = two := by
  induction first generalizing two with
  | last found ends =>
      cases second with
      | last found' _ =>
          rw [found, Except.ok.injEq] at found'
          rw [found']
      | next found' more _ =>
          rw [found, Except.ok.injEq] at found'
          rw [found', more] at ends
          cases ends
  | next found more _ ih =>
      cases second with
      | last found' ends =>
          rw [found, Except.ok.injEq] at found'
          rw [found', ends] at more
          cases more
      | next found' _ walk' =>
          rw [found, Except.ok.injEq] at found'
          rw [← found'] at walk' ⊢
          rw [ih walk']

/-- The request for the page at an offset. -/
def QueryRequest.at (request : QueryRequest) (offset : Int) : QueryRequest :=
  { request with offset := some offset }

/-- A query whose pages can be told apart: it is closed, a read that is not passed through, it does not
page itself, and in SQL Server it begins with SELECT. -/
structure Pageable (dialect : Dialect) (text : List Char) : Prop where
  closed : LexicallyClosed (Lexis.ofDialect dialect) text
  reads : isRead text = true
  bounds : passthrough none ((Lexis.ofDialect dialect).mask text) = none
  unpaged : Unpaged ((Lexis.ofDialect dialect).mask text)
  opens : dialect = .sqlserver → OpensWithSelect text

theorem isBlankText_of_isRead {text : List Char} (reads : isRead text = true) : isBlankText text = false := by
  obtain ⟨word, member, gap, key, rest, opens⟩ := isRead_iff.1 reads
  obtain ⟨c, more, rfl⟩ := List.exists_cons_of_ne_nil opens.nonempty
  rw [opens.split]
  simp [isBlankText, isBlank_eq_false_of_isWord (opens.words c (by simp))]

theorem Pageable.touched {dialect : Dialect} {text : List Char} (pageable : Pageable dialect text) :
    ¬ Untouched dialect text := by
  obtain ⟨word, member, gap, key, rest, opens⟩ := isRead_iff.1 pageable.reads
  have shown : (Lexis.ofDialect dialect).commentMask text =
      (gap ++ key) ++ (Lexis.ofDialect dialect).commentMask rest := by
    rw [opens.split, ← List.append_assoc]
    exact Lexis.hideFrom_calm_append rfl opens.isCalm rest
  obtain ⟨c, more, rfl⟩ := List.exists_cons_of_ne_nil opens.nonempty
  rw [Untouched, isUntouched, pageable.bounds, shown]
  simp [isBlankText, isBlank_eq_false_of_isWord (opens.words c (by simp))]

/-! ### Walks over pages of a size

A page that is full may have another one behind it, and one that is not ends the walk. The induction is on
the rows that are left, which a full page makes fewer; every page of the walk begins at a multiple of the
size, and so none behind the last one, whose offset is the longest number to be written. -/

/-- Where the last page begins of so many rows in pages of a size. -/
def lastPage (count size : Nat) : Nat :=
  count / size * size

/-- No page begins behind the last one, so that its offset is the longest one to be written. -/
theorem writable_of_page {count size offset : Nat} (last_written : Writable (lastPage count size))
    (starts : size ∣ offset) (inside : offset ≤ count) : Writable offset := by
  obtain ⟨pages, rfl⟩ := starts
  unfold Writable lastPage at *
  rw [Int.natAbs_natCast] at *
  refine Nat.lt_of_le_of_lt ?_ last_written
  rw [Nat.mul_comm]
  rcases Nat.eq_zero_or_pos size with rfl | positive
  · exact Nat.zero_le _
  · exact Nat.mul_le_mul_right size ((Nat.le_div_iff_mul_le positive).2 (by rwa [Nat.mul_comm]))

/-- If each page begins with the row at its offset, and has as many rows as its size allows, the walk from
the beginning of a page brings the rows behind it. -/
theorem exists_walk {page : Int → Except Fault ExecutionOutcome} {rows : List Row} {size : Nat}
    (positive : 1 ≤ size)
    (pages : ∀ offset : Nat, size ∣ offset → offset ≤ rows.length → ∃ outcome, page offset = .ok outcome ∧
      outcome.rows = (rows.drop offset).take size ∧
      outcome.pagination = ⟨size, offset, (size : Int) ≤ outcome.rows.length⟩)
    (offset : Nat) (starts : size ∣ offset) (inside : offset ≤ rows.length) :
    ∃ outcomes, Walk page offset outcomes ∧ outcomes.length = (rows.length - offset) / size + 1 ∧
      (outcomes.map ExecutionOutcome.rows).flatten = rows.drop offset ∧
      ∀ outcome ∈ outcomes, outcome.pagination.limit = size := by
  -- The rows that are left become fewer with each page that has another one behind it.
  induction left : rows.length - offset using Nat.strong_induction_on generalizing offset with
  | _ left ih =>
      obtain ⟨outcome, found, shown, info⟩ := pages offset starts inside
      have count : outcome.rows.length = min size (rows.length - offset) := by
        rw [shown, List.length_take, List.length_drop]
      by_cases full : size ≤ rows.length - offset
      · obtain ⟨later, walk, calls, brought, limits⟩ :=
          ih (rows.length - (offset + size)) (by omega) (offset + size) (Nat.dvd_add starts (Nat.dvd_refl size))
            (by omega) rfl
        refine ⟨outcome :: later, .next found ?_ ?_, ?_, ?_, ?_⟩
        · rw [info]
          simp only [decide_eq_true_eq]
          omega
        · rw [info]
          exact_mod_cast walk
        · rw [List.length_cons, calls, ← left, show rows.length - offset =
            rows.length - (offset + size) + size by omega, Nat.add_div_right _ positive]
        · rw [List.map_cons, List.flatten_cons, brought, shown, ← List.drop_drop,
            List.take_append_drop]
        · simpa only [List.forall_mem_cons, info, true_and] using limits
      · refine ⟨[outcome], .last found ?_, ?_, ?_, ?_⟩
        · rw [info]
          simp only [decide_eq_false_iff_not]
          omega
        · rw [← left, Nat.div_eq_of_lt (by omega)]
          rfl
        · rw [List.map_singleton, List.flatten_singleton, shown, List.take_of_length_le]
          rw [List.length_drop]
          omega
        · simp [info]

/-- A walk from the beginning of a page comes to the last one, if each page that is found goes on as long as
there are enough rows behind it. -/
theorem Walk.exists_last {page : Int → Except Fault ExecutionOutcome} {count size : Nat}
    (positive : 1 ≤ size)
    (pages : ∀ offset : Nat, offset ≤ count → ∀ outcome, page offset = .ok outcome →
      outcome.pagination.limit = size ∧ (outcome.pagination.hasMore = true ↔ size ≤ count - offset))
    {start : Int} {outcomes : List ExecutionOutcome} (walk : Walk page start outcomes) :
    ∀ offset : Nat, start = offset → size ∣ offset → offset ≤ count →
      ∃ outcome, page (lastPage count size) = .ok outcome := by
  induction walk with
  | @last start outcome found ends =>
      rintro offset rfl ⟨before, rfl⟩ inside
      have short : ¬ size ≤ count - size * before := by
        rw [← (pages _ inside outcome found).2, ends]
        exact Bool.false_ne_true
      have last : lastPage count size = size * before := by
        rw [lastPage, Nat.mul_comm, show count = size * before + (count - size * before) by omega,
          Nat.mul_add_div positive, Nat.div_eq_of_lt (by omega), Nat.add_zero]
      exact ⟨outcome, last ▸ found⟩
  | @next start outcome later found more walk ih =>
      rintro offset rfl starts inside
      obtain ⟨limit, more_iff⟩ := pages offset inside outcome found
      have full := more_iff.1 more
      exact ih (offset + size) (by rw [limit, Int.natCast_add]) (Nat.dvd_add starts (Nat.dvd_refl size))
        (by omega)

namespace QueryService

variable {service : QueryService} {connection : Call → Reply} {request : QueryRequest} {rows : List Row}

/-- The page of a pageable query at an offset can be written when its limit and its offset can, and only
then. -/
theorem pageFailure?_at_eq_none_iff (pageable : Pageable request.dialect request.sql.toList) (offset : Nat) :
    service.pageFailure? (request.at offset) = none ↔
      Writable (service.settings.policy.clamp request.limit) ∧ Writable offset := by
  rw [pageFailure?_eq]
  change boundFailure? request.dialect (service.settings.policy.clamp request.limit) (max (offset : Int) 0)
    request.sql.toList = none ↔ _
  rw [Int.max_eq_left (Int.natCast_nonneg offset)]
  exact boundFailure?_eq_none_iff_of_unpaged pageable.touched pageable.closed.closes pageable.unpaged
    pageable.opens

/-- The page at an offset has the rows from there on, as many as its limit allows. Its limit and offset have
to be written for it. -/
theorem execute_page (pageable : Pageable request.dialect request.sql.toList)
    (named : ∀ row ∈ rows, row.Named)
    (serves : Serves connection (TimeLimit.ofMeasure? (some (service.timeout request))) request.dialect
      (service.settings.policy.clamp request.limit) request.sql.toList rows)
    (limit_written : Writable (service.settings.policy.clamp request.limit))
    (watch : Stopwatch) (stamp : String) {offset : Nat} (offset_written : Writable offset)
    (inside : offset ≤ rows.length) :
    ∃ outcome, (service.execute connection watch stamp (request.at offset)).result = .ok outcome ∧
      outcome.rows = (rows.drop offset).take (service.settings.policy.clamp request.limit).toNat ∧
      outcome.pagination = ⟨service.settings.policy.clamp request.limit, offset,
        service.settings.policy.clamp request.limit ≤ (outcome.rows.length : Int)⟩ := by
  have text : (service.call (request.at offset)).sql.toList = pageText request.dialect
      (service.settings.policy.clamp request.limit) offset request.sql.toList := by
    rw [QueryService.call, page, paginate, String.toList_ofList]
    change boundText request.dialect (service.settings.policy.clamp request.limit)
      (max (offset : Int) 0) request.sql.toList = _
    rw [Int.max_eq_left (Int.natCast_nonneg offset)]
    exact boundText_eq_pageText pageable.closed.closes pageable.touched pageable.unpaged pageable.opens
  have reply : (connection (service.call (request.at offset))).within
      (TimeLimit.ofMeasure? (service.call (request.at offset)).timeout) =
        .ok (.list (((rows.drop offset).take
          (service.settings.policy.clamp request.limit).toNat).map .mapping)) := by
    rw [Reply.within, serves.answer _ offset inside text]
    exact if_pos (serves.inTime _ offset inside text)
  have named_page : ∀ row ∈ (rows.drop offset).take
      (service.settings.policy.clamp request.limit).toNat, row.Named :=
    fun row member => named row (List.mem_of_mem_drop (List.mem_of_mem_take member))
  obtain ⟨columns, shaped⟩ := exists_normalize named_page
  have filled : isBlankText (request.at offset).sql.toList = false := isBlankText_of_isRead pageable.reads
  have reads : isRead (request.at offset).sql.toList = true := pageable.reads
  have written : service.pageFailure? (request.at offset) = none :=
    (pageFailure?_at_eq_none_iff pageable offset).2 ⟨limit_written, offset_written⟩
  simp only [execute, filled, reads, written, reply, shape, shaped, outcomeOfPage,
    rowsIssuesFrom_of_named named_page, Bool.false_eq_true, Bool.not_true, if_false]
  refine ⟨_, rfl, rfl, ?_⟩
  change PaginationInfo.mk (service.settings.policy.clamp request.limit) (max (offset : Int) 0) _ = _
  rw [Int.max_eq_left (Int.natCast_nonneg offset)]
  rfl

/-- A page that is found has been written, with its limit and its offset. -/
theorem writable_of_found (pageable : Pageable request.dialect request.sql.toList) {watch : Stopwatch}
    {stamp : String} {offset : Nat} {outcome : ExecutionOutcome}
    (found : (service.execute connection watch stamp (request.at offset)).result = .ok outcome) :
    Writable (service.settings.policy.clamp request.limit) ∧ Writable offset := by
  rw [← pageFailure?_at_eq_none_iff pageable offset]
  refine Option.eq_none_iff_forall_ne_some.2 fun failure fails => ?_
  rw [service.execute_of_unwritten connection watch stamp (request.at offset)
    (isBlankText_of_isRead pageable.reads) pageable.reads fails] at found
  cases found

/-- There is no walk over the pages of a served query if its limit or the offset of its last page cannot be
written. -/
theorem writable_of_walk (pageable : Pageable request.dialect request.sql.toList)
    (named : ∀ row ∈ rows, row.Named)
    (serves : Serves connection (TimeLimit.ofMeasure? (some (service.timeout request))) request.dialect
      (service.settings.policy.clamp request.limit) request.sql.toList rows)
    (watch : Int → Stopwatch) (stamp : Int → String) {outcomes : List ExecutionOutcome}
    (walk : Walk (fun offset =>
      (service.execute connection (watch offset) (stamp offset) (request.at offset)).result) 0 outcomes) :
    Writable (service.settings.policy.clamp request.limit) ∧
      Writable (lastPage rows.length (service.settings.policy.clamp request.limit).toNat) := by
  have positive := one_le_clamp service.settings.policy request.limit
  have pages : ∀ offset : Nat, offset ≤ rows.length → ∀ outcome,
      (service.execute connection (watch offset) (stamp offset) (request.at offset)).result = .ok outcome →
        outcome.pagination.limit = (service.settings.policy.clamp request.limit).toNat ∧
        (outcome.pagination.hasMore = true ↔
          (service.settings.policy.clamp request.limit).toNat ≤ rows.length - offset) := by
    intro offset inside outcome found
    obtain ⟨limit_written, offset_written⟩ := writable_of_found pageable found
    obtain ⟨same, page, shown, info⟩ :=
      execute_page pageable named serves limit_written (watch offset) (stamp offset) offset_written inside
    rw [found, Except.ok.injEq] at page
    subst page
    rw [info, shown]
    refine ⟨(Int.toNat_of_nonneg (Int.le_trans Int.one_nonneg positive)).symm, ?_⟩
    simp only [decide_eq_true_eq, List.length_take, List.length_drop]
    omega
  obtain ⟨last, found⟩ := walk.exists_last (by omega) pages 0 rfl (Nat.dvd_zero _) (Nat.zero_le _)
  exact writable_of_found pageable found

/-- The walk over the pages of a served query ends after one call for each full page and one more, and brings
every row once, in order; there is no other walk. Its limit and the offset of its last page have to be
numbers that can be written into a text: without that no walk comes to an end. -/
theorem walk_brings_rows (service : QueryService) (connection : Call → Reply) (watch : Int → Stopwatch)
    (stamp : Int → String) (request : QueryRequest) (rows : List Row)
    (pageable : Pageable request.dialect request.sql.toList) (named : ∀ row ∈ rows, row.Named)
    (serves : Serves connection (TimeLimit.ofMeasure? (some (service.timeout request))) request.dialect
      (service.settings.policy.clamp request.limit) request.sql.toList rows) :
    let limit := service.settings.policy.clamp request.limit
    let page := fun offset =>
      (service.execute connection (watch offset) (stamp offset) (request.at offset)).result
    (Writable limit → Writable (lastPage rows.length limit.toNat) →
      ∃ outcomes, Walk page 0 outcomes ∧ outcomes.length = rows.length / limit.toNat + 1 ∧
        (outcomes.map ExecutionOutcome.rows).flatten = rows ∧
        (∀ outcome ∈ outcomes, outcome.pagination.limit = limit) ∧
        ∀ others, Walk page 0 others → others = outcomes) ∧
    ∀ outcomes, Walk page 0 outcomes → Writable limit ∧ Writable (lastPage rows.length limit.toNat) := by
  intro limit page
  refine ⟨fun limit_written last_written => ?_, fun outcomes walk =>
    writable_of_walk pageable named serves watch stamp walk⟩
  have positive : 1 ≤ limit := one_le_clamp service.settings.policy request.limit
  have pages : ∀ offset : Nat, Writable offset → offset ≤ rows.length → ∃ outcome, page offset = .ok outcome ∧
      outcome.rows = (rows.drop offset).take limit.toNat ∧
      outcome.pagination = ⟨limit, offset, limit ≤ (outcome.rows.length : Int)⟩ :=
    fun offset => execute_page pageable named serves limit_written (watch offset) (stamp offset)
  obtain ⟨size, same⟩ := Int.eq_ofNat_of_zero_le (by omega : 0 ≤ limit)
  rw [same] at positive pages last_written ⊢
  obtain ⟨outcomes, walk, calls, brought, limits⟩ := @exists_walk page rows size (by exact_mod_cast positive)
    (fun offset starts inside => pages offset (writable_of_page last_written starts inside) inside)
    0 (Nat.dvd_zero size) (Nat.zero_le _)
  exact ⟨outcomes, walk, calls, brought, limits, fun others other => other.unique walk⟩

/-- Three rows in SQL Server by pages of two: a TOP for the first page, an OFFSET for the second one. -/
theorem walk_brings_three_rows :
    ∃ outcomes,
      Walk (fun offset =>
        (standard.execute
          (pageServer .sqlserver 2 "SELECT DISTINCT name FROM [top 5]; -- by name".toList
            [[(.name "name", .text "ada")], [(.name "name", .null)], [(.name "name", .text "bob")]])
          {} "" (QueryRequest.at
            { sql := "SELECT DISTINCT name FROM [top 5]; -- by name", clientType := some "mssql",
              limit := some 2 } offset)).result) 0 outcomes ∧
      outcomes.length = 2 ∧
      (outcomes.map ExecutionOutcome.rows).flatten =
        [[(.name "name", .text "ada")], [(.name "name", .null)], [(.name "name", .text "bob")]] ∧
      ∀ outcome ∈ outcomes, outcome.pagination.limit = 2 := by
  have pageable : Pageable .sqlserver "SELECT DISTINCT name FROM [top 5]; -- by name".toList :=
    { closed := ⟨by decide +kernel, by decide +kernel⟩
      reads := by decide +kernel
      bounds := by decide +kernel
      unpaged := by decide +kernel
      opens := fun _ => by decide +kernel }
  obtain ⟨outcomes, walk, calls, brought, limits, -⟩ :=
    (walk_brings_rows standard _ (fun _ => {}) (fun _ => "")
      { sql := "SELECT DISTINCT name FROM [top 5]; -- by name", clientType := some "mssql", limit := some 2 }
      [[(.name "name", .text "ada")], [(.name "name", .null)], [(.name "name", .text "bob")]]
      pageable (by simp [Row.Named]) (serves_pageServer _ _ _ _ (by decide +kernel))).1
      (by decide +kernel) (by decide +kernel)
  exact ⟨outcomes, walk, calls, brought, limits⟩

end QueryService

end QueryDesk
