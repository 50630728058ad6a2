/-
Module: QueryDesk.Proofs.Page.PageText
Purpose: The text of a page of a statement that neither bounds nor pages itself, spelled out: the statement
  with the clauses of its dialect at their place. Bounding such a statement gives this text.
Imports: QueryDesk.Proofs.Page.Stability, QueryDesk.Proofs.Page.Opening
Main exports: Unpaged, OpensWithSelect, pageText, pageText_injective, boundText_eq_pageText
-/
import QueryDesk.Proofs.Page.Stability
import QueryDesk.Proofs.Page.Opening

namespace QueryDesk.Sql

open QueryDesk.Text

variable {lexis : Lexis} {dialect : Dialect} {limit offset : Int} {text masked : List Char}
  {pattern : Pattern} {letter : Char}

/-- A masked text that has none of the clauses that bound or page it outside of all parentheses. -/
structure Unpaged (masked : List Char) : Prop where
  limit : topLevelHits limitClause masked = []
  offset : topLevelHits offsetKeyword masked = []
  top : topLevelHits topClause masked = []
  fetch : topLevelHits fetchClause masked = []

instance (masked : List Char) : Decidable (Unpaged masked) :=
  decidable_of_iff (topLevelHits limitClause masked = [] ∧ topLevelHits offsetKeyword masked = [] ∧
      topLevelHits topClause masked = [] ∧ topLevelHits fetchClause masked = [])
    ⟨fun ⟨limit, offset, top, fetch⟩ => ⟨limit, offset, top, fetch⟩,
      fun ⟨limit, offset, top, fetch⟩ => ⟨limit, offset, top, fetch⟩⟩

/-- The first word of a masked text is SELECT. -/
def OpensWithSelect (masked : List Char) : Prop :=
  (wholeWord? "select".toList (blanks masked)).isSome = true

instance (masked : List Char) : Decidable (OpensWithSelect masked) :=
  inferInstanceAs (Decidable (_ = true))

/-- Where the SELECT head ends that a masked text begins with: behind the keyword, or behind the DISTINCT
or ALL that belongs to it. -/
def headEnd (masked : List Char) : Nat :=
  (masked.takeWhile isBlank).length + ((selectHead none (blanks masked)).map Match.length).getD 0

/-- The text of a page. What is kept behind the statement stays behind its clauses. SQL Server gets its
first page by a TOP, and all later ones by an OFFSET, which has to follow an order. -/
def pageText (dialect : Dialect) (limit offset : Int) (text : List Char) : List Char :=
  let lexis := Lexis.ofDialect dialect
  let body := statementText lexis text
  let place := headEnd (statementMask lexis text)
  let order :=
    if topLevelHits orderByClause (statementMask lexis text) = [] then " ORDER BY (SELECT NULL)".toList
    else []
  match dialect with
  | .sqlserver =>
    if offset = 0 then
      body.take place ++ " TOP ".toList ++ numeral limit ++ body.drop place ++ trailerOf lexis text
    else
      body ++ order ++ " OFFSET ".toList ++ numeral offset ++ " ROWS FETCH NEXT ".toList ++
        numeral limit ++ " ROWS ONLY".toList ++ trailerOf lexis text
  | _ =>
    body ++ " LIMIT ".toList ++ numeral limit ++ " OFFSET ".toList ++ numeral offset ++
      trailerOf lexis text

/-- In SQL Server the text of the first page is shorter than that of any other page. -/
theorem length_first_pageText_lt {offset : Int} (later : offset ≠ 0) :
    (pageText .sqlserver limit 0 text).length < (pageText .sqlserver limit offset text).length := by
  have body : ∀ n, ((statementText (Lexis.ofDialect .sqlserver) text).take n).length +
      ((statementText (Lexis.ofDialect .sqlserver) text).drop n).length =
        (statementText (Lexis.ofDialect .sqlserver) text).length := fun n => by
    rw [← List.length_append, List.take_append_drop]
  have whole := body (headEnd (statementMask (Lexis.ofDialect .sqlserver) text))
  have top : " TOP ".toList.length = 5 := by decide
  have offset_size : " OFFSET ".toList.length = 8 := by decide
  simp only [pageText, if_true, if_neg later, List.length_append, top, offset_size]
  omega

theorem numeral_injective {value value' : Int} (nonneg : 0 ≤ value) (nonneg' : 0 ≤ value')
    (same : numeral value = numeral value') : value = value' := by
  have read := digitsValue?_numeral nonneg
  rw [same, digitsValue?_numeral nonneg', Option.some.injEq] at read
  omega

/-- The pages of one size of a text are told apart by their texts. -/
theorem pageText_injective {offset offset' : Int} (nonneg : 0 ≤ offset) (nonneg' : 0 ≤ offset')
    (same : pageText dialect limit offset text = pageText dialect limit offset' text) :
    offset = offset' := by
  cases dialect with
  | sqlserver =>
      -- The text of the first page is shorter than all others.
      by_cases first : offset = 0 <;> by_cases first' : offset' = 0
      · rw [first, first']
      · rw [first] at same
        exact absurd (congrArg List.length same) (length_first_pageText_lt first').ne
      · rw [first'] at same
        exact absurd (congrArg List.length same) (length_first_pageText_lt first).ne'
      · simp only [pageText, if_neg first, if_neg first', List.append_assoc, List.append_cancel_left_eq,
          List.append_cancel_right_eq] at same
        exact numeral_injective nonneg nonneg' same
  | postgres | mysql | sqlite | generic =>
      simp only [pageText, List.append_assoc, List.append_cancel_left_eq, List.append_cancel_right_eq] at same
      exact numeral_injective nonneg nonneg' same

/-- What closes a statement can be put at the end of any text. -/
theorem interchangeable_of_terminators {after : List Char} (all : ∀ c ∈ after, isTerminator c = true) :
    Interchangeable [] after := by
  have behind : ∀ c ∈ blanks after, isTerminator c = true := fun c member =>
    all c ((List.dropWhile_suffix _).subset member)
  exact ⟨inert_nil, inert_of_terminators all, inert_nil, inert_of_terminators behind,
    fun _ => stops_of_terminators all, fun _ => trivial⟩

/-- What closes a statement does not matter to its clauses. -/
theorem topLevelHits_append_terminators (keyed : Keyed pattern letter) (reads : Local pattern)
    (text : List Char) {after : List Char} (all : ∀ c ∈ after, isTerminator c = true) :
    topLevelHits pattern (text ++ after) = topLevelHits pattern text := by
  have stops := stops_of_terminators all
  have ends := interchangeable_of_terminators all
  have alike := reads ends (@edge_of_stops [] trivial text) (edge_of_stops stops text)
  rw [topLevelHits_eq_topFrom, topLevelHits_eq_topFrom]
  refine topFrom_append_tail keyed alike (fun before => ?_) 0 0 (Nat.zero_le _) none
  refine keyed.quiet_of_other (fun c member => ?_) before []
  have terminator := all c member
  simp only [isTerminator, Bool.or_eq_true, beq_iff_eq] at terminator
  rcases terminator with rfl | is_blank
  · rintro rfl
    exact absurd keyed.isLetter (by decide)
  · exact keyed.fold_ne_of_isBlank is_blank

theorem Unpaged.statementMask (unpaged : Unpaged (lexis.mask text)) (closes : lexis.closes text = true) :
    Unpaged (statementMask lexis text) := by
  obtain ⟨after, split, all⟩ := mask_eq_append_terminators closes
  obtain ⟨limit, offset, top, fetch⟩ := unpaged
  rw [split] at limit offset top fetch
  rw [topLevelHits_append_terminators keyed_limitClause local_limitClause _ all] at limit
  rw [topLevelHits_append_terminators keyed_offsetKeyword local_offsetKeyword _ all] at offset
  rw [topLevelHits_append_terminators keyed_topClause local_topClause _ all] at top
  rw [topLevelHits_append_terminators keyed_fetchClause local_fetchClause _ all] at fetch
  exact ⟨limit, offset, top, fetch⟩

theorem topFrom_blanks (keyed : Keyed pattern letter) {gap : List Char}
    (blank : ∀ c ∈ gap, isBlank c = true) (depth position : Nat) (before : Option Char)
    (rest : List Char) :
    topFrom pattern depth position 0 before (gap ++ rest) =
      topFrom pattern depth (position + gap.length) 0 (lastBefore before gap) rest := by
  induction gap generalizing position before with
  | nil => rfl
  | cons c more ih =>
      have is_blank := blank c (by simp)
      have none : pattern before (c :: (more ++ rest)) = Option.none := by
        by_contra found
        obtain ⟨match', matched⟩ := Option.ne_none_iff_exists'.1 found
        obtain ⟨-, d, tail, split, fold⟩ := keyed.begins matched
        rw [List.cons.injEq] at split
        exact keyed.fold_ne_of_isBlank is_blank (split.1 ▸ fold)
      have flat : depthStep depth c = depth := @depthAfter_of_isBlank [c] (by simpa using is_blank) depth
      rw [List.cons_append, topFrom, none]
      dsimp only
      rw [flat, ih (fun d member => blank d (by simp [member]))]
      simp only [List.length_cons, lastBefore]
      congr 1
      omega

/-- A SELECT head at the beginning of a text is the first one. -/
theorem firstTopLevel?_selectHead (opens : OpensWithSelect masked) :
    ∃ hit, firstTopLevel? selectHead masked = some hit ∧ hit.stop = headEnd masked := by
  obtain ⟨after, read⟩ := Option.isSome_iff_exists.1 opens
  obtain ⟨key_read, -⟩ := wholeWord?_eq_some_iff.1 read
  have split : masked = masked.takeWhile isBlank ++ blanks masked :=
    List.takeWhile_append_dropWhile.symm
  have blank : ∀ c ∈ masked.takeWhile isBlank, isBlank c = true := fun c member =>
    List.mem_takeWhile_imp member
  have begins : wordBegins (lastBefore none (masked.takeWhile isBlank)) = true := by
    by_cases some_gap : masked.takeWhile isBlank = []
    · rw [some_gap]
      rfl
    · exact wordBegins_of_isBlank ⟨some_gap, blank⟩ none
  have found : ∃ found, selectHead none (blanks masked) = some found := by
    rw [selectHead, if_pos (show wordBegins none = true from rfl), key_read]
    dsimp only
    split
    · exact ⟨_, rfl⟩
    · exact ⟨_, rfl⟩
  obtain ⟨found, matched⟩ := found
  have same : selectHead (lastBefore none (masked.takeWhile isBlank)) (blanks masked) = some found := by
    rw [← matched, selectHead, selectHead, if_pos begins, if_pos (show wordBegins none = true from rfl)]
  refine ⟨found.at (masked.takeWhile isBlank).length, ?_, ?_⟩
  · obtain ⟨-, c, more, shape, -⟩ := keyed_selectHead.begins matched
    rw [firstTopLevel?, topLevelHits_eq_topFrom]
    nth_rewrite 1 [split]
    rw [topFrom_blanks keyed_selectHead blank, shape, topFrom, ← shape, same]
    dsimp only
    rw [if_pos, Nat.zero_add]
    · rfl
    · rw [shape] at same
      exact keyed_selectHead.ownDepth_eq same 0
  · rw [headEnd, matched]
    rfl

theorem OpensWithSelect.leads (opens : OpensWithSelect text) : ∃ gap key rest, Leads gap key rest text ∧
    key.map foldKeyword = "select".toList ∧ wordEnds rest = true := by
  obtain ⟨rest, read⟩ := Option.isSome_iff_exists.1 opens
  obtain ⟨key_read, ends⟩ := wholeWord?_eq_some_iff.1 read
  obtain ⟨key, spelled, split⟩ := keyword?_eq_some_iff.1 key_read
  refine ⟨text.takeWhile isBlank, key, rest, ⟨?_, fun c => List.mem_takeWhile_imp, ?_,
    fun c => isWord_of_mem_key spelled (by decide)⟩, spelled, ends⟩
  · rw [← split, blanks, List.takeWhile_append_dropWhile]
  · rintro rfl
    cases spelled

/-- The statement of a text begins with SELECT if the text does. -/
theorem OpensWithSelect.statementMask (opens : OpensWithSelect text) (lexis : Lexis) :
    OpensWithSelect (Sql.statementMask lexis text) := by
  obtain ⟨gap, key, rest, leads, spelled, ends⟩ := opens.leads
  obtain ⟨n, masked, -⟩ := leads.statementMask lexis
  have ends' : wordEnds ((lexis.mask rest).take n) = true := by
    cases rest with
    | nil => cases n <;> rfl
    | cons c more =>
        cases n with
        | zero => rfl
        | succ n =>
            rw [Lexis.mask, Lexis.hideFrom, List.take_succ_cons, wordEnds]
            split_ifs
            · rw [isWord_eq_false_of_isBlank (isBlank_blank c)]
              rfl
            · exact ends
  have stops : Stops isBlank (key ++ (lexis.mask rest).take n) :=
    Stops.append ⟨masked.nonempty, masked.words⟩ (fun _ => isBlank_eq_false_of_isWord) _
  rw [OpensWithSelect, masked.split, blanks_append masked.blank stops,
    wholeWord?_eq_some_iff.2 ⟨keyword?_eq_some_iff.2 ⟨key, spelled, rfl⟩, ends'⟩]
  rfl

theorem Edit.applyAll_insertAt_eq (place : Nat) (written text : List Char) :
    Edit.applyAll [Edit.insertAt place written] text =
      text.take place ++ (written ++ text.drop place) := by
  simp [Edit.applyAll, Edit.applyFrom, Edit.insertAt]

theorem Unpaged.clear (unpaged : Unpaged masked) :
    Clear limitClause 0 none masked ∧ Clear offsetKeyword 0 none masked ∧
      Clear topClause 0 none masked ∧ Clear fetchClause 0 none masked :=
  ⟨(clear_iff_topLevelHits_eq_nil keyed_limitClause).2 unpaged.limit,
    (clear_iff_topLevelHits_eq_nil keyed_offsetKeyword).2 unpaged.offset,
    (clear_iff_topLevelHits_eq_nil keyed_topClause).2 unpaged.top,
    (clear_iff_topLevelHits_eq_nil keyed_fetchClause).2 unpaged.fetch⟩

/-- What SQL Server gets at the end of a statement without an OFFSET. -/
theorem fetchTail_of_clear (no_offset : Clear offsetKeyword 0 none masked) :
    fetchTail limit offset (Clauses.ofMask masked) =
      (if topLevelHits orderByClause masked = [] then " ORDER BY (SELECT NULL)".toList else []) ++
        (" OFFSET ".toList ++ (numeral offset ++ (" ROWS FETCH NEXT ".toList ++
          (numeral limit ++ " ROWS ONLY".toList)))) := by
  have order : ((Clauses.ofMask masked).orderBy.isNone = true) = (topLevelHits orderByClause masked = []) := by
    change ((lastTopLevel? orderByClause masked).isNone = true) = _
    rw [lastTopLevel?, Option.isNone_iff_eq_none, List.getLast?_eq_none_iff]
  have offset_none : (Clauses.ofMask masked).offset.isNone = true := by
    change (lastTopLevel? offsetKeyword masked).isNone = true
    rw [(lastTopLevel?_eq_none_iff keyed_offsetKeyword).2 no_offset]
    rfl
  have rows : " ROWS FETCH NEXT ".toList = " ROWS".toList ++ " FETCH NEXT ".toList := by decide
  unfold fetchTail
  generalize numeral limit = value
  generalize numeral offset = value'
  simp only [order, offset_none, if_true, rows, List.append_assoc]

/-- Bounding a statement that does not page itself gives the text of the page. -/
theorem boundText_eq_pageText (closes : (Lexis.ofDialect dialect).closes text = true)
    (touched : ¬ Untouched dialect text) (unpaged : Unpaged ((Lexis.ofDialect dialect).mask text))
    (opens : dialect = .sqlserver → OpensWithSelect text) :
    boundText dialect limit offset text = pageText dialect limit offset text := by
  obtain ⟨no_limit, no_offset, no_top, no_fetch⟩ := (unpaged.statementMask closes).clear
  have same := length_statementText (Lexis.ofDialect dialect) text
  have limits : ∀ limit offset : Int,
      Edit.applyAll (planLimit limit offset (statementMask (Lexis.ofDialect dialect) text))
          (statementText (Lexis.ofDialect dialect) text) =
        statementText (Lexis.ofDialect dialect) text ++ " LIMIT ".toList ++ numeral limit ++
          " OFFSET ".toList ++ numeral offset := by
    intro limit offset
    rw [planLimit_of_none no_limit no_top no_fetch no_offset, Edit.applyAll_insertAt_eq, ← same,
      List.take_length, List.drop_length]
    simp only [List.append_assoc, List.append_nil]
  rw [boundText_eq touched, bounded, planOf]
  cases dialect with
  | sqlserver =>
      by_cases first_page : offset = 0
      · subst first_page
        obtain ⟨hit, found, stop⟩ :=
          firstTopLevel?_selectHead ((opens rfl).statementMask (Lexis.ofDialect .sqlserver))
        rw [plan, planSqlServer_of_head limit no_top no_fetch no_offset found, stop,
          Edit.applyAll_insertAt_eq, pageText]
        simp
      · have later : ¬ (offset = 0 ∧ Clear offsetKeyword 0 none
            (statementMask (Lexis.ofDialect .sqlserver) text)) := fun both => first_page both.1
        rw [plan, planSqlServer_of_tail no_top no_fetch later, Edit.applyAll_insertAt_eq, ← same,
          List.take_length, List.drop_length, fetchTail_of_clear no_offset, pageText]
        simp only [if_neg first_page, List.append_assoc, List.append_nil]
  | postgres | mysql | sqlite | generic =>
      exact congrArg (· ++ trailerOf _ text) (limits limit offset)

end QueryDesk.Sql
