/-
Module: QueryDesk.Proofs.Service.Stacked
Purpose: Stacked statements. The gate reads the first keyword of a text only, so a text may bring further
  statements along. Bounding it adds none: if each statement of the submitted text begins with the
  keyword of a read, so does each one that is sent.
Imports: QueryDesk.Proofs.Page.Effect, QueryDesk.Proofs.Page.Stability, QueryDesk.Proofs.Sql.Pieces,
  QueryDesk.Proofs.Service.Sending
Main exports: Effect.readsEach, readsEach_boundText, execute_sends_stacked_reads
-/
import QueryDesk.Proofs.Page.Effect
import QueryDesk.Proofs.Page.Stability
import QueryDesk.Proofs.Sql.Pieces
import QueryDesk.Proofs.Service.Sending

namespace QueryDesk.Sql

open QueryDesk.Text

variable {masked front head count before : List Char} {limit offset : Int} {dialect : Dialect}
  {text : List Char}

/-- A clause does not begin inside of a word of its piece either. -/
theorem Front.begins_piece (place : Front front)
    (piece : front = before ∨ ∃ early, front = early ++ ';' :: before) :
    wordBegins (lastBefore none before) = true := by
  rcases piece with rfl | ⟨early, rfl⟩
  · exact place.begins
  · have begins := place.begins
    cases before with
    | nil => rfl
    | cons c rest => rwa [lastBefore_append] at begins

theorem exists_word_or (piece : List Char) :
    (∃ c ∈ piece, isWord c = true) ∨ ∀ c ∈ piece, isWord c = false := by
  by_cases worded : ∃ c ∈ piece, isWord c = true
  · exact .inl worded
  · simp only [not_exists, not_and, Bool.not_eq_true] at worded
    exact .inr worded

/-- A piece in which a clause other than a SELECT begins has its keyword before it. -/
theorem Front.reads_behind (place : Front front)
    (piece : front = before ∨ ∃ early, front = early ++ ';' :: before) {c : Char} {more tail : List Char}
    (fold : foldKeyword c ∈ ['l', 't', 'f', 'o'])
    (reads : isBlankText (before ++ c :: more) = false → Reads (before ++ c :: more)) :
    Reads (before ++ tail) := by
  have begins := place.begins_piece piece
  have clause : foldKeyword c ∈ clauseLetters := by
    have all : ['l', 't', 'f', 'o'].all (clauseLetters.contains ·) = true := by decide
    simpa using List.all_eq_true.1 all _ fold
  have word : isWord c = true := isWord_of_foldKeyword (by
    have all : ['l', 't', 'f', 'o'].all isKeywordLetter = true := by decide
    exact List.all_eq_true.1 all _ fold)
  have here := reads (by simp [isBlankText, isBlank_eq_false_of_isWord word])
  rcases exists_word_or before with worded | wordless
  · rw [Reads, firstWord_append worded (.inl begins)] at here ⊢
    exact here
  · -- The clause's own keyword would be the first word of the piece.
    rw [Reads, firstWord_append_of_none wordless, firstWord, List.dropWhile_cons_of_neg (by simp [word]),
      List.takeWhile_cons_of_pos word, upper, List.flatMap_cons, upperChar_of_foldKeyword clause] at here
    obtain ⟨no_l, no_t, no_o, no_f, -⟩ := head_of_readKeyword here
    simp only [List.cons_append, List.head?_cons, ne_eq, Option.some.injEq] at no_l no_t no_o no_f
    simp only [List.mem_cons, List.not_mem_nil, or_false] at fold
    rcases fold with fold | fold | fold | fold <;> rw [fold] at no_l no_t no_o no_f
    · exact absurd (by decide) no_l
    · exact absurd (by decide) no_t
    · exact absurd (by decide) no_f
    · exact absurd (by decide) no_o

theorem length_le_upper (text : List Char) : text.length ≤ (upper text).length := by
  induction text with
  | nil => exact Nat.le_refl _
  | cons c rest ih =>
      obtain ⟨first, more, image, -⟩ := exists_upperChar c
      have whole : upper (c :: rest) = upperChar c ++ upper rest := rfl
      rw [whole, image]
      simp only [List.length_cons, List.length_append]
      omega

/-- A piece in which a SELECT head begins reads as well with a TOP behind the head. -/
theorem Front.reads_top (place : Front front)
    (piece : front = before ∨ ∃ early, front = early ++ ';' :: before) {key more first top : List Char}
    (spelled : key.map foldKeyword = "select".toList) (isRest : SelectRest more)
    (reads : isBlankText (before ++ (key ++ more ++ first)) = false →
      Reads (before ++ (key ++ more ++ first))) :
    Reads (before ++ (key ++ more ++ (' ' :: top) ++ first)) := by
  have begins := place.begins_piece piece
  obtain ⟨c, rest, shape, fold, -⟩ := exists_cons_of_map spelled
  have words : ∀ c ∈ key, isWord c = true := fun c => isWord_of_mem_key spelled (by decide)
  have word : isWord c = true := words c (by simp [shape])
  have here := reads (by simp [shape, isBlankText, isBlank_eq_false_of_isWord word])
  rcases exists_word_or before with worded | wordless
  · rw [Reads, firstWord_append worded (.inl begins)] at here ⊢
    exact here
  · have first_word : ∀ tail, firstWord (before ++ (key ++ tail)) = key ++ tail.takeWhile isWord := by
      intro tail
      rw [firstWord_append_of_none wordless, firstWord, shape, List.cons_append,
        List.dropWhile_cons_of_neg (by simp [word]), ← List.cons_append, ← shape,
        List.takeWhile_append_of_pos words]
    have size : key.length = 6 := by
      have same := congrArg List.length spelled
      rwa [List.length_map] at same
    -- The first word is the keyword alone: no keyword of a read that begins with an S is longer.
    have alone : (more ++ first).takeWhile isWord = [] := by
      rw [Reads, List.append_assoc, first_word] at here
      have head : (upper (key ++ (more ++ first).takeWhile isWord)).head? = some 'S' := by
        rw [shape, List.cons_append, upper, List.flatMap_cons,
          upperChar_of_foldKeyword (by rw [fold]; decide), fold]
        rfl
      have short := (head_of_readKeyword here).2.2.2.2 head
      have long := length_le_upper (key ++ (more ++ first).takeWhile isWord)
      rw [List.length_append, size] at long
      exact List.eq_nil_of_length_eq_zero (by omega)
    have alone' : (more ++ (' ' :: top) ++ first).takeWhile isWord = [] := by
      rcases isRest with rfl | ⟨gap, word', rfl, ⟨some_gap, blank⟩, -⟩
      · rfl
      · obtain ⟨b, gap', rfl⟩ := List.exists_cons_of_ne_nil some_gap
        simp [isWord_eq_false_of_isBlank (blank b (by simp))]
    rw [Reads, List.append_assoc, first_word, alone] at here
    rw [Reads, List.append_assoc, List.append_assoc, first_word, ← List.append_assoc, alone']
    exact here

/-! ### What is added to a statement

What a plan writes has no semicolon and leaves the depth as it is, and so it stays in the piece that it is
written into. There it comes behind the first word, if only directly behind it as a TOP does behind a
SELECT. -/

/-- A text of clause characters behind which the depth is what it was. -/
structure Neutral (text : List Char) : Prop where
  chars : ∀ c ∈ text, isClauseChar c = true
  depth : ∀ depth, depthAfter depth text = depth

theorem Neutral.append {left right : List Char} (first : Neutral left) (second : Neutral right) :
    Neutral (left ++ right) := by
  refine ⟨fun c member => ?_, fun depth => ?_⟩
  · rcases List.mem_append.1 member with early | late
    · exact first.chars c early
    · exact second.chars c late
  · rw [depthAfter_append, first.depth, second.depth]

theorem neutral_nil : Neutral [] :=
  ⟨nofun, fun _ => rfl⟩

theorem neutral_of_isCountChar {text : List Char} (counts : ∀ c ∈ text, isCountChar c = true) :
    Neutral text :=
  ⟨fun c member => isClauseChar_of_isCountChar (counts c member), depthAfter_of_isCountChar counts⟩

theorem neutral_of_isWord {text : List Char} (words : ∀ c ∈ text, isWord c = true) : Neutral text :=
  ⟨fun c member => isClauseChar_of_isWord (words c member), depthAfter_of_isWord words⟩

theorem neutral_of_isBlank {text : List Char} (blank : ∀ c ∈ text, isBlank c = true) : Neutral text :=
  ⟨fun c member => isClauseChar_of_isBlank (blank c member), depthAfter_of_isBlank blank⟩

theorem neutral_numeral {value : Int} (nonneg : 0 ≤ value) : Neutral (numeral value) :=
  neutral_of_isCountChar fun _ member => isCountChar_of_isDigit (isDigit_of_mem_numeral nonneg member)

theorem neutral_clampCount (nonneg : 0 ≤ limit) (count : List Char) : Neutral (clampCount limit count) :=
  neutral_of_isCountChar fun c member =>
    isCountChar_of_isDigit ((isCount_clampCount nonneg count).2 c member)

/-- Words and blanks. -/
theorem neutral_words {text : List Char} (all : text.all (fun c => isWord c || isBlank c) = true) :
    Neutral text := by
  have kinds : ∀ c ∈ text, isWord c = true ∨ isBlank c = true := fun c member => by
    simpa using List.all_eq_true.1 all c member
  refine ⟨fun c member => ?_, fun depth => depthAfter_of_flat depth fun c member => ?_⟩
  · exact (kinds c member).elim isClauseChar_of_isWord isClauseChar_of_isBlank
  · have here := kinds c member
    constructor <;> (rintro rfl; revert here; decide)

theorem neutral_offsetRows (nonneg : 0 ≤ offset) : Neutral (offsetRows offset) :=
  ((neutral_words (by decide)).append (neutral_numeral nonneg)).append (neutral_words (by decide))

theorem neutral_offset (nonneg : 0 ≤ offset) : Neutral (" OFFSET ".toList ++ numeral offset) :=
  (neutral_words (by decide)).append (neutral_numeral nonneg)

theorem FetchHead.neutral (isHead : FetchHead head) : Neutral head := by
  obtain ⟨key, gap, word, gap', rfl, spelled, isRun, spelled', isRun'⟩ := isHead
  have words : ∀ c ∈ word, isWord c = true := fun c member => by
    rcases spelled' with next | first
    · exact isWord_of_mem_key next (by decide) member
    · exact isWord_of_mem_key first (by decide) member
  exact (neutral_of_isWord fun c => isWord_of_mem_key spelled (by decide)).append
    ((neutral_of_isBlank isRun.2).append ((neutral_of_isWord words).append (neutral_of_isBlank isRun'.2)))

theorem SelectRest.neutral {more : List Char} (isRest : SelectRest more) : Neutral more := by
  rcases isRest with rfl | ⟨gap, word, rfl, isRun, spelled⟩
  · exact neutral_nil
  · refine (neutral_of_isBlank isRun.2).append (neutral_of_isWord fun c member => ?_)
    rcases spelled with distinct | all
    · exact isWord_of_mem_key distinct (by decide) member
    · exact isWord_of_mem_key all (by decide) member

/-- The tail for SQL Server begins with a blank and has clause characters only. -/
theorem isClauseChar_fetchTail (nonneg : 0 ≤ limit) (offset_nonneg : 0 ≤ offset) (clauses : Clauses) :
    ∃ tail, fetchTail limit offset clauses = ' ' :: tail ∧ ∀ c ∈ tail, isClauseChar c = true := by
  obtain ⟨order, between, split, order_cases, between_cases⟩ := serverTail_cases offset clauses
  have order_chars : ∀ c ∈ order, isClauseChar c = true := by
    rcases order_cases with rfl | rfl
    · exact nofun
    · have all : " ORDER BY (SELECT NULL)".toList.all isClauseChar = true := by decide
      exact List.all_eq_true.1 all
  have between_neutral : Neutral between := by
    rcases between_cases with rfl | rfl
    · exact neutral_nil
    · rw [← List.append_assoc]
      exact (neutral_offset offset_nonneg).append (neutral_words (by decide))
  have fetch_neutral : Neutral (" FETCH NEXT ".toList ++ (numeral limit ++ " ROWS ONLY".toList)) :=
    (neutral_words (by decide)).append ((neutral_numeral nonneg).append (neutral_words (by decide)))
  have chars : ∀ c ∈ fetchTail limit offset clauses, isClauseChar c = true := by
    rw [fetchTail_eq, split, List.append_assoc, List.append_assoc]
    intro c member
    rcases List.mem_append.1 member with early | late
    · exact order_chars c early
    · exact (between_neutral.append fetch_neutral).chars c late
  have head := head?_fetchTail limit offset clauses
  generalize fetchTail limit offset clauses = tail at chars head
  cases tail with
  | nil => cases head
  | cons c rest =>
      rw [List.head?_cons, Option.some.injEq] at head
      exact ⟨rest, by rw [head], fun d member => chars d (by simp [member])⟩

/-- The last piece of a masked text is more than blanks. -/
def EndsFilled (masked : List Char) : Prop :=
  ∀ last ∈ (piecesFrom 0 masked).getLast?, isBlankText last = false

instance (masked : List Char) : Decidable (EndsFilled masked) :=
  inferInstanceAs (Decidable (∀ last ∈ (piecesFrom 0 masked).getLast?, _))

/-- What is put at the end of a statement comes behind the keyword of its last piece. -/
theorem ReadsEach.concat (depth : depthAfter 0 masked = 0) (filled : EndsFilled masked)
    (reads : ReadsEach masked) {tail : List Char} (clause : ∀ c ∈ tail, isClauseChar c = true) :
    ReadsEach (masked ++ ' ' :: tail) := by
  obtain ⟨early, last, -, split⟩ := exists_pieces 0 masked
  have alone := split [] [] [] (by rw [depth]; rfl)
  have behind := split (' ' :: tail) (' ' :: tail) [] (piecesFrom_of_not_mem (not_mem_of_isClauseChar
    (List.forall_mem_cons.2 ⟨by decide, clause⟩)) _)
  rw [List.append_nil, List.append_nil] at alone
  rw [ReadsEach, alone] at reads
  rw [EndsFilled, alone] at filled
  rw [ReadsEach, behind]
  intro piece member some_piece
  rcases List.mem_append.1 member with earlier | here
  · exact reads piece (by simp [earlier]) some_piece
  · have last_reads := reads last (by simp) (filled last (by simp))
    have stops : Stops isWord (' ' :: tail) := (by decide : isWord ' ' = false)
    rw [List.mem_singleton.1 here, Reads, firstWord_append last_reads.worded (.inr stops)]
    exact last_reads

/-- A clause that is no SELECT head can be exchanged. -/
theorem ReadsEach.exchange_clause {front old new back : List Char} (place : Front front)
    (begins : ∃ c more, old = c :: more ∧ foldKeyword c ∈ ['l', 't', 'f', 'o'])
    (chars : ∀ c ∈ old, isClauseChar c = true) (chars' : ∀ c ∈ new, isClauseChar c = true)
    (depth : ∀ depth, depthAfter depth old = depthAfter depth new)
    (reads : ReadsEach (front ++ (old ++ back))) : ReadsEach (front ++ (new ++ back)) := by
  obtain ⟨c, more, rfl, fold⟩ := begins
  exact reads.exchange (not_mem_of_isClauseChar chars) (not_mem_of_isClauseChar chars') (depth _)
    fun before first piece here => place.reads_behind piece fold here

/-- So can one that leaves the depth as it is, for another one that does. -/
theorem ReadsEach.exchange_neutral {front old new back : List Char} (place : Front front)
    (begins : ∃ c more, old = c :: more ∧ foldKeyword c ∈ ['l', 't', 'f', 'o']) (old_neutral : Neutral old)
    (new_neutral : Neutral new) (reads : ReadsEach (front ++ (old ++ back))) :
    ReadsEach (front ++ (new ++ back)) :=
  reads.exchange_clause place begins old_neutral.chars new_neutral.chars fun depth => by
    rw [old_neutral.depth, new_neutral.depth]

/-- No edit of a plan makes a statement of another kind than a read. -/
theorem Effect.readsEach {edits : List Edit} (effect : Effect limit offset masked edits)
    (nonneg : 0 ≤ limit) (offset_nonneg : 0 ≤ offset) (depth : depthAfter 0 masked = 0)
    (filled : EndsFilled masked) (reads : ReadsEach masked) :
    ReadsEach (Edit.applyAll edits masked) := by
  have clamped := fun count => neutral_clampCount nonneg count
  have rows := neutral_offsetRows offset_nonneg
  cases effect with
  | keep => exact reads
  | @clamp front head count place isHead isRun tail rest isTail =>
      have counts := neutral_of_isCountChar isRun.2
      have added : Neutral (clampCount limit count ++ tail) := by
        rcases isTail with rfl | ⟨-, rfl⟩
        · exact (clamped count).append neutral_nil
        · exact (clamped count).append (neutral_offset offset_nonneg)
      rw [← List.append_assoc front head, Edit.applyAll_single, List.append_assoc front head,
        ← List.append_assoc head]
      rw [← List.append_assoc head] at reads
      refine reads.exchange_clause place ?_ (fun c member => ?_) (fun c member => ?_) fun depth => ?_
      · obtain ⟨c, more, rfl, fold⟩ := isHead.exists_cons
        exact ⟨c, _, rfl, fold⟩
      · exact (List.mem_append.1 member).elim (isHead.isClauseChar c) (counts.chars c)
      · exact (List.mem_append.1 member).elim (isHead.isClauseChar c) (added.chars c)
      · rw [depthAfter_append, depthAfter_append, counts.depth, added.depth]
  | @lead front head place isHead rest positive =>
      rw [Edit.applyAll_insertAt, ← List.append_assoc _ head]
      exact reads.exchange_neutral place (CountHead.fetch isHead).exists_cons isHead.neutral
        (rows.append isHead.neutral)
  | @leadClamp front head count place isHead isRun rest positive =>
      have old := isHead.neutral.append (neutral_of_isCountChar isRun.2)
      have new := (rows.append isHead.neutral).append (clamped count)
      have applied := Edit.applyAll_pair front (offsetRows offset) head count (clampCount limit count) rest
      rw [show front ++ (offsetRows offset ++ (head ++ (clampCount limit count ++ rest))) =
        front ++ ((offsetRows offset ++ head ++ clampCount limit count) ++ rest) by simp] at applied
      rw [applied]
      rw [← List.append_assoc head] at reads
      refine reads.exchange_neutral place ?_ old new
      obtain ⟨c, more, rfl, fold⟩ := (CountHead.fetch isHead).exists_cons
      exact ⟨c, _, rfl, fold⟩
  | @limitBefore front key place spelled rest =>
      have old : Neutral key := neutral_of_isWord fun c => isWord_of_mem_key spelled (by decide)
      have new : Neutral ("LIMIT ".toList ++ (numeral limit ++ [' ']) ++ key) :=
        ((neutral_words (by decide)).append
          ((neutral_numeral nonneg).append (neutral_of_isBlank isRun_space.2))).append old
      rw [Edit.applyAll_insertAt, ← List.append_assoc _ key]
      refine reads.exchange_neutral place ?_ old new
      obtain ⟨c, more, rfl, fold, -⟩ := exists_cons_of_map spelled
      exact ⟨c, more, rfl, by rw [fold]; decide⟩
  | @topBehind front key more place spelled isRest rest =>
      have old : Neutral (key ++ more) :=
        (neutral_of_isWord fun c => isWord_of_mem_key spelled (by decide)).append isRest.neutral
      have new : Neutral ((key ++ more) ++ (' ' :: "TOP ".toList ++ numeral limit)) :=
        old.append ((neutral_words (by decide)).append (neutral_numeral nonneg))
      have split : ∀ text : List Char, front ++ (key ++ (more ++ text)) = (front ++ key ++ more) ++ text :=
        fun text => by simp
      rw [split, Edit.applyAll_insertAt, ← split]
      rw [← List.append_assoc key] at reads
      have done := reads.exchange (not_mem_of_isClauseChar old.chars) (not_mem_of_isClauseChar new.chars)
        (by rw [old.depth, new.depth]) fun before first piece here => place.reads_top piece spelled isRest here
      simpa using done
  | limitBehind =>
      have chars : Neutral ("LIMIT ".toList ++ (numeral limit ++ (" OFFSET ".toList ++ numeral offset))) :=
        (neutral_words (by decide)).append ((neutral_numeral nonneg).append (neutral_offset offset_nonneg))
      have applied := Edit.applyAll_insertAt masked
        (' ' :: ("LIMIT ".toList ++ (numeral limit ++ (" OFFSET ".toList ++ numeral offset)))) []
      rw [List.append_nil, List.append_nil] at applied
      exact applied ▸ reads.concat depth filled chars.chars
  | fetchBehind _ clauses =>
      obtain ⟨tail, split, chars⟩ := isClauseChar_fetchTail nonneg offset_nonneg clauses
      have applied := Edit.applyAll_insertAt masked (fetchTail limit offset clauses) []
      rw [List.append_nil, List.append_nil] at applied
      rw [applied, split]
      exact reads.concat depth filled chars

/-- If each statement of a text reads and the last one is more than quoted tokens, then each statement of
the bounded text reads. -/
theorem readsEach_boundText (closed : LexicallyClosed (Lexis.ofDialect dialect) text) (nonneg : 0 ≤ limit)
    (offset_nonneg : 0 ≤ offset)
    (seamless : ¬ Untouched dialect text → Seamless dialect limit offset text)
    (filled : ¬ Untouched dialect text → EndsFilled (statementMask (Lexis.ofDialect dialect) text))
    (reads : ReadsEach ((Lexis.ofDialect dialect).mask text)) :
    ReadsEach ((Lexis.ofDialect dialect).mask (boundText dialect limit offset text)) := by
  by_cases untouched : Untouched dialect text
  · rwa [boundText_of_untouched untouched]
  · obtain ⟨after, split, all⟩ := mask_eq_append_terminators closed.closes
    obtain ⟨after', split', all'⟩ := mask_boundText closed.closes nonneg offset_nonneg untouched
      (seamless untouched)
    have effect := effect_plan dialect limit offset (statementMask (Lexis.ofDialect dialect) text)
    rw [split, readsEach_append_terminators closed.depth all] at reads
    have bounded_reads := effect.readsEach nonneg offset_nonneg closed.depth (filled untouched) reads
    rw [split', readsEach_append_blank _ all']
    exact bounded_reads

end QueryDesk.Sql

namespace QueryDesk.QueryService

open QueryDesk.Text QueryDesk.Sql

/-- No statement is sent that does not begin with the keyword of a read, unless such a statement was
submitted: the gate itself reads the first one only. -/
theorem execute_sends_stacked_reads (service : QueryService) (connection : Call → Reply)
    (watch : Stopwatch) (stamp : String) (request : QueryRequest)
    (closed : LexicallyClosed (Lexis.ofDialect request.dialect) request.sql.toList)
    (seamless : ¬ Untouched request.dialect request.sql.toList →
      Seamless request.dialect (service.page request).directive.limit
        (service.page request).directive.offset request.sql.toList)
    (filled : ¬ Untouched request.dialect request.sql.toList →
      EndsFilled (statementMask (Lexis.ofDialect request.dialect) request.sql.toList))
    (reads : ReadsEach ((Lexis.ofDialect request.dialect).mask request.sql.toList)) :
    ∀ call ∈ (service.execute connection watch stamp request).sent,
      ReadsEach ((Lexis.ofDialect request.dialect).mask call.sql.toList) := by
  rw [execute_sent]
  split_ifs
  · intro call member
    have positive := one_le_clamp service.settings.policy request.limit
    rw [List.mem_singleton.1 member, QueryService.call, page, paginate, String.toList_ofList]
    exact readsEach_boundText closed (Int.le_of_lt positive)
      (directiveOf_offset_nonneg _ request.limit request.offset) seamless filled reads
  · intro call member
    cases member

/-- Two reads, of which the first has a semicolon in a literal; the page goes to the second one. -/
theorem execute_sends_two_reads :
    (LexicallyClosed (Lexis.ofDialect .postgres) "SELECT ';' FROM t; SHOW x -- ;".toList ∧
      Seamless .postgres 50 0 "SELECT ';' FROM t; SHOW x -- ;".toList ∧
      EndsFilled (statementMask (Lexis.ofDialect .postgres) "SELECT ';' FROM t; SHOW x -- ;".toList) ∧
      ReadsEach ((Lexis.ofDialect .postgres).mask "SELECT ';' FROM t; SHOW x -- ;".toList)) ∧
    ∀ call ∈ (standard.execute (fun _ => ⟨0, .ok (.list [])⟩) {} ""
        { sql := "SELECT ';' FROM t; SHOW x -- ;" }).sent,
      ReadsEach ((Lexis.ofDialect .postgres).mask call.sql.toList) := by
  have closed : LexicallyClosed (Lexis.ofDialect .postgres) "SELECT ';' FROM t; SHOW x -- ;".toList :=
    ⟨by decide +kernel, by decide +kernel⟩
  have seamless : Seamless .postgres 50 0 "SELECT ';' FROM t; SHOW x -- ;".toList :=
    ⟨by decide +kernel, by decide +kernel⟩
  have filled : EndsFilled
      (statementMask (Lexis.ofDialect .postgres) "SELECT ';' FROM t; SHOW x -- ;".toList) := by
    decide +kernel
  have reads : ReadsEach ((Lexis.ofDialect .postgres).mask "SELECT ';' FROM t; SHOW x -- ;".toList) := by
    decide +kernel
  exact ⟨⟨closed, seamless, filled, reads⟩,
    execute_sends_stacked_reads standard (fun _ => ⟨0, .ok (.list [])⟩) {} ""
      { sql := "SELECT ';' FROM t; SHOW x -- ;" } closed (fun _ => seamless) (fun _ => filled) reads⟩

/-- The gate lets a DROP through that stands behind a read, and the service sends it. -/
theorem execute_sends_drop :
    LexicallyClosed (Lexis.ofDialect .postgres) "SELECT 1; DROP TABLE t".toList ∧
      (standard.execute (fun _ => ⟨0, .ok (.list [])⟩) {} "" { sql := "SELECT 1; DROP TABLE t" }).sent.map
          Call.sql = ["SELECT 1; DROP TABLE t LIMIT 50 OFFSET 0"] ∧
      ¬ ReadsEach ((Lexis.ofDialect .postgres).mask
        "SELECT 1; DROP TABLE t LIMIT 50 OFFSET 0".toList) := by
  refine ⟨⟨by decide +kernel, by decide +kernel⟩, ?_, by decide +kernel⟩
  rw [execute_sent]
  decide +kernel

end QueryDesk.QueryService
