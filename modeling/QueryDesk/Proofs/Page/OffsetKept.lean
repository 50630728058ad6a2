/-
Module: QueryDesk.Proofs.Page.OffsetKept
Purpose: Which plans keep the offset that they are made for. A rewritten query without an offset of its own
  encodes the offset that is returned with it, but for the branches of a plan that lose it: a TOP is only
  clamped, and in SQL Server so is a FETCH; and what follows a question mark joins the number that is
  written in its place.
Imports: QueryDesk.Proofs.Page.Encoded, QueryDesk.Proofs.Page.PageText
Main exports: NoOffset, OffsetLost, plan_encodesOffset_iff, paginate_encodesOffset_iff
-/
import QueryDesk.Proofs.Page.Encoded
import QueryDesk.Proofs.Page.PageText

namespace QueryDesk.Sql

open QueryDesk.Text QueryDesk.Number

variable {limit offset : Int} {masked front back head count tail after key more rest x y : List Char}

/-- A text with no offset of its own: it has neither an OFFSET nor a LIMIT with two counts. -/
structure NoOffset (masked : List Char) : Prop where
  keyword : lastTopLevel? offsetKeyword masked = none
  pair : lastTopLevel? pairedLimit masked = none

instance (masked : List Char) : Decidable (NoOffset masked) :=
  decidable_of_iff (lastTopLevel? offsetKeyword masked = none ∧ lastTopLevel? pairedLimit masked = none)
    ⟨fun ⟨keyword, pair⟩ => ⟨keyword, pair⟩, fun ⟨keyword, pair⟩ => ⟨keyword, pair⟩⟩

/-- What stands behind the count of a LIMIT goes on with the offset that is written there, or makes digits
that join the count the first one of two. -/
def CountLoses (offset : Int) (rest : List Char) : Prop :=
  if 0 < offset then ¬ Stops isRunChar rest else secondCount? (rest.dropWhile isDigit) ≠ none

instance (offset : Int) (rest : List Char) : Decidable (CountLoses offset rest) :=
  inferInstanceAs (Decidable (if 0 < offset then _ else _))

/-- Where there is LIMIT, an offset is lost behind its count, and if a TOP stands in its place. -/
def LimitLosesOffset (offset : Int) (masked : List Char) : Prop :=
  (∃ found ∈ lastTopLevel? limitClause masked, ∃ count ∈ found.group? 0,
      CountLoses offset (masked.drop count.stop)) ∨
    lastTopLevel? limitClause masked = none ∧ lastTopLevel? topClause masked ≠ none ∧ 0 < offset

instance (offset : Int) (masked : List Char) : Decidable (LimitLosesOffset offset masked) :=
  inferInstanceAs (Decidable ((∃ found ∈ lastTopLevel? limitClause masked, ∃ count ∈ found.group? 0, _) ∨ _))

/-- In SQL Server an offset is lost if the statement has a TOP or a FETCH. -/
def ServerLosesOffset (offset : Int) (masked : List Char) : Prop :=
  0 < offset ∧ (lastTopLevel? topClause masked ≠ none ∨ lastTopLevel? fetchClause masked ≠ none)

instance (offset : Int) (masked : List Char) : Decidable (ServerLosesOffset offset masked) :=
  inferInstanceAs (Decidable (_ ∧ _))

/-- A statement without an offset of its own whose plan loses the offset that it is made for. -/
def OffsetLost (dialect : Dialect) (offset : Int) (masked : List Char) : Prop :=
  match dialect with
  | .sqlserver => ServerLosesOffset offset masked
  | _ => LimitLosesOffset offset masked

instance (dialect : Dialect) (offset : Int) (masked : List Char) :
    Decidable (OffsetLost dialect offset masked) :=
  match dialect with
  | .sqlserver => inferInstanceAs (Decidable (ServerLosesOffset offset masked))
  | .postgres | .mysql | .sqlite | .generic => inferInstanceAs (Decidable (LimitLosesOffset offset masked))

/-- A statement without an offset encodes the offset zero only. -/
theorem encodesOffset_iff_of_zero {text : List Char} (offset_nonneg : 0 ≤ offset)
    (no_offset : Clear offsetKeyword 0 none text) (unpaired : Clear pairedLimit 0 none text) :
    encodedOffset? text = some offset ↔ ¬ 0 < offset := by
  rw [encodedOffset?_eq_zero no_offset (single_of_clear unpaired), Option.some.injEq]
  omega

/-! ### LIMIT

An offset above zero is written behind the count, where it is read unless something goes on with its digits.
For the first page nothing is written there, and the offset stays zero unless the count takes in digits and
becomes the first one of two. -/

/-- With an offset above zero, the offset is written behind the one count of a LIMIT. -/
theorem LimitOne.encodesOffset_iff_later (one : LimitOne masked front head count rest) (nonneg : 0 ≤ limit)
    (later : 0 < offset) (no_offset : Clear offsetKeyword 0 none masked) :
    encodedOffset? (limitAgain limit offset masked front head count rest) = some offset ↔
      Stops isRunChar rest := by
  have isRun : IsRun isDigit (clampCount limit count) := isCount_clampCount nonneg count
  have flat : depthAfter 0 ((front ++ head) ++ (clampCount limit count ++ [' '])) = 0 := by
    rw [depthAfter_append, depthAfter_append, depthAfter_append, one.last.depth, one.isHead.depthAfter,
      depthAfter_of_isDigit isRun.2]
    rfl
  have begins : wordBegins (lastBefore none ((front ++ head) ++ (clampCount limit count ++ [' ']))) = true := by
    rw [← List.append_assoc, lastBefore_append]
    exact wordBegins_of_isBlank isRun_space _
  have clear : Clear offsetKeyword 0 (some '0') rest := by
    rw [one.split, clear_append, clear_append, clear_append, one.last.depth, one.isHead.depthAfter,
      depthAfter_of_isCountChar one.shape.countAt.isRun.2] at no_offset
    exact no_offset.2.2.2.mono keyed_offsetKeyword fun starts => absurd starts (by decide)
  have whole : limitAgain limit offset masked front head count rest =
      ((front ++ head) ++ (clampCount limit count ++ [' '])) ++
        ("OFFSET".toList ++ ([' '] ++ (numeral offset ++ rest))) := by
    rw [limitAgain, offsetTail_of_clear later no_offset, offset_written]
    simp only [List.append_assoc, List.cons_append, List.nil_append]
  rw [whole]
  exact encodesOffset_iff_stops later flat begins isRun_space clear

/-- With digits behind a question mark the count that comes in its place is above zero. -/
theorem LimitOne.value_of_joined (one : LimitOne masked front head count (more ++ rest)) (positive : 1 ≤ limit)
    (isRun : IsRun isDigit more) :
    ∃ value : Nat, countValue? (clampCount limit count ++ more) = some value ∧ value ≠ 0 := by
  have mark : count = ['?'] := by
    rcases one.shape.countAt.ends with mark | stops
    · exact mark
    · obtain ⟨d, behind, rfl⟩ := List.exists_cons_of_ne_nil isRun.1
      exact (stops.false_of_head (isRun.2 d (by simp))).elim
  obtain ⟨value, read, greater⟩ :=
    le_digitsValue?_append (digitsValue?_numeral (by omega : 0 ≤ limit)) isRun.1 isRun.2
  refine ⟨value, ?_, by omega⟩
  rw [mark, clampCount_of_none rfl]
  exact read

/-- For the first page the count of a LIMIT is clamped. The offset becomes another one if the count takes
in digits behind which there is a second count. -/
theorem LimitOne.encodesOffset_iff_first (one : LimitOne masked front head count rest) (positive : 1 ≤ limit)
    (no_offset : Clear offsetKeyword 0 none masked) :
    encodedOffset? (limitAgain limit 0 masked front head count rest) = some 0 ↔
      secondCount? (rest.dropWhile isDigit) = none := by
  have isRun : IsRun isDigit (clampCount limit count) := isCount_clampCount (by omega) count
  have empty := (clear_iff_topLevelHits_eq_nil keyed_offsetKeyword).1 no_offset
  have no_offset' : Clear offsetKeyword 0 none ((front ++ head) ++ (clampCount limit count ++ rest)) :=
    (one.clear_offset_iff isRun).2 fun hit member => by
      rw [empty] at member
      cases member
  have whole : limitAgain limit 0 masked front head count rest =
      (front ++ head) ++ (clampCount limit count ++ rest) := by
    rw [limitAgain, offsetTail_eq_nil fun wanted => absurd wanted (Int.lt_irrefl 0), List.nil_append]
  obtain ⟨digits, behind, rfl, all, stops⟩ := exists_digits rest
  have isRun' := isRun_append_digits isRun all
  have last := limitLast_first one.last.depth (one.isHead.reached one.last _)
    (one.last.begins keyed_limitClause) one.isHead isRun' stops (clear_behind_digits all (one.clear isRun))
  have behind_digits : (digits ++ behind).dropWhile isDigit = behind := by
    rw [List.dropWhile_append_of_pos all, dropWhile_of_stops stops]
  rw [← List.append_assoc (clampCount limit count)] at whole no_offset'
  rw [whole, behind_digits]
  rw [List.append_assoc front] at no_offset' ⊢
  cases second : secondCount? behind with
  | none =>
      have found := (lastTopLevel?_eq_some_iff keyed_limitClause).2 ⟨front, _, _, rfl, last.1 second, rfl⟩
      refine iff_of_true (encodedOffset?_eq_zero no_offset' fun hit member => ?_) rfl
      obtain rfl := Option.some.inj (found.symm.trans member)
      rw [Match.group?_at]
      rfl
  | some read =>
      obtain ⟨start, behind_second⟩ := read
      obtain ⟨gap, gap', token, split, rfl, blank, -, -⟩ := secondCount?_eq_some_iff.1 second
      -- A second count behind the mark itself would have been one of the statement.
      have some_digits : digits ≠ [] := by
        rintro rfl
        have single := one.single
        rw [List.nil_append, second] at single
        cases single
      obtain ⟨value, read, nonzero⟩ := one.value_of_joined positive ⟨some_digits, all⟩
      have stops_run : Stops isRunChar behind := by
        rw [split]
        cases gap with
        | nil => exact (by decide : isRunChar ',' = false)
        | cons c more => exact isRunChar_eq_false_of_isBlank (blank c (by simp))
      refine iff_of_false (fun encoded => nonzero ?_) (Option.some_ne_none _)
      have pair := last.2 (gap ++ ',' :: gap') token behind_second split second
      rw [encodedOffset?_of_pair no_offset' pair, numberAt?, List.drop_left] at encoded
      have blanks_none : blanks ((clampCount limit count ++ digits) ++ behind) =
          (clampCount limit count ++ digits) ++ behind :=
        dropWhile_of_stops (Stops.append isRun'
          (fun _ digit => isBlank_eq_false_of_isWord (isWord_of_isDigit digit)) behind)
      rw [blanks_none, takeWhile_append_of_digits isRun'.2, takeWhile_of_stops stops_run, List.append_nil, read,
        Option.map_some, Option.some.injEq] at encoded
      exact Int.ofNat_eq_zero.1 encoded

/-- The plan of a statement whose last LIMIT has one count keeps the offset unless it is lost behind the
count. -/
theorem LimitOne.encodesOffset_iff (one : LimitOne masked front head count rest) (positive : 1 ≤ limit)
    (offset_nonneg : 0 ≤ offset) (no_offset : Clear offsetKeyword 0 none masked) :
    encodedOffset? (Edit.applyAll (planLimit limit offset masked) masked) = some offset ↔
      ¬ CountLoses offset rest := by
  rw [one.applyAll, CountLoses]
  split_ifs with later
  · rw [one.encodesOffset_iff_later (by omega) later no_offset, not_not]
  · obtain rfl : offset = 0 := by omega
    rw [one.encodesOffset_iff_first positive no_offset, not_not]

/-- Behind blanks a word is no second count. -/
theorem secondCount?_of_isWord {gap : List Char} {first : Char} (blank : ∀ c ∈ gap, isBlank c = true)
    (is_word : isWord first = true) (rest : List Char) : secondCount? (gap ++ first :: rest) = none := by
  have word_first : Stops isBlank (first :: rest) := isBlank_eq_false_of_isWord is_word
  have no_comma : char? ',' (first :: rest) = none := if_neg fun comma => by
    rw [beq_iff_eq.1 comma] at is_word
    exact absurd is_word (by decide)
  rw [secondCount?, blanks_append blank word_first, no_comma]

/-- What a name that goes on into a TOP has behind it is no second count, or does not depend on the digits. -/
theorem TopHead.secondCount?_exchange {opens : Bool} (isHead : TopHead opens head) {digits : List Char}
    (isCount : IsRun isDigit count) (isRun : IsRun isDigit digits)
    (single : secondCount? ((head ++ (count ++ rest)).dropWhile isWord) = none) :
    secondCount? ((head ++ (digits ++ rest)).dropWhile isWord) = none := by
  have words : ∀ {run : List Char}, IsRun isDigit run → ∀ c ∈ run, isWord c = true :=
    fun isRun c member => isWord_of_isDigit (isRun.2 c member)
  obtain ⟨key, gap, gap', spelled, blank, -, rfl⟩ := isHead
  have key_words : ∀ c ∈ key, isWord c = true := fun c => isWord_of_mem_key spelled (by decide)
  cases opens with
  | false =>
      simp only [Bool.false_eq_true, if_false, List.append_assoc] at single ⊢
      rw [List.dropWhile_append_of_pos key_words] at single ⊢
      cases gap with
      | nil =>
          rw [List.nil_append, List.dropWhile_append_of_pos (words isRun)]
          rwa [List.nil_append, List.dropWhile_append_of_pos (words isCount)] at single
      | cons c gap =>
          have stops : Stops isWord (c :: gap ++ (digits ++ rest)) :=
            isWord_eq_false_of_isBlank (blank c (by simp))
          obtain ⟨d, more, rfl⟩ := List.exists_cons_of_ne_nil isRun.1
          rw [dropWhile_of_stops stops]
          exact secondCount?_of_isWord blank (words isRun d (by simp)) _
  | true =>
      simp only [if_true, List.append_assoc, List.cons_append]
      have stops : Stops isWord (gap ++ '(' :: (gap' ++ (digits ++ rest))) := by
        cases gap with
        | nil => exact (by decide : isWord '(' = false)
        | cons c more => exact isWord_eq_false_of_isBlank (blank c (by simp))
      have opening : Stops isBlank ('(' :: (gap' ++ (digits ++ rest))) := (by decide : isBlank '(' = false)
      rw [List.dropWhile_append_of_pos key_words, dropWhile_of_stops stops, secondCount?,
        blanks_append blank opening]
      rfl

/-- No LIMIT with two counts comes in when a TOP is clamped. -/
theorem TopHead.clear_pairedLimit {opens : Bool} (isHead : TopHead opens head)
    (begins : wordBegins (lastBefore none front) = true) (isCount : IsRun isDigit count) {digits : List Char}
    (isRun : IsRun isDigit digits) (clear : Clear pairedLimit 0 none (front ++ (head ++ (count ++ rest)))) :
    Clear pairedLimit 0 none (front ++ (head ++ (digits ++ rest))) := by
  rw [clear_append, isHead.clear_iff keyed_pairedLimit (by decide) isCount] at clear
  rw [clear_append, isHead.clear_iff keyed_pairedLimit (by decide) isRun]
  exact ⟨clear.1.pairedLimit (isHead.interchangeable _ _) (edge_of_wordBegins begins _)
    (edge_of_wordBegins begins _) (isHead.secondCount?_exchange isCount isRun), clear.2⟩

/-- A statement whose TOP was clamped encodes no offset. -/
theorem TopAt.encodesOffset_iff {opens : Bool} {group : Option Span}
    (top : TopAt opens masked front head count tail after group) (nonneg : 0 ≤ limit)
    (offset_nonneg : 0 ≤ offset) (no_offset : Clear offsetKeyword 0 none masked)
    (unpaired : Clear pairedLimit 0 none masked) :
    encodedOffset? (front ++ (head ++ (clampCount limit count ++ (tail ++ after)))) = some offset ↔
      ¬ 0 < offset := by
  have begins := top.last.begins keyed_topClause
  have isRun : IsRun isDigit (clampCount limit count) := isCount_clampCount nonneg count
  rw [top.split] at no_offset unpaired
  exact encodesOffset_iff_of_zero offset_nonneg
    (top.isHead.clear_exchange keyed_offsetKeyword local_offsetKeyword (by decide) begins top.isCount isRun
      no_offset)
    (top.isHead.clear_pairedLimit begins top.isCount isRun unpaired)

/-- The plan that only clamps the last TOP keeps no offset above zero. -/
theorem planTop_encodesOffset_iff {hit : Hit} (nonneg : 0 ≤ limit) (offset_nonneg : 0 ≤ offset)
    (no_offset : Clear offsetKeyword 0 none masked) (unpaired : Clear pairedLimit 0 none masked)
    (found : lastTopLevel? topClause masked = some hit) :
    encodedOffset? (Edit.applyAll (planTop limit masked hit) masked) = some offset ↔ ¬ 0 < offset := by
  obtain ⟨opens, front, head, count, tail, after, group, top⟩ := exists_topAt found
  obtain ⟨hit', found', planned⟩ := planTop_of_last limit top.last top.split
  rw [found', Option.some.injEq] at found
  subst found
  have written := Edit.applyAll_single (front ++ head) count (tail ++ after) (clampCount limit count)
  rw [← top.split_left, List.append_assoc] at written
  rw [planned, written]
  exact top.encodesOffset_iff nonneg offset_nonneg no_offset unpaired

/-- What a name that goes on into a FETCH has behind it is no second count. -/
theorem FetchHead.secondCount?_eq_none (isHead : FetchHead head) (rest : List Char) :
    secondCount? ((head ++ rest).dropWhile isWord) = none := by
  obtain ⟨key, gap, word, gap', rfl, spelled, isGap, fold, -⟩ := isHead
  have key_words : ∀ c ∈ key, isWord c = true := fun c => isWord_of_mem_key spelled (by decide)
  obtain ⟨first, more, rfl, is_word⟩ : ∃ first more, word = first :: more ∧ isWord first = true := by
    rcases fold with fold | fold
    · exact isWord_of_key fold (by decide)
    · exact isWord_of_key fold (by decide)
  simp only [List.append_assoc]
  rw [List.dropWhile_append_of_pos key_words,
    dropWhile_of_stops (Stops.append isGap (fun _ => isWord_eq_false_of_isBlank) _)]
  exact secondCount?_of_isWord isGap.2 is_word _

/-- No LIMIT with two counts comes in when a FETCH is clamped. -/
theorem FetchHead.clear_pairedLimit (isHead : FetchHead head)
    (begins : wordBegins (lastBefore none front) = true) (isCount : IsRun isDigit count) {digits : List Char}
    (isRun : IsRun isDigit digits) (clear : Clear pairedLimit 0 none (front ++ (head ++ (count ++ rest)))) :
    Clear pairedLimit 0 none (front ++ (head ++ (digits ++ rest))) := by
  have quiet : ∀ {run : List Char}, IsRun isDigit run → Quiet pairedLimit (lastBefore none front)
      (head ++ run) rest := fun {run} isRun => by
    rw [quiet_append]
    exact ⟨isHead.quiet keyed_pairedLimit (by decide) (by decide) _ _,
      keyed_pairedLimit.quiet_of_isDigit isRun.2 _ _⟩
  rw [clear_append] at clear ⊢
  refine ⟨clear.1.pairedLimit (isHead.interchangeable _ _) (edge_of_wordBegins begins _)
    (edge_of_wordBegins begins _) fun _ => isHead.secondCount?_eq_none _, ?_⟩
  have behind := clear.2
  rw [← List.append_assoc, clear_append, depthAfter_append, isHead.depthAfter, depthAfter_of_isDigit isCount.2,
    lastBefore_append, clear_iff_of_not_begins keyed_pairedLimit (wordBegins_of_isDigit isCount _)] at behind
  rw [← List.append_assoc, clear_append, depthAfter_append, isHead.depthAfter, depthAfter_of_isDigit isRun.2,
    lastBefore_append, clear_iff_of_not_begins keyed_pairedLimit (wordBegins_of_isDigit isRun _)]
  exact ⟨(quiet isRun).clearThrough _, behind.2⟩

/-- An offset that is put before a FETCH is kept. -/
theorem encodesOffset_of_lead (offset_nonneg : 0 ≤ offset) (depth : depthAfter 0 front = 0)
    (begins : wordBegins (lastBefore none front) = true)
    (no_offset : Clear offsetKeyword 0 none (front ++ back)) :
    encodedOffset? (front ++ (offsetRows offset ++ back)) = some offset := by
  have whole : offsetRows offset ++ back =
      "OFFSET".toList ++ ([' '] ++ (numeral offset ++ (([' '] ++ ("ROWS".toList ++ [' '])) ++ back))) := by
    rw [offsetRows_eq]
    simp only [List.append_assoc]
  rw [whole]
  refine encodesOffset_of_stops offset_nonneg depth begins isRun_space ?_ (by decide : isRunChar ' ' = false)
  rw [clear_append, depth] at no_offset
  refine clear_of_quiet ?_ ?_
  · rw [quiet_append, quiet_append]
    exact ⟨keyed_offsetKeyword.quiet_of_isBlank isRun_space.2 _ _,
      keyed_offsetKeyword.quiet_key fold_rows (by decide) (by decide) _ _,
      keyed_offsetKeyword.quiet_of_isBlank isRun_space.2 _ _⟩
  · exact no_offset.2.mono keyed_offsetKeyword fun _ => begins

/-- A FETCH with an offset before it, if one was asked for, encodes that offset. -/
theorem encodesOffset_of_fetch (offset_nonneg : 0 ≤ offset)
    (depth : depthAfter 0 front = 0) (begins : wordBegins (lastBefore none front) = true)
    (no_offset : Clear offsetKeyword 0 none masked)
    (no_offset' : Clear offsetKeyword 0 none (front ++ back))
    (no_limit : Clear limitClause 0 none (front ++ (offsetLead offset masked ++ back))) :
    encodedOffset? (front ++ (offsetLead offset masked ++ back)) = some offset := by
  by_cases later : 0 < offset
  · rw [offsetLead_of_clear later no_offset]
    exact encodesOffset_of_lead offset_nonneg depth begins no_offset'
  · obtain rfl : offset = 0 := by omega
    have none : offsetLead 0 masked = [] := by
      rcases offsetLead_cases 0 masked with none | ⟨positive, -⟩
      · exact none
      · exact absurd positive (Int.lt_irrefl 0)
    rw [none, List.nil_append] at no_limit ⊢
    exact encodedOffset?_eq_zero no_offset' (single_of_no_limit no_limit)

/-- Where there is LIMIT, the plan of a statement with a FETCH and neither a LIMIT nor a TOP keeps the
offset. -/
theorem planLimit_encodesOffset_of_fetch {hit : Hit} (nonneg : 0 ≤ limit) (offset_nonneg : 0 ≤ offset)
    (no_offset : Clear offsetKeyword 0 none masked) (no_limit : Clear limitClause 0 none masked)
    (no_top : Clear topClause 0 none masked) (found : lastTopLevel? fetchClause masked = some hit) :
    encodedOffset? (Edit.applyAll (planLimit limit offset masked) masked) = some offset := by
  rcases fetch_cases found with ⟨front, head, count, tail, after, fetch⟩ |
    ⟨front, head, tail, size, row⟩
  · have isRun : IsRun isDigit (clampCount limit count) := isCount_clampCount nonneg count
    have begins := fetch.last.begins keyed_fetchClause
    rw [fetch.applyAll no_limit no_top]
    refine encodesOffset_of_fetch offset_nonneg fetch.last.depth begins no_offset ?_
      (fetch.clear_edited keyed_limitClause local_limitClause (by decide) (by decide) (by decide) (by decide)
        isRun offset no_limit)
    rw [fetch.split] at no_offset
    exact fetch.isHead.clear_exchange keyed_offsetKeyword local_offsetKeyword (by decide) (by decide) begins
      fetch.isCount isRun no_offset
  · rw [row.planLimit no_limit no_top, row.applyAll]
    refine encodesOffset_of_fetch offset_nonneg row.last.depth (row.last.begins keyed_fetchClause) no_offset ?_
      (row.clear_edited keyed_limitClause local_limitClause (by decide) (by decide) offset no_limit)
    rwa [row.split] at no_offset

/-- The plan of SQL Server that only clamps the last FETCH keeps no offset above zero. -/
theorem planFetch_encodesOffset_iff {hit : Hit} (nonneg : 0 ≤ limit) (offset_nonneg : 0 ≤ offset)
    (no_offset : Clear offsetKeyword 0 none masked) (unpaired : Clear pairedLimit 0 none masked)
    (found : lastTopLevel? fetchClause masked = some hit) :
    encodedOffset? (Edit.applyAll (planFetch limit masked hit) masked) = some offset ↔ ¬ 0 < offset := by
  rcases fetch_cases found with ⟨front, head, count, tail, after, fetch⟩ |
    ⟨front, head, tail, size, row⟩
  · obtain ⟨hit', found', -, planned⟩ := planFetch_of_last limit fetch.last fetch.split
    rw [found', Option.some.injEq] at found
    subst found
    have begins := fetch.last.begins keyed_fetchClause
    have isRun : IsRun isDigit (clampCount limit count) := isCount_clampCount nonneg count
    have written := Edit.applyAll_single (front ++ head) count (tail ++ after) (clampCount limit count)
    rw [List.append_assoc, ← fetch.split, List.append_assoc] at written
    rw [planned, written]
    rw [fetch.split] at no_offset unpaired
    exact encodesOffset_iff_of_zero offset_nonneg
      (fetch.isHead.clear_exchange keyed_offsetKeyword local_offsetKeyword (by decide) (by decide) begins
        fetch.isCount isRun no_offset)
      (fetch.isHead.clear_pairedLimit begins fetch.isCount isRun unpaired)
  · rw [row.found, Option.some.injEq] at found
    rw [← found, planFetch_row]
    exact encodesOffset_iff_of_zero offset_nonneg no_offset unpaired

/-- Where there is LIMIT, the plan of a statement with none of the clauses writes the offset at its end. -/
theorem planLimit_encodesOffset_of_none (nonneg : 0 ≤ limit) (offset_nonneg : 0 ≤ offset)
    (depth : depthAfter 0 masked = 0) (no_offset : Clear offsetKeyword 0 none masked)
    (no_limit : Clear limitClause 0 none masked) (no_top : Clear topClause 0 none masked)
    (no_fetch : Clear fetchClause 0 none masked) :
    encodedOffset? (Edit.applyAll (planLimit limit offset masked) masked) = some offset := by
  have isRun : IsRun isDigit (numeral limit) := isCount_numeral nonneg
  have applied := Edit.applyAll_insertAt masked
    (" LIMIT ".toList ++ (numeral limit ++ (" OFFSET ".toList ++ numeral offset))) []
  have whole : masked ++ (" LIMIT ".toList ++ (numeral limit ++ (" OFFSET ".toList ++ numeral offset))) =
      (masked ++ (" LIMIT ".toList ++ (numeral limit ++ [' ']))) ++
        ("OFFSET".toList ++ ([' '] ++ (numeral offset ++ []))) := by
    rw [offset_written]
    simp only [List.append_assoc, List.append_nil, List.cons_append, List.nil_append]
  rw [List.append_nil, List.append_nil] at applied
  rw [planLimit_of_none no_limit no_top no_fetch no_offset, applied, whole]
  refine encodesOffset_of_stops offset_nonneg ?_ ?_ isRun_space trivial trivial
  · rw [depthAfter_append, depthAfter_append, depthAfter_append, depth, depthAfter_of_isDigit isRun.2 _]
    rfl
  · rw [← List.append_assoc, ← List.append_assoc, lastBefore_append]
    exact wordBegins_of_isBlank isRun_space _

/-- The FETCH that is written behind an offset has none of its own. -/
theorem clear_fetch_written (nonneg : 0 ≤ limit) :
    Clear offsetKeyword 0 (some '0')
      (" ROWS".toList ++ (" FETCH NEXT ".toList ++ (numeral limit ++ " ROWS ONLY".toList))) := by
  have isRun : IsRun isDigit (numeral limit) := isCount_numeral nonneg
  have closing : Clear offsetKeyword 0 none " ROWS ONLY".toList :=
    (lastTopLevel?_eq_none_iff keyed_offsetKeyword).1 (by decide)
  refine clear_of_quiet (keyed_offsetKeyword.quiet_of_startsNowhere (by decide) _ _) ?_
  refine clear_of_quiet (keyed_offsetKeyword.quiet_of_startsNowhere (by decide) _ _) ?_
  refine clear_of_quiet (keyed_offsetKeyword.quiet_of_isDigit isRun.2 _ _) ?_
  rw [depthAfter_of_isDigit isRun.2]
  exact closing.mono keyed_offsetKeyword fun _ => rfl

/-- In SQL Server the plan of a later page writes the offset at the end of a statement with neither a TOP
nor a FETCH. -/
theorem planSqlServer_encodesOffset_of_tail (nonneg : 0 ≤ limit) (later : 0 < offset)
    (depth : depthAfter 0 masked = 0) (no_offset : Clear offsetKeyword 0 none masked)
    (no_top : Clear topClause 0 none masked) (no_fetch : Clear fetchClause 0 none masked) :
    encodedOffset? (Edit.applyAll (planSqlServer limit offset masked) masked) = some offset := by
  have applied := Edit.applyAll_insertAt masked (fetchTail limit offset (Clauses.ofMask masked)) []
  obtain ⟨order, split, order_flat⟩ : ∃ order, serverTail offset (Clauses.ofMask masked) =
      order ++ (" OFFSET ".toList ++ (numeral offset ++ " ROWS".toList)) ∧ depthAfter 0 order = 0 := by
    have none : (Clauses.ofMask masked).offset = none :=
      (lastTopLevel?_eq_none_iff keyed_offsetKeyword).2 no_offset
    rw [serverTail, none]
    refine ⟨_, rfl, ?_⟩
    split_ifs
    · decide
    · rfl
  have whole : masked ++ fetchTail limit offset (Clauses.ofMask masked) =
      (masked ++ (order ++ [' '])) ++ ("OFFSET".toList ++ ([' '] ++ (numeral offset ++
        (" ROWS".toList ++ (" FETCH NEXT ".toList ++ (numeral limit ++ " ROWS ONLY".toList)))))) := by
    rw [fetchTail_eq, split, ← List.append_assoc " OFFSET ".toList, offset_written]
    simp only [List.append_assoc, List.cons_append, List.nil_append]
  rw [List.append_nil, List.append_nil] at applied
  rw [planSqlServer_of_tail no_top no_fetch fun first_page => by omega, applied, whole]
  refine encodesOffset_of_stops (by omega) ?_ ?_ isRun_space (clear_fetch_written nonneg)
    (by decide : isRunChar ' ' = false)
  · rw [depthAfter_append, depthAfter_append, depth, order_flat]
    rfl
  · rw [← List.append_assoc, lastBefore_append]
    exact wordBegins_of_isBlank isRun_space _

/-- With a TOP behind it no SELECT head makes a LIMIT with two counts, also not of a name that goes on
there. -/
theorem HeadAt.clear_pairedLimit {c : Char} (head : HeadAt masked front (c :: key) more rest)
    (nonneg : 0 ≤ limit) (unpaired : Clear pairedLimit 0 none masked) :
    Clear pairedLimit 0 none
      (front ++ (c :: key ++ (more ++ (" TOP ".toList ++ (numeral limit ++ rest))))) := by
  have silent : ∀ x, pairedLimit (lastBefore none front) (c :: key ++ x) = none := fun x =>
    (@Keyed.quiet_key _ _ keyed_pairedLimit _ _ _ head.spelled (by decide) (by decide) _ x).1
  have words : ∀ d ∈ c :: key, isWord d = true := fun d => isWord_of_mem_key head.spelled (by decide)
  have behind : secondCount? ((c :: key ++ (more ++ (" TOP ".toList ++ (numeral limit ++ rest)))).dropWhile
      isWord) = none := by
    rw [List.dropWhile_append_of_pos words]
    rcases head.shape with rfl | ⟨gap, word, rfl, isGap, fold⟩
    · rfl
    · obtain ⟨first, more, rfl, is_word⟩ : ∃ first more, word = first :: more ∧ isWord first = true := by
        rcases fold with fold | fold
        · exact isWord_of_key fold (by decide)
        · exact isWord_of_key fold (by decide)
      rw [List.append_assoc gap, dropWhile_of_stops (Stops.append isGap (fun _ => isWord_eq_false_of_isBlank) _)]
      exact secondCount?_of_isWord isGap.2 is_word _
  have ends := fun x y => interchangeable_of_keys head.spelled (by decide) head.spelled (by decide) x y
  rw [head.split, head.clear_iff keyed_pairedLimit (by decide) (by decide)] at unpaired
  rw [head.clear_iff keyed_pairedLimit (by decide) (by decide),
    clear_written_iff keyed_pairedLimit (by decide) nonneg]
  exact ⟨unpaired.1.pairedLimit (ends _ _) (edge_of_wordBegins head.begins _)
    (edge_of_wordBegins head.begins _) fun _ => behind, silent _, unpaired.2.2⟩

/-- In SQL Server the plan of a first page leaves a statement with neither a TOP nor a FETCH without an
offset. -/
theorem planSqlServer_encodesOffset_of_first (nonneg : 0 ≤ limit)
    (no_offset : Clear offsetKeyword 0 none masked) (unpaired : Clear pairedLimit 0 none masked)
    (no_top : Clear topClause 0 none masked) (no_fetch : Clear fetchClause 0 none masked) :
    encodedOffset? (Edit.applyAll (planSqlServer limit 0 masked) masked) = some 0 := by
  cases found : firstTopLevel? selectHead masked with
  | none =>
      rw [planSqlServer_of_no_head limit no_top no_fetch no_offset found]
      exact encodedOffset?_eq_zero no_offset (single_of_clear unpaired)
  | some hit =>
      obtain ⟨front, c, key, more, rest, head, start, stop⟩ := exists_headAt found
      have split : masked = (front ++ (c :: key ++ more)) ++ rest := by
        rw [head.split]
        simp
      have written :=
        Edit.applyAll_insertAt (front ++ (c :: key ++ more)) (" TOP ".toList ++ numeral limit) rest
      rw [← split, List.append_assoc, List.append_assoc, List.append_assoc] at written
      rw [planSqlServer_of_head limit no_top no_fetch no_offset found, stop, written]
      exact encodedOffset?_eq_zero (head.clear_written keyed_offsetKeyword local_offsetKeyword
        (by decide) (by decide) (by decide) (by decide) nonneg no_offset)
        (single_of_clear (head.clear_pairedLimit nonneg unpaired))

/-- Where there is LIMIT, a plan keeps the offset that it is made for exactly if it is not lost. -/
theorem planLimit_encodesOffset_iff (positive : 1 ≤ limit) (offset_nonneg : 0 ≤ offset)
    (depth : depthAfter 0 masked = 0) (no_offset : Clear offsetKeyword 0 none masked)
    (unpaired : Clear pairedLimit 0 none masked) :
    encodedOffset? (Edit.applyAll (planLimit limit offset masked) masked) = some offset ↔
      ¬ LimitLosesOffset offset masked := by
  have nonneg : 0 ≤ limit := by omega
  rw [LimitLosesOffset]
  cases existing : lastTopLevel? limitClause masked with
  | some hit =>
      rcases limit_cases existing with ⟨front, head, count, rest, one, no_second, first⟩ |
        ⟨front, head, skipped, gap, gap', count, rest, two, second⟩
      · have behind : masked.drop ((front ++ head).length + count.length) = rest := by
          rw [one.split, ← List.append_assoc, ← List.append_assoc, List.drop_left' List.length_append]
        rw [one.encodesOffset_iff positive offset_nonneg no_offset]
        simp only [Option.mem_def, Option.some.injEq, exists_eq_left', first, behind, reduceCtorEq, false_and,
          or_false]
      · rw [single_of_clear unpaired hit existing] at second
        cases second
  | none =>
      have no_limit := (lastTopLevel?_eq_none_iff keyed_limitClause).1 existing
      simp only [Option.mem_def, reduceCtorEq, false_and, exists_false, true_and, false_or]
      cases top : lastTopLevel? topClause masked with
      | some hit =>
          rw [planLimit_of_top no_limit top, planTop_encodesOffset_iff nonneg offset_nonneg no_offset unpaired top]
          simp only [ne_eq, reduceCtorEq, not_false_eq_true, true_and]
      | none =>
          have no_top := (lastTopLevel?_eq_none_iff keyed_topClause).1 top
          refine iff_of_true ?_ fun lost => lost.1 rfl
          cases fetch : lastTopLevel? fetchClause masked with
          | some hit => exact planLimit_encodesOffset_of_fetch nonneg offset_nonneg no_offset no_limit no_top fetch
          | none =>
              exact planLimit_encodesOffset_of_none nonneg offset_nonneg depth no_offset no_limit no_top
                ((lastTopLevel?_eq_none_iff keyed_fetchClause).1 fetch)

/-- In SQL Server a plan keeps the offset that it is made for exactly if it is not lost. -/
theorem planSqlServer_encodesOffset_iff (nonneg : 0 ≤ limit) (offset_nonneg : 0 ≤ offset)
    (depth : depthAfter 0 masked = 0) (no_offset : Clear offsetKeyword 0 none masked)
    (unpaired : Clear pairedLimit 0 none masked) :
    encodedOffset? (Edit.applyAll (planSqlServer limit offset masked) masked) = some offset ↔
      ¬ ServerLosesOffset offset masked := by
  rw [ServerLosesOffset]
  cases top : lastTopLevel? topClause masked with
  | some hit =>
      rw [planSqlServer_of_top top, planTop_encodesOffset_iff nonneg offset_nonneg no_offset unpaired top]
      simp only [ne_eq, reduceCtorEq, not_false_eq_true, true_or, and_true]
  | none =>
      cases fetch : lastTopLevel? fetchClause masked with
      | some hit =>
          rw [planSqlServer_of_fetch top fetch,
            planFetch_encodesOffset_iff nonneg offset_nonneg no_offset unpaired fetch]
          simp only [ne_eq, reduceCtorEq, not_false_eq_true, or_true, and_true]
      | none =>
          have no_top := (lastTopLevel?_eq_none_iff keyed_topClause).1 top
          have no_fetch := (lastTopLevel?_eq_none_iff keyed_fetchClause).1 fetch
          refine iff_of_true ?_ fun lost => lost.2.elim (fun top => top rfl) fun fetch => fetch rfl
          by_cases later : 0 < offset
          · exact planSqlServer_encodesOffset_of_tail nonneg later depth no_offset no_top no_fetch
          · obtain rfl : offset = 0 := by omega
            exact planSqlServer_encodesOffset_of_first nonneg no_offset unpaired no_top no_fetch

/-- A plan keeps the offset that it is made for exactly if it is not lost. -/
theorem plan_encodesOffset_iff (dialect : Dialect) (positive : 1 ≤ limit) (offset_nonneg : 0 ≤ offset)
    (depth : depthAfter 0 masked = 0) (no_offset : Clear offsetKeyword 0 none masked)
    (unpaired : Clear pairedLimit 0 none masked) :
    encodedOffset? (Edit.applyAll (plan dialect limit offset masked) masked) = some offset ↔
      ¬ OffsetLost dialect offset masked := by
  cases dialect with
  | sqlserver => exact planSqlServer_encodesOffset_iff (by omega) offset_nonneg depth no_offset unpaired
  | postgres | mysql | sqlite | generic =>
      exact planLimit_encodesOffset_iff positive offset_nonneg depth no_offset unpaired

variable {dialect : Dialect} {text : List Char}

/-! ### Rewritten queries

What closes a statement and what is kept behind it have no clauses, so that the rewritten query encodes what
its bounded statement does. Two requests whose texts are the same then have one offset: the one that both
texts encode. -/

/-- What closes the statement adds nothing to it that has an offset. -/
theorem NoOffset.statementMask {lexis : Lexis} (no_offset : NoOffset (lexis.mask text))
    (closes : lexis.closes text = true) :
    Clear offsetKeyword 0 none (statementMask lexis text) ∧ Clear pairedLimit 0 none (statementMask lexis text) := by
  obtain ⟨after, split, all⟩ := mask_eq_append_terminators closes
  obtain ⟨keyword, pair⟩ := no_offset
  rw [split, lastTopLevel?_eq_none_iff keyed_pairedLimit, clear_append] at pair
  rw [split, lastTopLevel?, topLevelHits_append_terminators keyed_offsetKeyword local_offsetKeyword _ all]
    at keyword
  have ends := interchangeable_of_terminators all
  have stops : Stops isWord after := ends.stops.1 trivial
  refine ⟨(lastTopLevel?_eq_none_iff keyed_offsetKeyword).1 keyword, ?_⟩
  exact pair.1.pairedLimit
    ⟨ends.inert', ends.inert, ends.behind', ends.behind, ends.stops.symm⟩ (edge_of_stops stops _)
    (@edge_of_stops [] trivial _) fun _ => rfl

/-- The rewritten query encodes the offset of its bounded statement. -/
theorem encodedOffset?_boundText (closes : (Lexis.ofDialect dialect).closes text = true) (nonneg : 0 ≤ limit)
    (offset_nonneg : 0 ≤ offset) (touched : ¬ Untouched dialect text)
    (seamless : dialect = .postgres → Seamless dialect limit offset text) :
    encodedOffset? ((Lexis.ofDialect dialect).mask (boundText dialect limit offset text)) =
      encodedOffset? (boundedMask dialect limit offset text) := by
  by_cases tags : dialect = .postgres
  · obtain ⟨blanks, mask, blank⟩ := mask_boundText closes nonneg offset_nonneg touched (seamless tags)
    rw [mask, encodedOffset?_append_trailing _ ⟨blanks, blank, .inl rfl⟩]
  · have untagged : (Lexis.ofDialect dialect).dollarQuotes = false := decide_eq_false tags
    obtain ⟨statement, tail, blanks, split, dash, mask, blank⟩ :=
      mask_boundText_of_untagged untagged closes nonneg offset_nonneg touched
    rw [mask, split, encodedOffset?_append_trailing _ ⟨blanks, blank, .inl rfl⟩,
      encodedOffset?_append_trailing _ ⟨[], nofun, by simpa using dash⟩]

/-- The rewritten query encodes the offset that it is made for exactly if its plan does not lose it. -/
theorem boundText_encodesOffset_iff (closed : LexicallyClosed (Lexis.ofDialect dialect) text)
    (positive : 1 ≤ limit) (offset_nonneg : 0 ≤ offset) (touched : ¬ Untouched dialect text)
    (seamless : dialect = .postgres → Seamless dialect limit offset text)
    (no_offset : NoOffset ((Lexis.ofDialect dialect).mask text)) :
    encodedOffset? ((Lexis.ofDialect dialect).mask (boundText dialect limit offset text)) = some offset ↔
      ¬ OffsetLost dialect offset (statementMask (Lexis.ofDialect dialect) text) := by
  obtain ⟨keyword, pair⟩ := no_offset.statementMask closed.closes
  rw [encodedOffset?_boundText closed.closes (by omega) offset_nonneg touched seamless,
    ← plan_encodesOffset_iff dialect positive offset_nonneg closed.depth keyword pair]
  rfl

/-- The rewritten query encodes the offset that is returned with it exactly if its plan does not lose it;
and requests of which no plan loses the offset get the same text for the same offset only. -/
theorem paginate_encodesOffset_iff {dialect : Dialect} (policy : PagePolicy) (limit offset : Option Int)
    {sql : String} (closed : LexicallyClosed (Lexis.ofDialect dialect) sql.toList)
    (touched : ¬ Untouched dialect sql.toList) (no_offset : NoOffset ((Lexis.ofDialect dialect).mask sql.toList))
    (seamless : dialect = .postgres →
      Seamless dialect (policy.clamp limit) (directiveOf policy limit offset).offset sql.toList) :
    (encodedOffset? ((Lexis.ofDialect dialect).mask (paginate dialect policy limit offset sql).sql.toList) =
        some (paginate dialect policy limit offset sql).directive.offset ↔
      ¬ OffsetLost dialect (directiveOf policy limit offset).offset
        (statementMask (Lexis.ofDialect dialect) sql.toList)) ∧
    ∀ (policy' : PagePolicy) (limit' offset' : Option Int),
      (dialect = .postgres →
        Seamless dialect (policy'.clamp limit') (directiveOf policy' limit' offset').offset sql.toList) →
      ¬ OffsetLost dialect (directiveOf policy limit offset).offset
        (statementMask (Lexis.ofDialect dialect) sql.toList) →
      ¬ OffsetLost dialect (directiveOf policy' limit' offset').offset
        (statementMask (Lexis.ofDialect dialect) sql.toList) →
      (paginate dialect policy limit offset sql).sql = (paginate dialect policy' limit' offset' sql).sql →
      (paginate dialect policy limit offset sql).directive.offset =
        (paginate dialect policy' limit' offset' sql).directive.offset := by
  have encodes : ∀ (policy : PagePolicy) (limit offset : Option Int), (dialect = .postgres →
        Seamless dialect (policy.clamp limit) (directiveOf policy limit offset).offset sql.toList) →
      (encodedOffset? ((Lexis.ofDialect dialect).mask (paginate dialect policy limit offset sql).sql.toList) =
          some (directiveOf policy limit offset).offset ↔
        ¬ OffsetLost dialect (directiveOf policy limit offset).offset
          (statementMask (Lexis.ofDialect dialect) sql.toList)) := by
    intro policy limit offset seamless
    rw [paginate, String.toList_ofList]
    exact boundText_encodesOffset_iff closed (one_le_clamp policy limit)
      (directiveOf_offset_nonneg policy limit offset) touched seamless no_offset
  refine ⟨encodes policy limit offset seamless, fun policy' limit' offset' seamless' kept kept' same => ?_⟩
  have encoded := (encodes policy limit offset seamless).2 kept
  have encoded' := (encodes policy' limit' offset' seamless').2 kept'
  rw [same] at encoded
  exact Option.some.inj (encoded.symm.trans encoded')

/-- A LIMIT whose count is a placeholder, with a parenthesis in a literal and a comment at the end: the second
page is encoded, and is not the third one. -/
theorem paginate_encodesOffset_of_placeholder :
    (LexicallyClosed (Lexis.ofDialect .mysql) "SELECT ')' FROM t LIMIT ? -- rest".toList ∧
      ¬ Untouched .mysql "SELECT ')' FROM t LIMIT ? -- rest".toList ∧
      NoOffset ((Lexis.ofDialect .mysql).mask "SELECT ')' FROM t LIMIT ? -- rest".toList)) ∧
    encodedOffset? ((Lexis.ofDialect .mysql).mask
        (paginate .mysql .standard (some 10) (some 10) "SELECT ')' FROM t LIMIT ? -- rest").sql.toList) = some 10 ∧
      (paginate .mysql .standard (some 10) (some 10) "SELECT ')' FROM t LIMIT ? -- rest").sql ≠
        (paginate .mysql .standard (some 10) (some 20) "SELECT ')' FROM t LIMIT ? -- rest").sql := by
  have closed : LexicallyClosed (Lexis.ofDialect .mysql) "SELECT ')' FROM t LIMIT ? -- rest".toList :=
    ⟨by decide +kernel, by decide +kernel⟩
  have touched : ¬ Untouched .mysql "SELECT ')' FROM t LIMIT ? -- rest".toList := by decide +kernel
  have no_offset : NoOffset ((Lexis.ofDialect .mysql).mask "SELECT ')' FROM t LIMIT ? -- rest".toList) := by
    decide +kernel
  obtain ⟨encodes, apart⟩ :=
    paginate_encodesOffset_iff .standard (some 10) (some 10) closed touched no_offset nofun
  refine ⟨⟨closed, touched, no_offset⟩, encodes.2 (by decide +kernel), fun same => ?_⟩
  have equal := apart .standard (some 10) (some 20) nofun (by decide +kernel) (by decide +kernel) same
  exact absurd equal (by decide)

/-- A TOP is clamped and nothing else: every page of the query is its first one. -/
theorem paginate_top_not_encodesOffset :
    LexicallyClosed (Lexis.ofDialect .sqlserver) "SELECT TOP 100 * FROM t ORDER BY id".toList ∧
      NoOffset ((Lexis.ofDialect .sqlserver).mask "SELECT TOP 100 * FROM t ORDER BY id".toList) ∧
      paginate .sqlserver .standard (some 10) (some 20) "SELECT TOP 100 * FROM t ORDER BY id" =
        ⟨"SELECT TOP 10 * FROM t ORDER BY id", ⟨10, 20, true⟩⟩ ∧
      encodedOffset? ((Lexis.ofDialect .sqlserver).mask (paginate .sqlserver .standard (some 10) (some 20)
        "SELECT TOP 100 * FROM t ORDER BY id").sql.toList) = some 0 ∧
      (paginate .sqlserver .standard (some 10) (some 20) "SELECT TOP 100 * FROM t ORDER BY id").sql =
        (paginate .sqlserver .standard (some 10) (some 0) "SELECT TOP 100 * FROM t ORDER BY id").sql :=
  ⟨⟨by decide +kernel, by decide +kernel⟩, by decide +kernel, by decide +kernel, by decide +kernel,
    by decide +kernel⟩

end QueryDesk.Sql
