/-
Module: QueryDesk.Proofs.Page.Replan
Purpose: The plan of a statement that was edited by a plan before. For each kind of edit the clause that
  holds the count afterwards is found in the new text, and so is what the plan looks at besides: that
  there is no LIMIT before a TOP or a FETCH, and that there is an OFFSET if one was asked for.
Imports: QueryDesk.Proofs.Page.Site
Main exports: replan_limit_first, replan_limit_second, topLast_exchange, fetchLast_exchange, replan_offset,
  replan_append, replan_server_head, replan_server_tail
-/
import QueryDesk.Proofs.Page.Site

namespace QueryDesk.Sql

open QueryDesk.Text

variable {limit offset : Int}

theorem offsetTail_eq_nil {masked : List Char}
    (settled : 0 < offset → ¬ Clear offsetKeyword 0 none masked) : offsetTail offset masked = [] := by
  rw [offsetTail, if_neg]
  simp only [Bool.and_eq_true, decide_eq_true_eq, not_and, Bool.not_eq_true]
  intro positive
  have found := (isSome_lastTopLevel?_iff keyed_offsetKeyword).2 (settled positive)
  rw [← Option.not_isSome, found]
  rfl

theorem offsetTail_of_clear {masked : List Char} (positive : 0 < offset)
    (clear : Clear offsetKeyword 0 none masked) :
    offsetTail offset masked = " OFFSET ".toList ++ numeral offset := by
  have none := (lastTopLevel?_eq_none_iff keyed_offsetKeyword).2 clear
  rw [offsetTail, none, if_pos]
  simp [positive]

theorem offsetKeyword_spelled {key rest : List Char} {before : Option Char}
    (begins : wordBegins before = true) (spelled : key.map foldKeyword = "offset".toList)
    (ends : wordEnds rest = true) : offsetKeyword before (key ++ rest) = some ⟨6, []⟩ :=
  offsetKeyword_eq_some_iff.2 ⟨begins, key, rest, spelled, rfl, ends, rfl⟩

/-- An offset that was written behind a digit is found there. -/
theorem not_clear_of_written {front : List Char} (depth : depthAfter 0 front = 0) (value rest : List Char) :
    ¬ Clear offsetKeyword 0 none (front ++ ((" OFFSET ".toList ++ value) ++ rest)) := by
  have matched : offsetKeyword (lastBefore none (front ++ [' ']))
      ("OFFSET".toList ++ ' ' :: (value ++ rest)) = some ⟨6, []⟩ := by
    refine offsetKeyword_spelled ?_ (by decide) (by decide : (!isWord ' ') = true)
    rw [lastBefore_append]
    exact (by decide : (!isWord ' ') = true)
  have split : front ++ ((" OFFSET ".toList ++ value) ++ rest) =
      (front ++ [' ']) ++ ("OFFSET".toList ++ ' ' :: (value ++ rest)) := by simp
  rw [split]
  refine not_clear_of_matched keyed_offsetKeyword ?_ matched
  rw [depthAfter_append, depth]
  rfl

/-- The plan of a statement whose last LIMIT has one count that is a run of digits. -/
theorem replan_limit_first {front head tail digits rest : List Char} {found : Match}
    (last : LastAt limitClause front (head ++ tail) found) (isHead : LimitHead head)
    (isRun : IsRun isDigit digits) (stops : Stops isDigit rest)
    (clear : Clear limitClause 0 (lastBefore none digits) rest) (single : secondCount? rest = none) :
    planLimit limit offset ((front ++ head) ++ (digits ++ rest)) =
      [⟨⟨(front ++ head).length, (front ++ head).length + digits.length⟩,
        clampCount limit digits ++ offsetTail offset ((front ++ head) ++ (digits ++ rest))⟩] :=
  planLimit_of_first limit offset ((limitLast_first last.depth (isHead.reached last _)
    (last.begins keyed_limitClause) isHead isRun stops clear).1 single) (by simp)

/-- The plan of a statement whose last LIMIT has digits and a second count. -/
theorem replan_limit_joined {front head tail digits gap second after : List Char} {found : Match}
    (last : LastAt limitClause front (head ++ tail) found) (isHead : LimitHead head)
    (isRun : IsRun isDigit digits) (stops : Stops isDigit (gap ++ (second ++ after)))
    (clear : Clear limitClause 0 (lastBefore none digits) (gap ++ (second ++ after)))
    (read : secondCount? (gap ++ (second ++ after)) = some (second ++ after, after)) :
    planLimit limit offset ((front ++ head) ++ (digits ++ (gap ++ (second ++ after)))) =
      [⟨⟨(front ++ head ++ digits ++ gap).length,
          (front ++ head ++ digits ++ gap).length + second.length⟩, clampCount limit second⟩] := by
  have again := (limitLast_first last.depth (isHead.reached last _)
    (last.begins keyed_limitClause) isHead isRun stops clear).2 gap second after rfl read
  have left : head.length + digits.length + gap.length = (head ++ (digits ++ gap)).length := by
    simp only [List.length_append]
    omega
  rw [left, show head ++ (digits ++ (gap ++ (second ++ after))) =
    (head ++ (digits ++ gap)) ++ (second ++ after) by simp] at again
  have plan := planLimit_of_second limit offset again rfl
  simpa using plan

/-- The plan of a statement whose last LIMIT has two counts, the second one a run of digits. -/
theorem replan_limit_second {front head tail first gap gap' digits rest : List Char} {found : Match}
    (last : LastAt limitClause front (head ++ tail) found) (isHead : LimitHead head)
    (first_count : RowCountAt first ((gap ++ ',' :: gap') ++ (digits ++ rest)))
    (blank : ∀ c ∈ gap, isBlank c = true) (blank' : ∀ c ∈ gap', isBlank c = true)
    (isRun : IsRun isDigit digits) (stops : Stops isDigit rest)
    (clear : Clear limitClause 0 (lastBefore none digits) rest) :
    planLimit limit offset
        ((front ++ (head ++ (first ++ (gap ++ ',' :: gap')))) ++ (digits ++ rest)) =
      [⟨⟨(front ++ (head ++ (first ++ (gap ++ ',' :: gap')))).length,
          (front ++ (head ++ (first ++ (gap ++ ',' :: gap')))).length + digits.length⟩,
        clampCount limit digits⟩] := by
  have again := limitLast_second last isHead first_count blank blank' isRun stops clear
  have left : head.length + first.length + (gap ++ ',' :: gap').length =
      (head ++ (first ++ (gap ++ ',' :: gap'))).length := by
    simp only [List.length_append]
    omega
  rw [left, show head ++ (first ++ ((gap ++ ',' :: gap') ++ (digits ++ rest))) =
    (head ++ (first ++ (gap ++ ',' :: gap'))) ++ (digits ++ rest) by simp] at again
  exact planLimit_of_second limit offset again (by simp)

/-- A last TOP whose digits were exchanged is the last one. -/
theorem topLast_exchange {opens : Bool} {front head count digits tail after : List Char}
    {group : Option Span}
    (last : LastAt topClause front (head ++ (count ++ (tail ++ after)))
      ⟨head.length + count.length + tail.length,
        [group, some ⟨head.length, head.length + count.length⟩]⟩)
    (isHead : TopHead opens head) (isCount : IsRun isDigit count) (isRun : IsRun isDigit digits)
    (stops : Stops isDigit (tail ++ after)) (closes : topClose opens (tail ++ after) = some after) :
    ∃ group, LastAt topClause front (head ++ (digits ++ (tail ++ after)))
      ⟨head.length + digits.length + tail.length,
        [group, some ⟨head.length, head.length + digits.length⟩]⟩ := by
  refine topLast last.depth ?_ (last.begins keyed_topClause) isHead isRun stops closes ?_
  · exact last.reached_exchange keyed_topClause local_topClause (isHead.interchangeable _ _)
  · rw [show head ++ (count ++ (tail ++ after)) = (head ++ (count ++ tail)) ++ after by simp] at last
    have clear := last.clear_behind (by simp only [List.length_append]; omega)
    rw [depthAfter_append, depthAfter_append, depthAfter_of_isDigit isCount.2, lastBefore_append,
      lastBefore_append] at clear
    refine clear.mono keyed_topClause fun starts => ?_
    cases tail with
    | nil =>
        rw [lastBefore, wordBegins_of_isDigit isRun] at starts
        cases starts
    | cons c more => exact starts

theorem TopHead.clear_exchange {pattern : Pattern} {letter : Char} (keyed : Keyed pattern letter)
    (reads : Local pattern) (other : 't' ≠ letter) {opens : Bool}
    {front head count digits back : List Char} (isHead : TopHead opens head)
    (begins : wordBegins (lastBefore none front) = true) (isCount : IsRun isDigit count)
    (isRun : IsRun isDigit digits)
    (clear : Clear pattern 0 none (front ++ (head ++ (count ++ back)))) :
    Clear pattern 0 none (front ++ (head ++ (digits ++ back))) :=
  clear_exchange_digits keyed reads begins (isHead.interchangeable _ _) isCount isRun
    (fun before after => isHead.quiet keyed other before after) rfl clear

/-! ### FETCH

The count of a FETCH is found again behind the offset that was put before the clause, because that offset is
quiet, ends with a word that a blank follows, and leaves the depth as it was. -/

/-- A last FETCH whose digits were exchanged is the last one. -/
theorem fetchLast_exchange {front head count digits tail after : List Char}
    (last : LastAt fetchClause front (head ++ (count ++ (tail ++ after)))
      ⟨head.length + count.length + tail.length, [some ⟨head.length, head.length + count.length⟩]⟩)
    (isHead : FetchHead head) (isRun : IsRun isDigit digits) (stops : Stops isDigit (tail ++ after))
    (closes : fetchClose (tail ++ after) = some after) (some_tail : tail ≠ []) (isCount : IsRun isDigit count) :
    LastAt fetchClause front (head ++ (digits ++ (tail ++ after)))
      ⟨head.length + digits.length + tail.length,
        [some ⟨head.length, head.length + digits.length⟩]⟩ := by
  refine fetchLast last.depth ?_ (last.begins keyed_fetchClause) isHead isRun stops closes some_tail ?_
  · exact last.reached_exchange keyed_fetchClause local_fetchClause (isHead.interchangeable _ _)
  · rw [show head ++ (count ++ (tail ++ after)) = (head ++ (count ++ tail)) ++ after by simp] at last
    have clear := last.clear_behind (by simp only [List.length_append]; omega)
    rw [depthAfter_append, depthAfter_append, depthAfter_of_isDigit isCount.2, isHead.depthAfter,
      lastBefore_append, lastBefore_append] at clear
    cases tail with
    | nil => exact absurd rfl some_tail
    | cons c more => exact clear

theorem FetchHead.clear_exchange {pattern : Pattern} {letter : Char} (keyed : Keyed pattern letter)
    (reads : Local pattern) (fetch : 'f' ≠ letter) (next : 'n' ≠ letter)
    {front head count digits back : List Char} (isHead : FetchHead head)
    (begins : wordBegins (lastBefore none front) = true) (isCount : IsRun isDigit count)
    (isRun : IsRun isDigit digits)
    (clear : Clear pattern 0 none (front ++ (head ++ (count ++ back)))) :
    Clear pattern 0 none (front ++ (head ++ (digits ++ back))) :=
  clear_exchange_digits keyed reads begins (isHead.interchangeable _ _) isCount isRun
    (fun before after => isHead.quiet keyed fetch next before after) rfl clear

/-- The offset that is put before a FETCH. -/
def offsetRows (offset : Int) : List Char :=
  "OFFSET ".toList ++ numeral offset ++ " ROWS ".toList

theorem offsetRows_eq (offset : Int) :
    offsetRows offset =
      "OFFSET".toList ++ ([' '] ++ (numeral offset ++ ([' '] ++ ("ROWS".toList ++ [' '])))) := by
  have first : "OFFSET ".toList = "OFFSET".toList ++ [' '] := by decide
  have last : " ROWS ".toList = [' '] ++ ("ROWS".toList ++ [' ']) := by decide
  unfold offsetRows
  generalize numeral offset = value
  rw [first, last]
  simp only [List.append_assoc]

theorem fold_offset : "OFFSET".toList.map foldKeyword = ['o', 'f', 'f', 's', 'e', 't'] := by decide

theorem fold_rows : "ROWS".toList.map foldKeyword = ['r', 'o', 'w', 's'] := by decide

theorem quiet_offsetRows {pattern : Pattern} {letter : Char} (keyed : Keyed pattern letter)
    (nonneg : 0 ≤ offset) (off : 'o' ≠ letter) (rows : 'r' ≠ letter) (before : Option Char)
    (after : List Char) : Quiet pattern before (offsetRows offset) after := by
  have space : ∀ before after, Quiet pattern before [' '] after := fun before after =>
    keyed.quiet_of_isBlank isRun_space.2 before after
  rw [offsetRows_eq]
  simp only [quiet_append]
  exact ⟨keyed.quiet_key fold_offset (by decide) off _ _,
    space _ _, keyed.quiet_of_isDigit (fun c => isDigit_of_mem_numeral nonneg) _ _, space _ _,
    keyed.quiet_key fold_rows (by decide) rows _ _,
    space _ _⟩

theorem depthAfter_offsetRows (nonneg : 0 ≤ offset) (depth : Nat) :
    depthAfter depth (offsetRows offset) = depth := by
  rw [offsetRows_eq]
  simp only [depthAfter_append,
    depthAfter_of_isWord (fun c => isWord_of_mem_key fold_offset (by decide)),
    depthAfter_of_isWord (fun c => isWord_of_mem_key fold_rows (by decide)),
    depthAfter_of_isDigit (fun c => isDigit_of_mem_numeral nonneg),
    depthAfter_of_isBlank isRun_space.2]

theorem wordBegins_offsetRows (front : List Char) :
    wordBegins (lastBefore none (front ++ offsetRows offset)) = true := by
  rw [offsetRows_eq]
  simp only [lastBefore_append]
  exact wordBegins_of_isBlank isRun_space _

theorem FetchHead.interchangeable_offsetRows {head : List Char} (isHead : FetchHead head)
    (rest : List Char) :
    Interchangeable (head ++ rest) (offsetRows offset ++ (head ++ rest)) := by
  obtain ⟨key, gap, word, gap', rfl, spelled, -⟩ := isHead
  rw [offsetRows_eq, List.append_assoc key _ rest, List.append_assoc "OFFSET".toList]
  exact interchangeable_of_keys spelled (by decide) fold_offset (by decide) _ _

/-- The offset before a FETCH is found. -/
theorem not_clear_of_offsetRows {front rest : List Char} (depth : depthAfter 0 front = 0)
    (begins : wordBegins (lastBefore none front) = true) :
    ¬ Clear offsetKeyword 0 none (front ++ (offsetRows offset ++ rest)) := by
  have split : offsetRows offset ++ rest =
      "OFFSET".toList ++ ' ' :: (numeral offset ++ ([' '] ++ ("ROWS".toList ++ ([' '] ++ rest)))) := by
    rw [offsetRows_eq]
    simp only [List.append_assoc]
    rfl
  rw [split]
  exact not_clear_of_matched keyed_offsetKeyword depth
    (offsetKeyword_spelled begins (by decide) (by decide : (!isWord ' ') = true))

/-! ### A LIMIT that was written

Written clauses are read by the same patterns as those of the statement. There was no clause of their kind
before, so that the written one is the last one if none begins behind it either. -/

theorem limitHead_written : LimitHead "LIMIT ".toList :=
  ⟨"LIMIT".toList, [' '], by decide, by decide, isRun_space⟩

theorem fold_limit : "LIMIT".toList.map foldKeyword = ['l', 'i', 'm', 'i', 't'] := by decide

theorem limit_written (rest : List Char) :
    "LIMIT ".toList ++ rest = "LIMIT".toList ++ ([' '] ++ rest) := by
  have split : "LIMIT ".toList = "LIMIT".toList ++ [' '] := by decide
  rw [split, List.append_assoc]

/-- The last LIMIT of a statement in which one was written behind a front that has none. -/
theorem limitLast_written {front digits rest : List Char} (depth : depthAfter 0 front = 0)
    (clear_front : ClearThrough limitClause 0 none front ("LIMIT ".toList ++ (digits ++ (' ' :: rest))))
    (begins : wordBegins (lastBefore none front) = true) (isRun : IsRun isDigit digits)
    (no_comma : char? ',' (blanks rest) = none) (clear : Clear limitClause 0 (some ' ') rest) :
    LastAt limitClause front ("LIMIT ".toList ++ (digits ++ (' ' :: rest)))
      ⟨"LIMIT ".toList.length + digits.length,
        [some ⟨"LIMIT ".toList.length, "LIMIT ".toList.length + digits.length⟩, none]⟩ := by
  have single : secondCount? (' ' :: rest) = none := by
    have behind : blanks (' ' :: rest) = blanks rest := by
      rw [blanks, List.dropWhile_cons, if_pos (by decide : isBlank ' ' = true)]
      rfl
    rw [secondCount?, behind, no_comma]
  have quiet : ∀ before, Quiet limitClause before [' '] rest := fun before =>
    keyed_limitClause.quiet_of_isBlank isRun_space.2 before rest
  have stops : Stops isDigit (' ' :: rest) := (by decide : isDigit ' ' = false)
  refine (limitLast_first depth ?_ begins limitHead_written isRun stops ?_).1 single
  · exact skipThrough_eq_zero_of_clear keyed_limitClause clear_front depth (.inl rfl)
  · exact clear_of_quiet (quiet _) clear

/-- An OFFSET that stands at a last match. -/
theorem offset_shape {front back : List Char} {found : Match}
    (last : LastAt offsetKeyword front back found) :
    ∃ key rest, back = key ++ rest ∧ key.map foldKeyword = ['o', 'f', 'f', 's', 'e', 't'] ∧
      wordEnds rest = true := by
  obtain ⟨-, key, rest, spelled, split, ends, -⟩ := offsetKeyword_eq_some_iff.1 last.matched
  exact ⟨key, rest, split, spelled, ends⟩

/-- The last LIMIT of a statement in which one was written before its OFFSET. -/
theorem limitLast_before_offset {front back digits : List Char} {found : Match}
    (last : LastAt offsetKeyword front back found) (clear : Clear limitClause 0 none (front ++ back))
    (isRun : IsRun isDigit digits) :
    LastAt limitClause front ("LIMIT ".toList ++ (digits ++ (' ' :: back)))
      ⟨"LIMIT ".toList.length + digits.length,
        [some ⟨"LIMIT ".toList.length, "LIMIT ".toList.length + digits.length⟩, none]⟩ := by
  obtain ⟨key, rest, rfl, spelled, -⟩ := offset_shape last
  have begins := last.begins keyed_offsetKeyword
  obtain ⟨clear_front, clear_back⟩ := (clear_append _ _ _ _).1 clear
  rw [last.depth] at clear_back
  have limits : ClearThrough limitClause 0 none front
      ("LIMIT ".toList ++ (digits ++ (' ' :: (key ++ rest)))) := by
    refine (clearThrough_congr (local_limitClause ?_ (edge_of_wordBegins begins _)
      (edge_of_wordBegins begins _)) 0 none).1 clear_front
    rw [limit_written]
    exact interchangeable_of_keys spelled (by decide) fold_limit (by decide) _ _
  have no_comma : char? ',' (blanks (key ++ rest)) = none := by
    rw [blanks_key spelled (by decide)]
    exact (inert_of_key spelled (by decide) rest).comma
  exact limitLast_written last.depth limits begins isRun no_comma
    (clear_back.mono keyed_limitClause fun _ => begins)

/-- The plan of a statement in which a LIMIT was written before its OFFSET. -/
theorem replan_offset {front back digits : List Char} {found : Match}
    (last : LastAt offsetKeyword front back found) (clear : Clear limitClause 0 none (front ++ back))
    (isRun : IsRun isDigit digits) :
    planLimit limit offset ((front ++ "LIMIT ".toList) ++ (digits ++ (' ' :: back))) =
      [⟨⟨(front ++ "LIMIT ".toList).length, (front ++ "LIMIT ".toList).length + digits.length⟩,
        clampCount limit digits⟩] := by
  have written := limitLast_before_offset last clear isRun
  obtain ⟨key, rest, rfl, spelled, ends⟩ := offset_shape last
  have settled : offsetTail offset ((front ++ "LIMIT ".toList) ++ (digits ++ (' ' :: (key ++ rest)))) =
      [] := by
    refine offsetTail_eq_nil fun _ => ?_
    have split : (front ++ "LIMIT ".toList) ++ (digits ++ (' ' :: (key ++ rest))) =
        (front ++ "LIMIT ".toList ++ digits ++ [' ']) ++ (key ++ rest) := by simp
    rw [split]
    refine not_clear_of_matched keyed_offsetKeyword ?_ (offsetKeyword_spelled ?_ spelled ends)
    · simp only [depthAfter_append, last.depth, limitHead_written.depthAfter,
        depthAfter_of_isDigit isRun.2]
      rfl
    · rw [lastBefore_append]
      exact (by decide : (!isWord ' ') = true)
  rw [planLimit_of_first limit offset written (by simp), settled, List.append_nil]

theorem offset_written (value : List Char) :
    " OFFSET ".toList ++ value = ' ' :: ("OFFSET".toList ++ ([' '] ++ value)) := by
  have split : " OFFSET ".toList = [' '] ++ ("OFFSET".toList ++ [' ']) := by decide
  rw [split]
  simp only [List.append_assoc]
  rfl

/-- The last LIMIT of a statement behind which one was written, and an OFFSET behind it. -/
theorem limitLast_behind {masked digits value : List Char} (depth : depthAfter 0 masked = 0)
    (clear : Clear limitClause 0 none masked) (isRun : IsRun isDigit digits)
    (isValue : IsRun isDigit value) :
    LastAt limitClause (masked ++ [' ']) ("LIMIT ".toList ++ (digits ++ (" OFFSET ".toList ++ value)))
      ⟨"LIMIT ".toList.length + digits.length,
        [some ⟨"LIMIT ".toList.length, "LIMIT ".toList.length + digits.length⟩, none]⟩ := by
  rw [offset_written]
  have space_quiet : ∀ before after, Quiet limitClause before [' '] after := fun before after =>
    keyed_limitClause.quiet_of_isBlank isRun_space.2 before after
  have front_depth : depthAfter 0 (masked ++ [' ']) = 0 := by
    rw [depthAfter_append, depth]
    rfl
  have begins : wordBegins (lastBefore none (masked ++ [' '])) = true := by
    rw [lastBefore_append]
    exact (by decide : (!isWord ' ') = true)
  have limits : ClearThrough limitClause 0 none (masked ++ [' '])
      ("LIMIT ".toList ++ (digits ++ (' ' :: ("OFFSET".toList ++ ([' '] ++ value))))) := by
    rw [clearThrough_append]
    refine ⟨?_, (space_quiet _ _).clearThrough _⟩
    have stops : Stops isWord [] := trivial
    rw [limit_written]
    have stops' : Stops isWord (' ' :: ("LIMIT".toList ++
        ([' '] ++ (digits ++ (' ' :: ("OFFSET".toList ++ ([' '] ++ value))))))) :=
      (by decide : isWord ' ' = false)
    exact (clearThrough_congr (local_limitClause
      (interchangeable_nil_key (by decide) fold_limit (by decide) _) (edge_of_stops stops _)
      (edge_of_stops stops' _)) 0 none).1 clear
  have no_comma : char? ',' (blanks ("OFFSET".toList ++ ([' '] ++ value))) = none := by
    rw [blanks_key fold_offset (by decide)]
    exact (inert_of_key fold_offset (by decide) _).comma
  have clear_behind : Clear limitClause 0 (some ' ') ("OFFSET".toList ++ ([' '] ++ value)) := by
    refine clear_of_quiet (keyed_limitClause.quiet_key fold_offset (by decide) (by decide) _ _) ?_
    refine clear_of_quiet (space_quiet _ _) ?_
    have quiet : ∀ before, Quiet limitClause before value [] := fun before =>
      keyed_limitClause.quiet_of_isDigit isValue.2 before []
    exact (quiet _).clearThrough _
  exact limitLast_written front_depth limits begins isRun no_comma clear_behind

/-- The plan of a statement behind which a LIMIT and an OFFSET were written. -/
theorem replan_append {masked digits value : List Char} (depth : depthAfter 0 masked = 0)
    (clear : Clear limitClause 0 none masked) (isRun : IsRun isDigit digits)
    (isValue : IsRun isDigit value) :
    planLimit limit offset ((masked ++ " LIMIT ".toList) ++ (digits ++ (" OFFSET ".toList ++ value))) =
      [⟨⟨(masked ++ " LIMIT ".toList).length, (masked ++ " LIMIT ".toList).length + digits.length⟩,
        clampCount limit digits⟩] := by
  have lead : " LIMIT ".toList = ' ' :: "LIMIT ".toList := by decide
  have place : masked ++ " LIMIT ".toList = masked ++ [' '] ++ "LIMIT ".toList := by
    rw [lead]
    simp
  have settled : offsetTail offset ((masked ++ [' '] ++ "LIMIT ".toList) ++
      (digits ++ (" OFFSET ".toList ++ value))) = [] := by
    refine offsetTail_eq_nil fun _ => ?_
    have written_offset := @not_clear_of_written (masked ++ [' '] ++ "LIMIT ".toList ++ digits) (by
      simp only [depthAfter_append, depth, limitHead_written.depthAfter,
        depthAfter_of_isDigit isRun.2]
      rfl) value []
    rw [List.append_nil] at written_offset
    rwa [List.append_assoc _ digits] at written_offset
  rw [place, planLimit_of_first limit offset (limitLast_behind depth clear isRun isValue) (by simp),
    settled, List.append_nil]

theorem planSqlServer_of_top {masked : List Char} {hit : Hit}
    (found : lastTopLevel? topClause masked = some hit) :
    planSqlServer limit offset masked = planTop limit masked hit := by
  simp only [planSqlServer, Clauses.ofMask, found]

theorem planSqlServer_of_fetch {masked : List Char} {hit : Hit}
    (no_top : lastTopLevel? topClause masked = none)
    (found : lastTopLevel? fetchClause masked = some hit) :
    planSqlServer limit offset masked = planFetch limit masked hit := by
  simp only [planSqlServer, Clauses.ofMask, no_top, found]

theorem topHead_written : TopHead false "TOP ".toList :=
  ⟨"TOP".toList, [' '], [], by decide, isRun_space.2, by simp, by decide⟩

theorem SelectRest.depthAfter {more : List Char} (shape : SelectRest more) (depth : Nat) :
    depthAfter depth more = depth := by
  rcases shape with rfl | ⟨gap, word, rfl, isRun, fold⟩
  · rfl
  · rw [depthAfter_append, depthAfter_of_isBlank isRun.2]
    rcases fold with fold | fold
    · exact depthAfter_of_isWord (fun c => isWord_of_mem_key fold (by decide)) depth
    · exact depthAfter_of_isWord (fun c => isWord_of_mem_key fold (by decide)) depth

/-- The plan of a statement in which a TOP was written behind its SELECT head. -/
theorem replan_server_head {front key more digits digits' rest : List Char}
    (depth : depthAfter 0 front = 0) (begins : wordBegins (lastBefore none front) = true)
    (spelled : key.map foldKeyword = ['s', 'e', 'l', 'e', 'c', 't']) (shape : SelectRest more)
    (clear : Clear topClause 0 none (front ++ (key ++ (more ++ (digits' ++ rest)))))
    (all : ∀ c ∈ digits', isDigit c = true) (isRun : IsRun isDigit digits)
    (stops : Stops isDigit rest) :
    planSqlServer limit offset ((front ++ key ++ more ++ " TOP ".toList) ++ (digits ++ rest)) =
      [⟨⟨(front ++ key ++ more ++ " TOP ".toList).length,
          (front ++ key ++ more ++ " TOP ".toList).length + digits.length⟩,
        clampCount limit digits⟩] := by
  have lead : " TOP ".toList = ' ' :: "TOP ".toList := by decide
  have key_quiet : ∀ before after, Quiet topClause before key after := fun before after =>
    keyed_topClause.quiet_key spelled (by decide) (by decide) before after
  have key_flat : ∀ depth, depthAfter depth key = depth :=
    depthAfter_of_isWord fun c => isWord_of_mem_key spelled (by decide)
  have front_depth : depthAfter 0 (front ++ key ++ more ++ [' ']) = 0 := by
    simp only [depthAfter_append, depth, key_flat, shape.depthAfter]
    rfl
  have begins_top : wordBegins (lastBefore none (front ++ key ++ more ++ [' '])) = true := by
    rw [lastBefore_append]
    exact (by decide : (!isWord ' ') = true)
  have tops : ClearThrough topClause 0 none (front ++ key ++ more ++ [' '])
      ("TOP ".toList ++ (digits ++ rest)) := by
    simp only [List.append_assoc]
    rw [clearThrough_append]
    refine ⟨?_, ?_⟩
    · refine (clearThrough_congr (local_topClause ?_ (edge_of_wordBegins begins _)
        (edge_of_wordBegins begins _)) 0 none).1 ((clear_append _ _ _ _).1 clear).1
      rw [List.append_assoc key]
      exact interchangeable_of_keys spelled (by decide) spelled (by decide) _ _
    · refine Quiet.clearThrough ?_ _
      simp only [quiet_append]
      exact ⟨key_quiet _ _, shape.quiet keyed_topClause (by decide) (by decide) _ _,
        keyed_topClause.quiet_of_isBlank isRun_space.2 _ _⟩
  have behind : Clear topClause 0 (lastBefore none digits) rest := by
    have whole := ((clear_append _ _ _ _).1 clear).2
    rw [clear_append, clear_append, clear_append, key_flat, shape.depthAfter, depth,
      depthAfter_of_isDigit all] at whole
    refine whole.2.2.2.mono keyed_topClause fun starts => ?_
    rw [wordBegins_of_isDigit isRun] at starts
    cases starts
  obtain ⟨group, written⟩ := @topLast false (front ++ key ++ more ++ [' ']) "TOP ".toList digits [] rest
    front_depth (skipThrough_eq_zero_of_clear keyed_topClause tops front_depth (.inl rfl)) begins_top
    topHead_written isRun stops rfl behind
  have place : front ++ key ++ more ++ " TOP ".toList =
      front ++ key ++ more ++ [' '] ++ "TOP ".toList := by
    rw [lead]
    simp
  have split : (front ++ key ++ more ++ " TOP ".toList) ++ (digits ++ rest) =
      (front ++ key ++ more ++ [' ']) ++ ("TOP ".toList ++ (digits ++ ([] ++ rest))) := by
    rw [place]
    simp
  obtain ⟨hit, found, planned⟩ := planTop_of_last limit written split
  rw [planSqlServer_of_top found, planned, place]

theorem fetchHead_written : FetchHead "FETCH NEXT ".toList :=
  ⟨"FETCH".toList, [' '], "NEXT".toList, [' '], by decide, by decide, isRun_space,
    .inl (by decide), isRun_space⟩

/-- The plan of a statement behind which a FETCH was written, after some text that has neither a TOP
nor a FETCH. -/
theorem replan_server_tail {masked between digits : List Char} (depth : depthAfter 0 masked = 0)
    (clear_top : Clear topClause 0 none masked) (clear_fetch : Clear fetchClause 0 none masked)
    (ends : ∀ rest, Interchangeable [] (between ++ (' ' :: ("FETCH NEXT ".toList ++ rest))))
    (stops : ∀ rest, Stops isWord (between ++ (' ' :: ("FETCH NEXT ".toList ++ rest))))
    (quiet_top : ∀ before after, Quiet topClause before between after)
    (quiet_fetch : ∀ before after, Quiet fetchClause before between after)
    (flat : depthAfter 0 between = 0) (isRun : IsRun isDigit digits) :
    planSqlServer limit offset
        ((masked ++ between ++ " FETCH NEXT ".toList) ++ (digits ++ " ROWS ONLY".toList)) =
      [⟨⟨(masked ++ between ++ " FETCH NEXT ".toList).length,
          (masked ++ between ++ " FETCH NEXT ".toList).length + digits.length⟩,
        clampCount limit digits⟩] := by
  have lead : " FETCH NEXT ".toList = ' ' :: "FETCH NEXT ".toList := by decide
  have trail : " ROWS ONLY".toList = " ROWS".toList ++ " ONLY".toList := by decide
  have stops_nil : Stops isWord [] := trivial
  have before_fetch : ∀ {pattern : Pattern} {letter : Char}, Keyed pattern letter → Local pattern →
      Clear pattern 0 none masked → (∀ before after, Quiet pattern before between after) →
      ∀ rest, ClearThrough pattern 0 none (masked ++ between ++ [' ']) ("FETCH NEXT ".toList ++ rest) := by
    intro pattern letter keyed reads clear quiet rest
    simp only [List.append_assoc]
    rw [clearThrough_append]
    refine ⟨?_, ?_⟩
    · rw [List.append_assoc between]
      exact (clearThrough_congr (reads (ends rest) (edge_of_stops stops_nil _)
        (edge_of_stops (stops rest) _)) 0 none).1 clear
    · refine Quiet.clearThrough ?_ _
      rw [quiet_append]
      exact ⟨quiet _ _, keyed.quiet_of_isBlank isRun_space.2 _ _⟩
  have front_depth : depthAfter 0 (masked ++ between ++ [' ']) = 0 := by
    simp only [depthAfter_append, depth, flat]
    rfl
  have begins : wordBegins (lastBefore none (masked ++ between ++ [' '])) = true := by
    rw [lastBefore_append]
    exact (by decide : (!isWord ' ') = true)
  have stops_rows : Stops isDigit (" ROWS".toList ++ " ONLY".toList) :=
    (by decide : isDigit ' ' = false)
  have written := @fetchLast (masked ++ between ++ [' ']) "FETCH NEXT ".toList digits " ROWS".toList
    " ONLY".toList front_depth (skipThrough_eq_zero_of_clear keyed_fetchClause
      (before_fetch keyed_fetchClause local_fetchClause clear_fetch quiet_fetch _) front_depth (.inl rfl))
    begins fetchHead_written isRun stops_rows (by decide) (by decide) (by
      refine (Quiet.clearThrough ?_ _ : Clear fetchClause _ _ _)
      exact keyed_fetchClause.quiet_of_startsNowhere (by decide) _ _)
  have split : (masked ++ between ++ " FETCH NEXT ".toList) ++ (digits ++ " ROWS ONLY".toList) =
      (masked ++ between ++ [' ']) ++
        ("FETCH NEXT ".toList ++ (digits ++ (" ROWS".toList ++ " ONLY".toList))) := by
    rw [lead, trail]
    simp
  have no_top : lastTopLevel? topClause ((masked ++ between ++ " FETCH NEXT ".toList) ++
      (digits ++ " ROWS ONLY".toList)) = none := by
    rw [lastTopLevel?_eq_none_iff keyed_topClause, split, clear_append]
    refine ⟨before_fetch keyed_topClause local_topClause clear_top quiet_top _, ?_⟩
    refine clear_of_quiet (fetchHead_written.quiet keyed_topClause (by decide) (by decide) _ _) ?_
    refine clear_of_quiet (keyed_topClause.quiet_of_isDigit isRun.2 _ _) ?_
    refine (Quiet.clearThrough ?_ _ : Clear topClause _ _ _)
    exact keyed_topClause.quiet_of_startsNowhere (by decide) _ _
  obtain ⟨hit, found, -, planned⟩ := planFetch_of_last limit written split
  rw [planSqlServer_of_fetch no_top found, planned, lead]
  simp

end QueryDesk.Sql
