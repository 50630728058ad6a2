/-
Module: QueryDesk.Proofs.Page.Steady
Purpose: The statements that are always settled: those without a LIMIT in the dialects that have it, and
  in SQL Server all but those whose SELECT head has a digit directly behind it. An existing TOP or FETCH
  is clamped where it stands, with an OFFSET before the FETCH if one is missing; an OFFSET gets a LIMIT
  before it; and what is put at the end of a statement is what a second plan clamps.
Imports: QueryDesk.Proofs.Page.Replan
Main exports: settles_planLimit_of_top, settles_planLimit_of_fetch, settles_planLimit_of_offset,
  settles_planLimit_of_none, settles_planSqlServer
-/
import QueryDesk.Proofs.Page.Replan

namespace QueryDesk.Sql

open QueryDesk.Text

variable {masked front head count tail after : List Char}

/-- A statement with its last TOP. -/
structure TopAt (opens : Bool) (masked front head count tail after : List Char)
    (group : Option Span) : Prop where
  split : masked = front ++ (head ++ (count ++ (tail ++ after)))
  isHead : TopHead opens head
  isCount : IsRun isDigit count
  stops : Stops isDigit (tail ++ after)
  closes : topClose opens (tail ++ after) = some after
  last : LastAt topClause front (head ++ (count ++ (tail ++ after)))
    ⟨head.length + count.length + tail.length,
      [group, some ⟨head.length, head.length + count.length⟩]⟩

theorem exists_topAt {hit : Hit} (found : lastTopLevel? topClause masked = some hit) :
    ∃ opens front head count tail after group, TopAt opens masked front head count tail after group := by
  obtain ⟨front, back, found, split, last, -⟩ := (lastTopLevel?_eq_some_iff keyed_topClause).1 found
  obtain ⟨-, opens, head, count, rest, after, group, isHead, rfl, isCount, stops, closes, rfl⟩ :=
    topClause_eq_some last.matched
  obtain ⟨tail, rfl, -, -⟩ := topClose_eq_some closes
  have size : (head ++ (count ++ (tail ++ after))).length - after.length =
      head.length + count.length + tail.length := by
    simp only [List.length_append]
    omega
  rw [size] at last
  exact ⟨opens, front, head, count, tail, after, group, split, isHead, isCount, stops, closes, last⟩

theorem TopAt.split_left {opens : Bool} {group : Option Span}
    (top : TopAt opens masked front head count tail after group) :
    masked = (front ++ head) ++ (count ++ (tail ++ after)) := by
  rw [top.split, List.append_assoc]

/-- A plan that clamps a TOP settles the statement if the TOP is clamped wherever its digits are
exchanged. -/
theorem TopAt.settles {opens : Bool} {group : Option Span}
    (top : TopAt opens masked front head count tail after group) {first : Int} (nonneg : 0 ≤ first)
    {planOf : Int → List Char → List Edit}
    (plan : ∀ limit digits, IsRun isDigit digits → ∀ hit,
      lastTopLevel? topClause ((front ++ head) ++ (digits ++ (tail ++ after))) = some hit →
      planOf limit ((front ++ head) ++ (digits ++ (tail ++ after))) =
        planTop limit ((front ++ head) ++ (digits ++ (tail ++ after))) hit) :
    Settles planOf first masked := by
  have clamps : ∀ limit digits, IsRun isDigit digits →
      planOf limit ((front ++ head) ++ (digits ++ (tail ++ after))) =
        [⟨⟨(front ++ head).length, (front ++ head).length + digits.length⟩,
          clampCount limit digits⟩] := by
    intro limit digits isRun
    obtain ⟨group', last⟩ := topLast_exchange top.last top.isHead top.isCount isRun top.stops top.closes
    obtain ⟨hit, found, planned⟩ := planTop_of_last limit last (List.append_assoc front head _)
    rw [plan limit digits isRun hit found, planned]
  have isRun : IsRun isDigit (clampCount first count) := isCount_clampCount nonneg count
  have before := countSite_before (front ++ head) count [] (tail ++ after)
  have behind := countSite_after (front ++ head) count [] (tail ++ after)
  have fits := countSite_fits (front ++ head) count [] (tail ++ after)
  rw [← top.split_left] at before behind fits
  refine .clamps _ fits (fun limit => ?_) fun second => ?_
  · have first_plan := clamps limit count top.isCount
    rw [← top.split_left] at first_plan
    rw [first_plan, Site.edits, countSite, List.append_nil]
    rfl
  · rw [Site.again, before, behind]
    exact clamps second _ isRun

theorem planLimit_of_top {hit : Hit} {limit offset : Int}
    (no_limit : Clear limitClause 0 none masked) (found : lastTopLevel? topClause masked = some hit) :
    planLimit limit offset masked = planTop limit masked hit := by
  simp only [planLimit, Clauses.ofMask, (lastTopLevel?_eq_none_iff keyed_limitClause).2 no_limit, found]

/-- A statement with a TOP and no LIMIT. -/
theorem settles_planLimit_of_top {hit : Hit} {first : Int} (nonneg : 0 ≤ first) (offset : Int)
    (no_limit : Clear limitClause 0 none masked) (found : lastTopLevel? topClause masked = some hit) :
    Settles (planLimit · offset) first masked := by
  obtain ⟨opens, front, head, count, tail, after, group, top⟩ := exists_topAt found
  refine top.settles nonneg fun limit digits isRun hit found => planLimit_of_top ?_ found
  rw [top.split] at no_limit
  rw [List.append_assoc]
  exact top.isHead.clear_exchange keyed_limitClause local_limitClause (by decide)
    (top.last.begins keyed_topClause) top.isCount isRun no_limit

theorem settles_planSqlServer_of_top {hit : Hit} {first : Int} (nonneg : 0 ≤ first) (offset : Int)
    (found : lastTopLevel? topClause masked = some hit) :
    Settles (planSqlServer · offset) first masked := by
  obtain ⟨opens, front, head, count, tail, after, group, top⟩ := exists_topAt found
  exact top.settles nonneg fun limit digits isRun hit found => planSqlServer_of_top found

/-- The offset that is put before a FETCH, if there is one to put there. -/
def offsetLead (offset : Int) (masked : List Char) : List Char :=
  if 0 < offset && (lastTopLevel? offsetKeyword masked).isNone then offsetRows offset else []

/-- The edit that puts it there. -/
def leadEdits (offset : Int) (masked : List Char) (position : Nat) : List Edit :=
  if 0 < offset && (lastTopLevel? offsetKeyword masked).isNone then
    [Edit.insertAt position (offsetRows offset)]
  else []

theorem offsetLead_cases (offset : Int) (masked : List Char) :
    offsetLead offset masked = [] ∨ 0 < offset ∧ offsetLead offset masked = offsetRows offset := by
  unfold offsetLead
  split_ifs with wanted
  · simp only [Bool.and_eq_true, decide_eq_true_eq] at wanted
    exact .inr ⟨wanted.1, rfl⟩
  · exact .inl rfl

theorem leadEdits_inOrder (offset : Int) (masked : List Char) {position stop : Nat}
    (inside : position ≤ stop) : Edit.InOrder 0 stop (leadEdits offset masked position) := by
  unfold leadEdits
  split_ifs
  · exact ⟨Nat.zero_le _, Nat.le_refl _, inside⟩
  · exact Nat.zero_le _

theorem applyAll_leadEdits (offset : Int) (masked front back : List Char) :
    Edit.applyAll (leadEdits offset masked front.length) (front ++ back) =
      front ++ (offsetLead offset masked ++ back) := by
  unfold leadEdits offsetLead
  split_ifs
  · simp [Edit.applyAll, Edit.applyFrom, Edit.insertAt]
  · rfl

theorem leadEdits_eq_nil {offset : Int} {position : Nat}
    (settled : 0 < offset → ¬ Clear offsetKeyword 0 none masked) :
    leadEdits offset masked position = [] := by
  rw [leadEdits, if_neg]
  simp only [Bool.and_eq_true, decide_eq_true_eq, not_and, Bool.not_eq_true]
  intro positive
  rw [← Option.not_isSome, (isSome_lastTopLevel?_iff keyed_offsetKeyword).2 (settled positive)]
  rfl

theorem offsetLead_of_clear {offset : Int} (positive : 0 < offset)
    (clear : Clear offsetKeyword 0 none masked) : offsetLead offset masked = offsetRows offset := by
  rw [offsetLead, (lastTopLevel?_eq_none_iff keyed_offsetKeyword).2 clear, if_pos]
  simp [positive]

theorem FetchHead.clear_lead {pattern : Pattern} {letter : Char} (keyed : Keyed pattern letter)
    (reads : Local pattern) (off : 'o' ≠ letter) (rows : 'r' ≠ letter) (isHead : FetchHead head)
    (begins : wordBegins (lastBefore none front) = true) (offset : Int) (masked : List Char)
    (clear : Clear pattern 0 none (front ++ (head ++ tail))) :
    Clear pattern 0 none (front ++ (offsetLead offset masked ++ (head ++ tail))) := by
  rcases offsetLead_cases offset masked with none | ⟨positive, written⟩
  · rwa [none]
  · rw [written]
    exact clear.insert keyed reads (isHead.interchangeable_offsetRows tail) begins
      (quiet_offsetRows keyed (by omega) off rows _ _) (depthAfter_offsetRows (by omega))

theorem LastAt.lead {found : Match} (last : LastAt fetchClause front (head ++ tail) found)
    (isHead : FetchHead head) (offset : Int) (masked : List Char) :
    LastAt fetchClause (front ++ offsetLead offset masked) (head ++ tail) found := by
  rcases offsetLead_cases offset masked with none | ⟨positive, written⟩
  · rwa [none, List.append_nil]
  · rw [written]
    exact last.insert keyed_fetchClause local_fetchClause (isHead.interchangeable_offsetRows tail)
      (quiet_offsetRows keyed_fetchClause (by omega) (by decide) (by decide) _ _)
      (depthAfter_offsetRows (by omega)) (wordBegins_offsetRows front)

/-- An offset was there, or none was asked for, or it was put before the FETCH. -/
theorem leadEdits_settled {found : Match} (last : LastAt fetchClause front (head ++ tail) found)
    (offset : Int) {position : Nat} {tail' : List Char}
    (keeps : Clear offsetKeyword 0 none (front ++ (head ++ tail')) →
      Clear offsetKeyword 0 none (front ++ (head ++ tail))) :
    leadEdits offset
        (front ++ (offsetLead offset (front ++ (head ++ tail)) ++ (head ++ tail'))) position = [] := by
  refine leadEdits_eq_nil fun positive => ?_
  by_cases clear : Clear offsetKeyword 0 none (front ++ (head ++ tail))
  · rw [offsetLead_of_clear positive clear]
    exact not_clear_of_offsetRows last.depth (last.begins keyed_fetchClause)
  · have none : offsetLead offset (front ++ (head ++ tail)) = [] := by
      rw [offsetLead, if_neg]
      simp only [Bool.and_eq_true, not_and, Bool.not_eq_true]
      intro _
      rw [← Option.not_isSome, (isSome_lastTopLevel?_iff keyed_offsetKeyword).2 clear]
      rfl
    rw [none]
    exact fun lost => clear (keeps lost)

theorem planLimit_of_fetch {hit : Hit} {limit offset : Int}
    (no_limit : Clear limitClause 0 none masked) (no_top : Clear topClause 0 none masked)
    (found : lastTopLevel? fetchClause masked = some hit) :
    planLimit limit offset masked =
      leadEdits offset masked hit.start ++ planFetch limit masked hit := by
  unfold planLimit leadEdits offsetRows
  generalize numeral offset = value
  dsimp only [Clauses.ofMask]
  rw [(lastTopLevel?_eq_none_iff keyed_limitClause).2 no_limit,
    (lastTopLevel?_eq_none_iff keyed_topClause).2 no_top, found]

/-! ### FETCH

A FETCH with a count is a site with the edits for the offset before it. One without a count is left as it
is: its plan does not depend on the limit, and puts at most an offset there, which a second plan finds. -/

/-- A statement whose last FETCH has a count. -/
structure FetchAt (masked front head count tail after : List Char) : Prop where
  split : masked = front ++ (head ++ (count ++ (tail ++ after)))
  isHead : FetchHead head
  isCount : IsRun isDigit count
  stops : Stops isDigit (tail ++ after)
  closes : fetchClose (tail ++ after) = some after
  some_tail : tail ≠ []
  last : LastAt fetchClause front (head ++ (count ++ (tail ++ after)))
    ⟨head.length + count.length + tail.length, [some ⟨head.length, head.length + count.length⟩]⟩

/-- A statement whose last FETCH has no count. -/
structure FetchRow (masked front head tail : List Char) (size : Nat) : Prop where
  split : masked = front ++ (head ++ tail)
  isHead : FetchHead head
  last : LastAt fetchClause front (head ++ tail) ⟨size, [none]⟩

theorem fetch_cases {hit : Hit} (found : lastTopLevel? fetchClause masked = some hit) :
    (∃ front head count tail after, FetchAt masked front head count tail after) ∨
      ∃ front head tail size, FetchRow masked front head tail size := by
  obtain ⟨front, back, found, split, last, -⟩ := (lastTopLevel?_eq_some_iff keyed_fetchClause).1 found
  obtain ⟨-, head, tail, isHead, rfl, ⟨count, rest, after, rfl, isCount, stops, closes, rfl⟩ |
    ⟨after, -, rfl⟩⟩ := fetchClause_eq_some_iff.1 last.matched
  · obtain ⟨gap, word, rfl, isRun, -, -, -⟩ := fetchClose_eq_some closes
    have size : (head ++ (count ++ (gap ++ (word ++ after)))).length - after.length =
        head.length + count.length + (gap ++ word).length := by
      simp only [List.length_append]
      omega
    rw [size] at last
    rw [← List.append_assoc gap] at split last stops closes
    exact .inl ⟨front, head, count, gap ++ word, after,
      ⟨split, isHead, isCount, stops, closes, by simp [isRun.1], last⟩⟩
  · exact .inr ⟨front, head, tail, _, ⟨split, isHead, last⟩⟩

/-- In the edited text there is no more of a pattern than in the statement. -/
theorem FetchAt.clear_edited (fetch : FetchAt masked front head count tail after) {pattern : Pattern}
    {letter : Char} (keyed : Keyed pattern letter) (reads : Local pattern) (fetch_other : 'f' ≠ letter)
    (next : 'n' ≠ letter) (off : 'o' ≠ letter) (rows : 'r' ≠ letter) {digits : List Char}
    (isRun : IsRun isDigit digits) (offset : Int) (clear : Clear pattern 0 none masked) :
    Clear pattern 0 none (front ++ (offsetLead offset masked ++ (head ++ (digits ++ (tail ++ after))))) := by
  have begins := fetch.last.begins keyed_fetchClause
  rw [fetch.split] at clear
  exact fetch.isHead.clear_lead keyed reads off rows begins offset masked
    (fetch.isHead.clear_exchange keyed reads fetch_other next begins fetch.isCount isRun clear)

theorem FetchRow.found {size : Nat} (row : FetchRow masked front head tail size) :
    lastTopLevel? fetchClause masked = some (Match.at ⟨size, [none]⟩ front.length) :=
  (lastTopLevel?_eq_some_iff keyed_fetchClause).2 ⟨front, _, _, row.split, row.last, rfl⟩

/-- A FETCH without a count is left as it is. -/
theorem planFetch_row (limit : Int) (masked : List Char) (size place : Nat) :
    planFetch limit masked (Match.at ⟨size, [none]⟩ place) = [] := by
  rw [planFetch, Match.group?_at]
  rfl

theorem FetchRow.planLimit {size : Nat} (row : FetchRow masked front head tail size)
    (no_limit : Clear limitClause 0 none masked) (no_top : Clear topClause 0 none masked)
    (limit offset : Int) : planLimit limit offset masked = leadEdits offset masked front.length := by
  rw [planLimit_of_fetch no_limit no_top row.found, planFetch_row, List.append_nil]
  simp [Match.at]

theorem FetchRow.applyAll {size : Nat} (row : FetchRow masked front head tail size) (offset : Int) :
    Edit.applyAll (leadEdits offset masked front.length) masked =
      front ++ (offsetLead offset masked ++ (head ++ tail)) := by
  have general := applyAll_leadEdits offset masked front (head ++ tail)
  rwa [← row.split] at general

theorem FetchRow.clear_edited {size : Nat} (row : FetchRow masked front head tail size)
    {pattern : Pattern} {letter : Char} (keyed : Keyed pattern letter) (reads : Local pattern) (off : 'o' ≠ letter)
    (rows : 'r' ≠ letter) (offset : Int) (clear : Clear pattern 0 none masked) :
    Clear pattern 0 none (front ++ (offsetLead offset masked ++ (head ++ tail))) := by
  rw [row.split] at clear
  exact row.isHead.clear_lead keyed reads off rows (row.last.begins keyed_fetchClause) offset masked clear

/-- The site of a FETCH that is clamped, with some edits before it. -/
def fetchSite (front : List Edit) (left count : List Char) : Site :=
  ⟨front, ⟨left.length, left.length + count.length⟩, [], count, []⟩

/-- A plan that puts edits before a FETCH with a count and clamps it settles the statement if the FETCH
is clamped once more behind what the edits have put there. -/
theorem FetchAt.settles (fetch : FetchAt masked front head count tail after) {first : Int}
    (nonneg : 0 ≤ first) {planOf : Int → List Char → List Edit} {edits : List Edit}
    {lead : List Char} (ordered : Edit.InOrder 0 (front ++ head).length edits)
    (leads : Edit.applyAll edits (front ++ head) = front ++ (lead ++ head))
    (last : ∀ found, LastAt fetchClause front (head ++ (clampCount first count ++ (tail ++ after))) found →
      LastAt fetchClause (front ++ lead) (head ++ (clampCount first count ++ (tail ++ after))) found)
    (plan : ∀ limit hit, hit.start = front.length → lastTopLevel? fetchClause masked = some hit →
      planOf limit masked = edits ++ planFetch limit masked hit)
    (again : ∀ limit hit, lastTopLevel? fetchClause
        (front ++ (lead ++ (head ++ (clampCount first count ++ (tail ++ after))))) = some hit →
      planOf limit (front ++ (lead ++ (head ++ (clampCount first count ++ (tail ++ after))))) =
        planFetch limit (front ++ (lead ++ (head ++ (clampCount first count ++ (tail ++ after))))) hit) :
    Settles planOf first masked := by
  have split : masked = (front ++ head) ++ (count ++ (tail ++ after)) := by
    rw [fetch.split, List.append_assoc]
  have taken : masked.take (front ++ head).length = front ++ head := by
    rw [split, List.take_left]
  have isRun : IsRun isDigit (clampCount first count) := isCount_clampCount nonneg count
  refine .clamps (fetchSite edits (front ++ head) count) ⟨ordered, Nat.le_add_right _ _, ?_⟩
    (fun limit => ?_) fun second => ?_
  · rw [split]
    simp only [fetchSite, List.length_append]
    omega
  · obtain ⟨hit, found, place, planned⟩ := planFetch_of_last limit fetch.last fetch.split
    rw [plan limit hit place found, planned, Site.edits, fetchSite, List.append_nil]
    rfl
  · have before : (fetchSite edits (front ++ head) count).before masked =
        front ++ (lead ++ head) := by
      simp only [Site.before, fetchSite, taken, leads, List.append_nil]
    have behind : (fetchSite edits (front ++ head) count).after masked = tail ++ after := by
      have dropped := countSite_after (front ++ head) count [] (tail ++ after)
      rwa [← split] at dropped
    have whole : (front ++ (lead ++ head)) ++ (clampCount first count ++ (tail ++ after)) =
        front ++ (lead ++ (head ++ (clampCount first count ++ (tail ++ after)))) := by simp
    have exchanged := fetchLast_exchange fetch.last fetch.isHead isRun fetch.stops fetch.closes
      fetch.some_tail fetch.isCount
    obtain ⟨hit, found, -, planned⟩ := @planFetch_of_last second
      (front ++ (lead ++ (head ++ (clampCount first count ++ (tail ++ after))))) _ _ _ _ _
      (last _ exchanged) (by simp)
    rw [Site.again, before, behind]
    change planOf second ((front ++ (lead ++ head)) ++ (clampCount first count ++ (tail ++ after))) =
      [⟨⟨(front ++ (lead ++ head)).length,
        (front ++ (lead ++ head)).length + (clampCount first count).length⟩, _⟩]
    rw [whole, again second hit found, planned, List.append_assoc]
    rfl

/-- A statement with a FETCH and neither a LIMIT nor a TOP. -/
theorem settles_planLimit_of_fetch {hit : Hit} {first : Int} (nonneg : 0 ≤ first) (offset : Int)
    (no_limit : Clear limitClause 0 none masked) (no_top : Clear topClause 0 none masked)
    (found : lastTopLevel? fetchClause masked = some hit) :
    Settles (planLimit · offset) first masked := by
  rcases fetch_cases found with ⟨front, head, count, tail, after, fetch⟩ |
    ⟨front, head, tail, size, row⟩
  · have begins := fetch.last.begins keyed_fetchClause
    have isRun : IsRun isDigit (clampCount first count) := isCount_clampCount nonneg count
    refine fetch.settles nonneg (leadEdits_inOrder offset masked (by simp))
      (applyAll_leadEdits offset masked front head) (fun found last => last.lead fetch.isHead offset masked)
      (fun limit hit place found => ?_) fun limit hit found => ?_
    · rw [planLimit_of_fetch no_limit no_top found, place]
    · rw [planLimit_of_fetch
        (fetch.clear_edited keyed_limitClause local_limitClause (by decide) (by decide) (by decide)
          (by decide) isRun offset no_limit)
        (fetch.clear_edited keyed_topClause local_topClause (by decide) (by decide) (by decide)
          (by decide) isRun offset no_top) found]
      have settled := @leadEdits_settled front head _ _ fetch.last offset hit.start
        (clampCount first count ++ (tail ++ after)) fun kept =>
          fetch.isHead.clear_exchange keyed_offsetKeyword local_offsetKeyword (by decide) (by decide)
            begins isRun fetch.isCount kept
      rw [← fetch.split] at settled
      rw [settled, List.nil_append]
  · have plan := fun limit => row.planLimit no_limit no_top limit offset
    refine .stays (fun limit => by rw [plan, plan]) fun second => ?_
    -- The FETCH stands behind what was put before it, without a count as before.
    have moved : FetchRow (front ++ (offsetLead offset masked ++ (head ++ tail)))
        (front ++ offsetLead offset masked) head tail size :=
      ⟨(List.append_assoc front _ _).symm, row.isHead, row.last.lead row.isHead offset masked⟩
    have settled := @leadEdits_settled front head tail _ row.last offset
      (front ++ offsetLead offset masked).length tail fun kept => kept
    rw [← row.split] at settled
    rw [plan, row.applyAll, moved.planLimit
      (row.clear_edited keyed_limitClause local_limitClause (by decide) (by decide) offset no_limit)
      (row.clear_edited keyed_topClause local_topClause (by decide) (by decide) offset no_top)]
    exact settled

theorem settles_planSqlServer_of_fetch {hit : Hit} {first : Int} (nonneg : 0 ≤ first) (offset : Int)
    (no_top : Clear topClause 0 none masked) (found : lastTopLevel? fetchClause masked = some hit) :
    Settles (planSqlServer · offset) first masked := by
  have none := (lastTopLevel?_eq_none_iff keyed_topClause).2 no_top
  rcases fetch_cases found with ⟨front, head, count, tail, after, fetch⟩ |
    ⟨front, head, tail, size, row⟩
  · refine @FetchAt.settles masked front head count tail after fetch first nonneg _ [] []
      (Nat.zero_le _) rfl (fun found last => by rwa [List.append_nil])
      (fun limit hit _ found => planSqlServer_of_fetch none found) fun limit hit found => ?_
    refine planSqlServer_of_fetch ((lastTopLevel?_eq_none_iff keyed_topClause).2 ?_) found
    rw [fetch.split] at no_top
    exact fetch.isHead.clear_exchange keyed_topClause local_topClause (by decide) (by decide)
      (fetch.last.begins keyed_fetchClause) fetch.isCount (isCount_clampCount nonneg count) no_top
  · have plan : ∀ limit, planSqlServer limit offset masked = [] := fun limit => by
      rw [planSqlServer_of_fetch none row.found, planFetch_row]
    exact .stays (fun limit => by rw [plan, plan]) fun second => by
      rw [plan]
      exact plan second

/-! ### What is written into a statement

A limit that is written where there was no count is one that is clamped in the place of an empty one. So all
written clauses are sites, too, and what is to be shown for each is that the next plan finds it. -/

/-- The site of a limit that is written where there was no count. -/
def writtenSite (place : Nat) (left right : List Char) : Site :=
  ⟨[], ⟨place, place⟩, left, [], right⟩

theorem clampCount_nil (limit : Int) : clampCount limit [] = numeral limit :=
  clampCount_of_none rfl

/-- A plan that writes its limit between two texts settles the statement if it clamps the digits that
stand there. -/
theorem settles_written {front back left right : List Char} {first : Int} (nonneg : 0 ≤ first)
    {planOf : Int → List Char → List Edit}
    (plan : ∀ limit, planOf limit (front ++ back) =
      [Edit.insertAt front.length (left ++ (numeral limit ++ right))])
    (again : ∀ limit digits, IsRun isDigit digits →
      planOf limit ((front ++ left) ++ (digits ++ (right ++ back))) =
        [⟨⟨(front ++ left).length, (front ++ left).length + digits.length⟩,
          clampCount limit digits⟩]) :
    Settles planOf first (front ++ back) := by
  have before : (writtenSite front.length left right).before (front ++ back) = front ++ left := by
    simp only [Site.before, writtenSite, List.take_left]
    rfl
  have behind : (writtenSite front.length left right).after (front ++ back) = right ++ back := by
    simp only [Site.after, writtenSite, List.drop_left]
  refine .clamps (writtenSite front.length left right)
    ⟨Nat.zero_le _, Nat.le_refl _, by simp [writtenSite]⟩ (fun limit => ?_) fun second => ?_
  · rw [plan, Site.edits, writtenSite, clampCount_nil]
    rfl
  · have isRun : IsRun isDigit (clampCount first []) := isCount_clampCount nonneg []
    rw [Site.again, before, behind]
    exact again second _ isRun

theorem planLimit_of_offset {hit : Hit} {limit offset : Int} (no_limit : Clear limitClause 0 none masked)
    (no_top : Clear topClause 0 none masked) (no_fetch : Clear fetchClause 0 none masked)
    (found : lastTopLevel? offsetKeyword masked = some hit) :
    planLimit limit offset masked =
      [Edit.insertAt hit.start ("LIMIT ".toList ++ (numeral limit ++ [' ']))] := by
  unfold planLimit
  generalize numeral limit = value
  dsimp only [Clauses.ofMask]
  rw [(lastTopLevel?_eq_none_iff keyed_limitClause).2 no_limit,
    (lastTopLevel?_eq_none_iff keyed_topClause).2 no_top,
    (lastTopLevel?_eq_none_iff keyed_fetchClause).2 no_fetch, found]
  simp only [List.append_assoc]

theorem planLimit_of_none {limit offset : Int} (no_limit : Clear limitClause 0 none masked)
    (no_top : Clear topClause 0 none masked) (no_fetch : Clear fetchClause 0 none masked)
    (no_offset : Clear offsetKeyword 0 none masked) :
    planLimit limit offset masked = [Edit.insertAt masked.length
      (" LIMIT ".toList ++ (numeral limit ++ (" OFFSET ".toList ++ numeral offset)))] := by
  unfold planLimit
  generalize numeral limit = value
  generalize numeral offset = value'
  dsimp only [Clauses.ofMask]
  rw [(lastTopLevel?_eq_none_iff keyed_limitClause).2 no_limit,
    (lastTopLevel?_eq_none_iff keyed_topClause).2 no_top,
    (lastTopLevel?_eq_none_iff keyed_fetchClause).2 no_fetch,
    (lastTopLevel?_eq_none_iff keyed_offsetKeyword).2 no_offset]
  simp only [List.append_assoc]

/-- A statement with an OFFSET and no clause that has a count. -/
theorem settles_planLimit_of_offset {hit : Hit} {first : Int} (nonneg : 0 ≤ first) (offset : Int)
    (no_limit : Clear limitClause 0 none masked) (no_top : Clear topClause 0 none masked)
    (no_fetch : Clear fetchClause 0 none masked)
    (found : lastTopLevel? offsetKeyword masked = some hit) :
    Settles (planLimit · offset) first masked := by
  have found' := found
  obtain ⟨front, back, found, rfl, last, rfl⟩ := (lastTopLevel?_eq_some_iff keyed_offsetKeyword).1 found
  have plan : ∀ limit, planLimit limit offset (front ++ back) =
      [Edit.insertAt front.length ("LIMIT ".toList ++ (numeral limit ++ [' ']))] :=
    fun limit => planLimit_of_offset no_limit no_top no_fetch found'
  exact @settles_written front back "LIMIT ".toList [' '] first nonneg (planLimit · offset) plan
    fun limit digits isRun => replan_offset last no_limit isRun

/-- A statement with none of these clauses. -/
theorem settles_planLimit_of_none {first offset : Int} (nonneg : 0 ≤ first) (offset_nonneg : 0 ≤ offset)
    (depth : depthAfter 0 masked = 0) (no_limit : Clear limitClause 0 none masked)
    (no_top : Clear topClause 0 none masked) (no_fetch : Clear fetchClause 0 none masked)
    (no_offset : Clear offsetKeyword 0 none masked) :
    Settles (planLimit · offset) first masked := by
  have isValue : IsRun isDigit (numeral offset) := isCount_numeral offset_nonneg
  have plan : ∀ limit, planLimit limit offset masked =
      [Edit.insertAt masked.length
        (" LIMIT ".toList ++ (numeral limit ++ (" OFFSET ".toList ++ numeral offset)))] :=
    fun limit => planLimit_of_none no_limit no_top no_fetch no_offset
  generalize numeral offset = value at plan isValue
  have settles := @settles_written masked [] " LIMIT ".toList (" OFFSET ".toList ++ value) first nonneg
    (planLimit · offset) (by simpa only [List.append_nil] using plan) (by
      intro limit digits isRun
      rw [List.append_nil]
      exact replan_append depth no_limit isRun isValue)
  rwa [List.append_nil] at settles

/-- A statement without a LIMIT. -/
theorem settles_planLimit_of_clear {first offset : Int} (nonneg : 0 ≤ first) (offset_nonneg : 0 ≤ offset)
    (depth : depthAfter 0 masked = 0) (no_limit : Clear limitClause 0 none masked) :
    Settles (planLimit · offset) first masked := by
  cases top : lastTopLevel? topClause masked with
  | some hit => exact settles_planLimit_of_top nonneg offset no_limit top
  | none =>
      have no_top := (lastTopLevel?_eq_none_iff keyed_topClause).1 top
      cases fetch : lastTopLevel? fetchClause masked with
      | some hit => exact settles_planLimit_of_fetch nonneg offset no_limit no_top fetch
      | none =>
          have no_fetch := (lastTopLevel?_eq_none_iff keyed_fetchClause).1 fetch
          cases keyword : lastTopLevel? offsetKeyword masked with
          | some hit => exact settles_planLimit_of_offset nonneg offset no_limit no_top no_fetch keyword
          | none =>
              exact settles_planLimit_of_none nonneg offset_nonneg depth no_limit no_top no_fetch
                ((lastTopLevel?_eq_none_iff keyed_offsetKeyword).1 keyword)

/-- The first SELECT head outside of all parentheses. -/
theorem head_cases {hit : Hit} (found : firstTopLevel? selectHead masked = some hit) :
    ∃ front key more rest, masked = (front ++ key ++ more) ++ rest ∧
      hit.stop = (front ++ key ++ more).length ∧ depthAfter 0 front = 0 ∧
      wordBegins (lastBefore none front) = true ∧
      key.map foldKeyword = ['s', 'e', 'l', 'e', 'c', 't'] ∧ SelectRest more := by
  obtain ⟨front, back, found, rfl, depth, matched, rfl⟩ :=
    exists_split_of_firstTopLevel? found keyed_selectHead
  obtain ⟨begins, key, more, rest, spelled, shape, rfl, rfl⟩ := selectHead_eq_some matched
  refine ⟨front, key, more, rest, by simp, ?_, depth, begins, spelled, shape⟩
  simp only [Match.at, List.length_append]
  omega

theorem planSqlServer_of_head {hit : Hit} (limit : Int) (no_top : Clear topClause 0 none masked)
    (no_fetch : Clear fetchClause 0 none masked) (no_offset : Clear offsetKeyword 0 none masked)
    (found : firstTopLevel? selectHead masked = some hit) :
    planSqlServer limit 0 masked = [Edit.insertAt hit.stop (" TOP ".toList ++ numeral limit)] := by
  unfold planSqlServer
  dsimp only [Clauses.ofMask]
  rw [(lastTopLevel?_eq_none_iff keyed_topClause).2 no_top,
    (lastTopLevel?_eq_none_iff keyed_fetchClause).2 no_fetch,
    (lastTopLevel?_eq_none_iff keyed_offsetKeyword).2 no_offset, found]
  rfl

theorem planSqlServer_of_no_head (limit : Int) (no_top : Clear topClause 0 none masked)
    (no_fetch : Clear fetchClause 0 none masked) (no_offset : Clear offsetKeyword 0 none masked)
    (none : firstTopLevel? selectHead masked = none) : planSqlServer limit 0 masked = [] := by
  unfold planSqlServer
  dsimp only [Clauses.ofMask]
  rw [(lastTopLevel?_eq_none_iff keyed_topClause).2 no_top,
    (lastTopLevel?_eq_none_iff keyed_fetchClause).2 no_fetch,
    (lastTopLevel?_eq_none_iff keyed_offsetKeyword).2 no_offset, none]
  rfl

/-- A first page whose TOP does not meet a digit. -/
theorem settles_planSqlServer_of_head {hit : Hit} {first : Int} (nonneg : 0 ≤ first)
    (no_top : Clear topClause 0 none masked) (no_fetch : Clear fetchClause 0 none masked)
    (no_offset : Clear offsetKeyword 0 none masked)
    (found : firstTopLevel? selectHead masked = some hit)
    (stops : Stops isDigit (masked.drop hit.stop)) :
    Settles (planSqlServer · 0) first masked := by
  have plan := fun limit => planSqlServer_of_head limit no_top no_fetch no_offset found
  obtain ⟨front, key, more, rest, rfl, place, depth, begins, spelled, shape⟩ := head_cases found
  rw [place, List.drop_left] at stops
  rw [place] at plan
  refine @settles_written (front ++ key ++ more) rest " TOP ".toList [] first nonneg _
    (fun limit => by rw [plan, List.append_nil]) fun limit digits isRun => ?_
  have clear : Clear topClause 0 none (front ++ (key ++ (more ++ ([] ++ rest)))) := by
    simpa using no_top
  exact replan_server_head depth begins spelled shape clear (by simp) isRun stops

/-- What SQL Server gets before the FETCH at the end of a statement. -/
def serverTail (offset : Int) (clauses : Clauses) : List Char :=
  (if clauses.orderBy.isNone then " ORDER BY (SELECT NULL)".toList else []) ++
    (if clauses.offset.isNone then " OFFSET ".toList ++ (numeral offset ++ " ROWS".toList) else [])

theorem fetchTail_eq (limit offset : Int) (clauses : Clauses) :
    fetchTail limit offset clauses =
      (serverTail offset clauses ++ " FETCH NEXT ".toList) ++ (numeral limit ++ " ROWS ONLY".toList) := by
  unfold fetchTail serverTail
  generalize numeral limit = value
  generalize numeral offset = value'
  simp only [List.append_assoc]

/-- The two texts that can stand before such a FETCH. -/
theorem serverTail_cases (offset : Int) (clauses : Clauses) :
    ∃ order between, serverTail offset clauses = order ++ between ∧
      (order = [] ∨ order = " ORDER BY (SELECT NULL)".toList) ∧
      (between = [] ∨ between = " OFFSET ".toList ++ (numeral offset ++ " ROWS".toList)) := by
  refine ⟨_, _, rfl, ?_, ?_⟩
  · split_ifs
    · exact .inr rfl
    · exact .inl rfl
  · split_ifs
    · exact .inr rfl
    · exact .inl rfl

theorem serverTail_quiet {pattern : Pattern} {letter : Char} (keyed : Keyed pattern letter)
    {offset : Int} (nonneg : 0 ≤ offset)
    (order_nowhere : startsNowhere letter none " ORDER BY (SELECT NULL)".toList = true)
    (offset_nowhere : startsNowhere letter none " OFFSET ".toList = true)
    (rows_nowhere : startsNowhere letter none " ROWS".toList = true) (clauses : Clauses)
    (before : Option Char) (after : List Char) :
    Quiet pattern before (serverTail offset clauses) after := by
  have isValue : IsRun isDigit (numeral offset) := isCount_numeral nonneg
  obtain ⟨order, between, split, order_cases, between_cases⟩ := serverTail_cases offset clauses
  rw [split, quiet_append]
  constructor
  · rcases order_cases with rfl | rfl
    · trivial
    · exact keyed.quiet_of_startsNowhere order_nowhere _ _
  · rcases between_cases with rfl | rfl
    · trivial
    · rw [quiet_append, quiet_append]
      exact ⟨keyed.quiet_of_startsNowhere offset_nowhere _ _,
        keyed.quiet_of_isDigit isValue.2 _ _, keyed.quiet_of_startsNowhere rows_nowhere _ _⟩

theorem serverTail_flat {offset : Int} (nonneg : 0 ≤ offset) (clauses : Clauses) :
    depthAfter 0 (serverTail offset clauses) = 0 := by
  have isValue : IsRun isDigit (numeral offset) := isCount_numeral nonneg
  obtain ⟨order, between, split, order_cases, between_cases⟩ := serverTail_cases offset clauses
  have order_flat : depthAfter 0 order = 0 := by
    rcases order_cases with rfl | rfl
    · rfl
    · decide
  rw [split, depthAfter_append, order_flat]
  rcases between_cases with rfl | rfl
  · rfl
  · rw [depthAfter_append, depthAfter_append,
      show depthAfter 0 " OFFSET ".toList = 0 by decide, depthAfter_of_isDigit isValue.2]
    decide

/-- What is written behind a statement begins with a blank and a keyword. -/
theorem serverTail_begins (offset : Int) (clauses : Clauses) (rest : List Char) :
    ∃ key behind first word,
      serverTail offset clauses ++ (' ' :: ("FETCH NEXT ".toList ++ rest)) = ' ' :: (key ++ behind) ∧
        key.map foldKeyword = first :: word ∧ isHeadword (first :: word) = true := by
  obtain ⟨order, between, split, order_cases, between_cases⟩ := serverTail_cases offset clauses
  have order_split : " ORDER BY (SELECT NULL)".toList =
      ' ' :: ("ORDER".toList ++ " BY (SELECT NULL)".toList) := by decide
  have offset_split : " OFFSET ".toList = ' ' :: ("OFFSET".toList ++ [' ']) := by decide
  have fetch_split : "FETCH NEXT ".toList = "FETCH".toList ++ " NEXT ".toList := by decide
  rw [split]
  generalize numeral offset = value at between_cases
  rcases order_cases with rfl | rfl
  · rcases between_cases with rfl | rfl
    · refine ⟨"FETCH".toList, " NEXT ".toList ++ rest, 'f', "etch".toList, ?_, by decide, by decide⟩
      rw [fetch_split]
      simp only [List.nil_append, List.append_assoc]
    · refine ⟨"OFFSET".toList, [' '] ++ (value ++ (" ROWS".toList ++ (' ' ::
        ("FETCH NEXT ".toList ++ rest)))), 'o', "ffset".toList, ?_, by decide, by decide⟩
      rw [offset_split]
      simp only [List.nil_append, List.append_assoc, List.cons_append]
  · refine ⟨"ORDER".toList, " BY (SELECT NULL)".toList ++ (between ++ (' ' ::
      ("FETCH NEXT ".toList ++ rest))), 'o', "rder".toList, ?_, by decide, by decide⟩
    rw [order_split]
    simp only [List.append_assoc, List.cons_append]

theorem planSqlServer_of_tail {limit offset : Int} (no_top : Clear topClause 0 none masked)
    (no_fetch : Clear fetchClause 0 none masked)
    (later : ¬ (offset = 0 ∧ Clear offsetKeyword 0 none masked)) :
    planSqlServer limit offset masked =
      [Edit.insertAt masked.length (fetchTail limit offset (Clauses.ofMask masked))] := by
  unfold planSqlServer
  dsimp only
  rw [if_neg]
  · dsimp only [Clauses.ofMask]
    rw [(lastTopLevel?_eq_none_iff keyed_topClause).2 no_top,
      (lastTopLevel?_eq_none_iff keyed_fetchClause).2 no_fetch]
  · intro first_page
    simp only [Clauses.ofMask, Bool.and_eq_true, beq_iff_eq, Option.isNone_iff_eq_none] at first_page
    exact later ⟨first_page.1, (lastTopLevel?_eq_none_iff keyed_offsetKeyword).1 first_page.2⟩

/-- A later page of a statement with neither a TOP nor a FETCH. -/
theorem settles_planSqlServer_of_tail {first offset : Int} (nonneg : 0 ≤ first)
    (offset_nonneg : 0 ≤ offset) (depth : depthAfter 0 masked = 0)
    (no_top : Clear topClause 0 none masked) (no_fetch : Clear fetchClause 0 none masked)
    (later : ¬ (offset = 0 ∧ Clear offsetKeyword 0 none masked)) :
    Settles (planSqlServer · offset) first masked := by
  have plan : ∀ limit, planSqlServer limit offset masked =
      [Edit.insertAt masked.length (fetchTail limit offset (Clauses.ofMask masked))] :=
    fun limit => planSqlServer_of_tail no_top no_fetch later
  generalize Clauses.ofMask masked = clauses at plan
  have begins := @serverTail_begins offset clauses
  have ends : ∀ rest, Interchangeable []
      (serverTail offset clauses ++ (' ' :: ("FETCH NEXT ".toList ++ rest))) := by
    intro rest
    obtain ⟨key, behind, letter, word, same, fold, headword⟩ := begins rest
    rw [same]
    exact interchangeable_nil_key (by decide) fold headword behind
  have stops : ∀ rest, Stops isWord
      (serverTail offset clauses ++ (' ' :: ("FETCH NEXT ".toList ++ rest))) := by
    intro rest
    obtain ⟨key, behind, letter, word, same, -⟩ := begins rest
    rw [same]
    exact (by decide : isWord ' ' = false)
  have settles := @settles_written masked [] (serverTail offset clauses ++ " FETCH NEXT ".toList)
    " ROWS ONLY".toList first nonneg (planSqlServer · offset) (fun limit => by
      rw [List.append_nil, plan, fetchTail_eq]) (fun limit digits isRun => by
      rw [List.append_nil, ← List.append_assoc masked]
      exact replan_server_tail depth no_top no_fetch ends stops
        (serverTail_quiet keyed_topClause offset_nonneg (by decide) (by decide) (by decide) clauses)
        (serverTail_quiet keyed_fetchClause offset_nonneg (by decide) (by decide) (by decide) clauses)
        (serverTail_flat offset_nonneg clauses) isRun)
  rwa [List.append_nil] at settles

/-- The first page of a statement whose SELECT head has a digit directly behind it: the TOP that is put
there takes the digit for its count. -/
def HeadMeetsDigit (offset : Int) (masked : List Char) : Prop :=
  let clauses := Clauses.ofMask masked
  offset = 0 ∧ clauses.top = none ∧ clauses.fetch = none ∧ clauses.offset = none ∧
    ∃ head ∈ clauses.selectHead, ∃ c ∈ masked[head.stop]?, isDigit c = true

instance (offset : Int) (masked : List Char) : Decidable (HeadMeetsDigit offset masked) :=
  inferInstanceAs (Decidable (_ ∧ _))

theorem stops_drop_iff {kind : Char → Bool} {text : List Char} {position : Nat} :
    Stops kind (text.drop position) ↔ ¬ ∃ c ∈ text[position]?, kind c = true := by
  rw [← List.head?_drop]
  cases text.drop position with
  | nil => simp [Stops]
  | cons c rest => simp [Stops]

/-- In SQL Server every statement is settled, unless its TOP meets a digit. -/
theorem settles_planSqlServer {first offset : Int} (nonneg : 0 ≤ first) (offset_nonneg : 0 ≤ offset)
    (depth : depthAfter 0 masked = 0) (apart : ¬ HeadMeetsDigit offset masked) :
    Settles (planSqlServer · offset) first masked := by
  cases top : lastTopLevel? topClause masked with
  | some hit => exact settles_planSqlServer_of_top nonneg offset top
  | none =>
      have no_top := (lastTopLevel?_eq_none_iff keyed_topClause).1 top
      cases fetch : lastTopLevel? fetchClause masked with
      | some hit => exact settles_planSqlServer_of_fetch nonneg offset no_top fetch
      | none =>
          have no_fetch := (lastTopLevel?_eq_none_iff keyed_fetchClause).1 fetch
          by_cases first_page : offset = 0 ∧ Clear offsetKeyword 0 none masked
          · obtain ⟨rfl, no_offset⟩ := first_page
            have offsets := (lastTopLevel?_eq_none_iff keyed_offsetKeyword).2 no_offset
            cases head : firstTopLevel? selectHead masked with
            | some hit =>
                refine settles_planSqlServer_of_head nonneg no_top no_fetch no_offset head ?_
                rw [stops_drop_iff]
                rintro meets
                exact apart ⟨rfl, top, fetch, offsets, hit, head, meets⟩
            | none =>
                have plan : ∀ limit, planSqlServer limit 0 masked = [] := fun limit =>
                  planSqlServer_of_no_head limit no_top no_fetch no_offset head
                exact .stays (fun limit => by rw [plan, plan]) fun second => by
                  rw [plan]
                  exact plan second
          · exact settles_planSqlServer_of_tail nonneg offset_nonneg depth no_top no_fetch first_page

/-- Where the TOP meets digits it takes them into its count, and the next plan drops them. -/
theorem planSqlServer_of_headMeetsDigit {first : Int} (positive : 1 ≤ first)
    (meets : HeadMeetsDigit 0 masked) :
    ∃ left digits rest, masked = left ++ (digits ++ rest) ∧ IsRun isDigit digits ∧
      (∀ limit, planSqlServer limit 0 masked =
        [Edit.insertAt left.length (" TOP ".toList ++ numeral limit)]) ∧
      planSqlServer first 0 ((left ++ " TOP ".toList) ++ ((numeral first ++ digits) ++ rest)) =
        [⟨⟨(left ++ " TOP ".toList).length,
            (left ++ " TOP ".toList).length + (numeral first ++ digits).length⟩, numeral first⟩] := by
  obtain ⟨-, top, fetch, offsets, hit, head, c, here, digit⟩ := meets
  have no_top := (lastTopLevel?_eq_none_iff keyed_topClause).1 top
  have no_fetch := (lastTopLevel?_eq_none_iff keyed_fetchClause).1 fetch
  have no_offset := (lastTopLevel?_eq_none_iff keyed_offsetKeyword).1 offsets
  have plan := fun limit => planSqlServer_of_head limit no_top no_fetch no_offset head
  obtain ⟨front, key, more, behind, rfl, place, depth, begins, spelled, shape⟩ := head_cases head
  rw [place] at plan here
  have some_behind : ∃ rest, behind = c :: rest := by
    rw [List.getElem?_append_right (Nat.le_refl _), Nat.sub_self] at here
    cases behind with
    | nil => cases here
    | cons d rest =>
        cases here
        exact ⟨rest, rfl⟩
  obtain ⟨behind, rfl⟩ := some_behind
  obtain ⟨digits, isRun, split, stops⟩ := run1?_eq_some_iff.1
    (show run1? isDigit (c :: behind) = some (behind.dropWhile isDigit) by rw [run1?, if_pos digit])
  have isCount : IsRun isDigit (numeral first) := isCount_numeral (by omega)
  have isRun' : IsRun isDigit (numeral first ++ digits) := by
    refine ⟨by simp [isCount.1], fun d member => ?_⟩
    rcases List.mem_append.1 member with left | right
    · exact isCount.2 d left
    · exact isRun.2 d right
  rw [split] at no_top plan ⊢
  have clear : Clear topClause 0 none
      (front ++ (key ++ (more ++ (digits ++ behind.dropWhile isDigit)))) := by
    simpa using no_top
  refine ⟨front ++ key ++ more, digits, _, rfl, isRun, plan, ?_⟩
  rw [replan_server_head depth begins spelled shape clear isRun.2 isRun' stops,
    clampCount_numeral_append positive isRun]

end QueryDesk.Sql
