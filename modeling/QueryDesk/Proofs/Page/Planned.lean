/-
Module: QueryDesk.Proofs.Page.Planned
Purpose: What every plan keeps to. Its edits are live: they stand next to characters that the mask shows,
  write calm characters, and leave no blank at the end of the statement. Only the last one can be part of
  a name. And the statement begins after the edits as it did before, so that it is still no statement
  that is passed through.
Imports: QueryDesk.Proofs.Page.Twice, QueryDesk.Proofs.Page.Relex
Main exports: Planned, planned_plan
-/
import QueryDesk.Proofs.Page.Twice
import QueryDesk.Proofs.Page.Relex

namespace QueryDesk.Sql

open QueryDesk.Text

/-- The same front with two ends that may be put in each other's place. -/
def SameOpening (text text' : List Char) : Prop :=
  ∃ front x y, text = front ++ x ∧ text' = front ++ y ∧ Interchangeable x y ∧ Edge front x ∧
    Edge front y

/-- What the edits of a plan keep to. -/
structure Planned (masked : List Char) (edits : List Edit) : Prop where
  live : ∀ edit ∈ edits, edit.Live masked
  breaks : ∀ edit ∈ edits.dropLast, Breaks edit.text
  opening : SameOpening masked (Edit.applyAll edits masked)

variable {masked front head count rest : List Char}

/-- A text of calm characters, none of which is a star. -/
def Calm (text : List Char) : Prop :=
  ∀ c ∈ text, isCalm c = true ∧ c ≠ '*'

theorem calm_of_all {text : List Char} (all : text.all (fun c => isCalm c && c != '*') = true) :
    Calm text := by
  intro c member
  simpa using List.all_eq_true.1 all c member

theorem Calm.append {left right : List Char} (calm : Calm left) (calm' : Calm right) :
    Calm (left ++ right) := by
  intro c member
  rcases List.mem_append.1 member with early | late
  · exact calm c early
  · exact calm' c late

theorem calm_of_isDigit {digits : List Char} (all : ∀ c ∈ digits, isDigit c = true) : Calm digits := by
  intro c member
  refine ⟨isCalm_of_isWord (isWord_of_isDigit (all c member)), ?_⟩
  rintro rfl
  exact absurd (all '*' member) (by decide)

theorem calm_numeral {value : Int} (nonneg : 0 ≤ value) : Calm (numeral value) :=
  calm_of_isDigit fun _ member => isDigit_of_mem_numeral nonneg member

theorem getLast?_of_isDigit {digits : List Char} (isRun : IsRun isDigit digits) (left : List Char) :
    ∃ c, (left ++ digits).getLast? = some c ∧ isWord c = true := by
  refine ⟨digits.getLast isRun.1, ?_, isWord_of_isDigit (isRun.2 _ (List.getLast_mem isRun.1))⟩
  rw [List.getLast?_append_of_ne_nil _ isRun.1, List.getLast?_eq_some_getLast isRun.1]

/-- Beside characters that are no blanks a mask can be cut. -/
theorem liveAt_of_solid {left solid right : List Char} (nonempty : solid ≠ [])
    (all : ∀ c ∈ solid, isBlank c = false) :
    LiveAt (left ++ (solid ++ right)) left.length ∧
      LiveAt (left ++ (solid ++ right)) (left.length + solid.length) := by
  constructor
  · cases solid with
    | nil => exact absurd rfl nonempty
    | cons c more => exact .inr (.inr (.inl ⟨c, by simp, all c (by simp)⟩))
  · rcases List.eq_nil_or_concat solid with rfl | ⟨init, c, rfl⟩
    · exact absurd rfl nonempty
    · refine .inr (.inr (.inr ⟨left.length + init.length, c, ?_, ?_, all c (by simp)⟩))
      · simp only [List.concat_eq_append, List.length_append, List.length_cons, List.length_nil]
        omega
      · simp

theorem edge_begins (begins : wordBegins (lastBefore none front) = true) {x y : List Char} :
    Edge front x ∧ Edge front y :=
  ⟨edge_of_wordBegins begins x, edge_of_wordBegins begins y⟩

/-! ### Edits of a count

A clamped count stands behind its keyword, in the place of characters that the mask shows, and ends in a
digit or with the offset behind it. -/

/-- What clamping a count writes, with some text behind it. -/
structure Written (limit : Int) (count new : List Char) : Prop where
  starts : ∃ right, new = clampCount limit count ++ right
  calm : Calm new
  ends : ∃ c, new.getLast? = some c ∧ isWord c = true

theorem written_clampCount {limit : Int} (nonneg : 0 ≤ limit) (count : List Char) :
    Written limit count (clampCount limit count) := by
  have isRun : IsRun isDigit (clampCount limit count) := isCount_clampCount nonneg count
  exact ⟨⟨[], by simp⟩, calm_of_isDigit isRun.2, getLast?_of_isDigit isRun []⟩

theorem written_offsetTail {limit offset : Int} (nonneg : 0 ≤ limit) (count masked : List Char) :
    Written limit count (clampCount limit count ++ offsetTail offset masked) := by
  have isRun : IsRun isDigit (clampCount limit count) := isCount_clampCount nonneg count
  refine ⟨⟨_, rfl⟩, ?_, ?_⟩
  · rcases offsetTail_cases offset masked with none | ⟨positive, written⟩
    · rw [none, List.append_nil]
      exact calm_of_isDigit isRun.2
    · rw [written]
      exact (calm_of_isDigit isRun.2).append (Calm.append (calm_of_all (by decide)) (calm_numeral (by omega)))
  · rcases offsetTail_cases offset masked with none | ⟨positive, written⟩
    · rw [none, List.append_nil]
      exact getLast?_of_isDigit isRun []
    · rw [written, ← List.append_assoc]
      exact getLast?_of_isDigit (isCount_numeral (by omega)) _

theorem Written.live {limit : Int} {new left : List Char} (nonneg : 0 ≤ limit)
    (written : Written limit count new) (nonempty : count ≠ [])
    (solid : ∀ c ∈ count, isBlank c = false) :
    Edit.Live (left ++ (count ++ rest)) ⟨⟨left.length, left.length + count.length⟩, new⟩ := by
  obtain ⟨start, stop⟩ := @liveAt_of_solid left count rest nonempty solid
  refine ⟨start, stop, ?_, written.calm, .inr written.ends⟩
  obtain ⟨right, rfl⟩ := written.starts
  have isRun : IsRun isDigit (clampCount limit count) := isCount_clampCount nonneg count
  simp [isRun.1]

/-- One edit of a count behind a keyword keeps to what is asked for. -/
theorem planned_of_count {limit : Int} {new : List Char} (nonneg : 0 ≤ limit)
    (written : Written limit count new) (nonempty : count ≠ [])
    (solid : ∀ c ∈ count, isBlank c = false) (begins : wordBegins (lastBefore none front) = true)
    (ends : ∀ tail tail', Interchangeable (head ++ tail) (head ++ tail')) :
    Planned ((front ++ head) ++ (count ++ rest))
      [⟨⟨(front ++ head).length, (front ++ head).length + count.length⟩, new⟩] := by
  refine ⟨?_, by simp, ?_⟩
  · intro edit member
    rw [List.mem_singleton.1 member]
    exact written.live nonneg nonempty solid
  · rw [Edit.applyAll_single]
    exact ⟨front, head ++ (count ++ rest), head ++ (new ++ rest), by simp, by simp, ends _ _,
      edge_begins begins⟩

theorem solid_of_isCountChar {count : List Char} (isRun : IsRun isCountChar count) :
    ∀ c ∈ count, isBlank c = false :=
  fun c member => isBlank_eq_false_of_isCountChar (isRun.2 c member)

theorem planned_limit {hit : Hit} {limit : Int} (nonneg : 0 ≤ limit) (offset : Int)
    (found : lastTopLevel? limitClause masked = some hit) :
    Planned masked (planLimit limit offset masked) := by
  rcases limit_cases found with ⟨front, head, count, rest, one, -, -⟩ |
    ⟨front, head, skipped, gap, gap', count, rest, two, -⟩
  · have split : masked = (front ++ head) ++ (count ++ rest) := by
      rw [one.split, List.append_assoc]
    have planned := @planned_of_count front head count rest _ _ nonneg
      (@written_offsetTail limit offset nonneg count masked) one.shape.countAt.isRun.1
      (solid_of_isCountChar one.shape.countAt.isRun) (one.last.begins keyed_limitClause)
      one.isHead.interchangeable
    rw [planLimit_of_first limit offset one.last one.split]
    rwa [← split] at planned
  · have split : masked = (front ++ (head ++ (skipped ++ (gap ++ ',' :: gap')))) ++ (count ++ rest) :=
      two.split_left
    have planned := @planned_of_count front (head ++ (skipped ++ (gap ++ ',' :: gap'))) count rest _ _
      nonneg (written_clampCount nonneg count) two.second.countAt.isRun.1
      (solid_of_isCountChar two.second.countAt.isRun) (two.last.begins keyed_limitClause)
      (fun tail tail' => by
        rw [List.append_assoc head, List.append_assoc head]
        exact two.isHead.interchangeable _ _)
    rw [two.plan, Site.edits, countSite, List.append_nil, List.nil_append, List.nil_append]
    rwa [← split] at planned

theorem solid_of_isWord {words : List Char} (all : ∀ c ∈ words, isWord c = true) :
    ∀ c ∈ words, isBlank c = false :=
  fun c member => isBlank_eq_false_of_isWord (all c member)

theorem planned_top {hit : Hit} {limit : Int} (nonneg : 0 ≤ limit)
    (found : lastTopLevel? topClause masked = some hit) : Planned masked (planTop limit masked hit) := by
  obtain ⟨opens, front, head, count, tail, after, group, top⟩ := exists_topAt found
  obtain ⟨hit', found', planned⟩ := planTop_of_last limit top.last top.split
  obtain rfl : hit = hit' := Option.some.inj (found.symm.trans found')
  have clamped := @planned_of_count front head count (tail ++ after) _ _ nonneg
    (written_clampCount nonneg count) top.isCount.1
    (solid_of_isWord fun c member => isWord_of_isDigit (top.isCount.2 c member))
    (top.last.begins keyed_topClause) top.isHead.interchangeable
  rw [planned]
  rwa [← top.split_left] at clamped

/-! ### Edits that insert

What is put before a word ends in a blank, and what is put behind one or at the end begins with a blank.
Only an offset before a FETCH has another edit behind it, and so it is the only one that has to end every
name before it. -/

/-- An insertion before a word. -/
theorem live_insertAt {key : List Char} {front behind text : List Char} (nonempty : key ≠ [])
    (words : ∀ c ∈ key, isWord c = true) (some_text : text ≠ []) (calm : Calm text) :
    Edit.Live (front ++ (key ++ behind)) (Edit.insertAt front.length text) := by
  have live := (@liveAt_of_solid front key behind nonempty (solid_of_isWord words)).1
  refine ⟨live, live, some_text, calm, .inl ?_⟩
  have size := List.length_pos_iff.2 nonempty
  simp only [Edit.insertAt, List.length_append]
  omega

/-- An insertion at the end. -/
theorem live_insertEnd {text : List Char} (some_text : text ≠ []) (calm : Calm text)
    (ends : ∃ c, text.getLast? = some c ∧ isWord c = true) :
    Edit.Live masked (Edit.insertAt masked.length text) :=
  ⟨.inr (.inl rfl), .inr (.inl rfl), some_text, calm, .inr ends⟩

theorem FetchHead.exists_key {head : List Char} (isHead : FetchHead head) :
    ∃ key behind, head = key ++ behind ∧ key ≠ [] ∧ ∀ c ∈ key, isWord c = true := by
  obtain ⟨key, gap, word, gap', rfl, spelled, -⟩ := isHead
  refine ⟨key, _, rfl, ?_, fun c => isWord_of_mem_key spelled (by decide)⟩
  rintro rfl
  cases spelled

theorem calm_offsetRows {offset : Int} (nonneg : 0 ≤ offset) : Calm (offsetRows offset) :=
  Calm.append (Calm.append (calm_of_all (by decide)) (calm_numeral nonneg)) (calm_of_all (by decide))

theorem breaks_offsetRows (offset : Int) : Breaks (offsetRows offset) := by
  refine ⟨' ', ?_, by decide⟩
  rw [offsetRows_eq]
  simp

/-- The insertion of an offset before a FETCH. -/
theorem live_leadEdits {offset : Int} {tail : List Char} (isHead : FetchHead head) :
    ∀ edit ∈ leadEdits offset masked front.length,
      edit.Live (front ++ (head ++ tail)) ∧ Breaks edit.text := by
  intro edit member
  unfold leadEdits at member
  split_ifs at member with wanted
  · simp only [Bool.and_eq_true, decide_eq_true_eq] at wanted
    rw [List.mem_singleton.1 member]
    obtain ⟨key, behind, rfl, nonempty, words⟩ := isHead.exists_key
    refine ⟨?_, breaks_offsetRows offset⟩
    rw [List.append_assoc key]
    refine live_insertAt nonempty words ?_ (calm_offsetRows (by omega))
    obtain ⟨c, inside, -⟩ := breaks_offsetRows offset
    exact List.ne_nil_of_mem inside
  · cases member

theorem FetchHead.interchangeable_lead (isHead : FetchHead head) (offset : Int)
    (masked tail tail' : List Char) :
    Interchangeable (head ++ tail) (offsetLead offset masked ++ (head ++ tail')) := by
  rcases offsetLead_cases offset masked with none | ⟨-, written⟩
  · rw [none]
    exact isHead.interchangeable tail tail'
  · obtain ⟨key, gap, word, gap', rfl, spelled, -⟩ := isHead
    rw [written, offsetRows_eq, List.append_assoc key _ tail, List.append_assoc "OFFSET".toList]
    exact interchangeable_of_keys spelled (by decide) fold_offset (by decide) _ _

/-- Edits before a FETCH, which may have a count that is clamped. -/
theorem planned_fetch {hit : Hit} {limit : Int} (nonneg : 0 ≤ limit) (offset : Int)
    (found : lastTopLevel? fetchClause masked = some hit) {edits : List Edit}
    (leads : edits = [] ∨ edits = leadEdits offset masked hit.start) :
    Planned masked (edits ++ planFetch limit masked hit) := by
  -- Both kinds of edits are those for some offset: none is put before a FETCH for the offset zero.
  have leads : ∃ offset, edits = leadEdits offset masked hit.start := by
    rcases leads with rfl | rfl
    · exact ⟨0, rfl⟩
    · exact ⟨offset, rfl⟩
  obtain ⟨offset, rfl⟩ := leads
  rcases fetch_cases found with ⟨front, head, count, tail, after, fetch⟩ |
    ⟨front, head, tail, size, row⟩
  · obtain ⟨hit', found', place, planned⟩ := planFetch_of_last limit fetch.last fetch.split
    obtain rfl : hit = hit' := Option.some.inj (found.symm.trans found')
    have split : masked = (front ++ head) ++ (count ++ (tail ++ after)) := by
      rw [fetch.split, List.append_assoc]
    have before := @live_leadEdits masked front head offset (count ++ (tail ++ after)) fetch.isHead
    rw [← fetch.split] at before
    have clamped : Edit.Live ((front ++ head) ++ (count ++ (tail ++ after)))
        ⟨⟨(front ++ head).length, (front ++ head).length + count.length⟩, clampCount limit count⟩ :=
      (written_clampCount nonneg count).live nonneg fetch.isCount.1
        (solid_of_isWord fun c member => isWord_of_isDigit (fetch.isCount.2 c member))
    rw [← split] at clamped
    rw [planned, place]
    refine ⟨?_, ?_, front, head ++ (count ++ (tail ++ after)), offsetLead offset masked ++
      (head ++ (clampCount limit count ++ (tail ++ after))), fetch.split, ?_,
      fetch.isHead.interchangeable_lead _ _ _ _, edge_begins (fetch.last.begins keyed_fetchClause)⟩
    · intro edit member
      rcases List.mem_append.1 member with early | late
      · exact (before edit early).1
      · rw [List.mem_singleton.1 late]
        exact clamped
    · rw [List.dropLast_concat]
      exact fun edit member => (before edit member).2
    · have ordered := leadEdits_inOrder offset masked
        (show front.length ≤ (front ++ head).length by simp)
      rw [Edit.applyAll_concat ordered (Nat.le_add_right _ _)]
      have taken : masked.take (front ++ head).length = front ++ head := by
        rw [split, List.take_left]
      have dropped : masked.drop ((front ++ head).length + count.length) = tail ++ after := by
        rw [split, ← List.append_assoc, List.drop_left' (by simp only [List.length_append])]
      dsimp only
      rw [taken, dropped, applyAll_leadEdits]
      simp only [List.append_assoc]
  · obtain rfl := Option.some.inj (found.symm.trans row.found)
    have before := @live_leadEdits masked front head offset tail row.isHead
    rw [← row.split] at before
    rw [planFetch_row, List.append_nil]
    exact ⟨fun edit member => (before edit member).1,
      fun edit member => (before edit (List.dropLast_subset _ member)).2,
      front, head ++ tail, offsetLead offset masked ++ (head ++ tail), row.split, row.applyAll offset,
      row.isHead.interchangeable_lead _ _ _ _, edge_begins (row.last.begins keyed_fetchClause)⟩

theorem edge_nil (text : List Char) : Edge text [] :=
  edge_of_stops (show Stops isWord [] from trivial) text

theorem planned_nil (masked : List Char) : Planned masked [] := by
  refine ⟨by simp, by simp, masked, [], [], by simp, by simp [Edit.applyAll, Edit.applyFrom], ?_, ?_, ?_⟩
  · exact ⟨inert_nil, inert_nil, inert_nil, inert_nil, Iff.rfl⟩
  · exact edge_nil _
  · exact edge_nil _

/-- An insertion at the end of a text that begins with a blank and a keyword. -/
theorem planned_insertEnd {text key behind word : List Char} {first : Char}
    (begins : text = ' ' :: (key ++ behind)) (spelled : key.map foldKeyword = first :: word)
    (headword : isHeadword (first :: word) = true) (calm : Calm text)
    (ends : ∃ c, text.getLast? = some c ∧ isWord c = true) :
    Planned masked [Edit.insertAt masked.length text] := by
  refine ⟨?_, by simp, masked, [], text, by simp, ?_, ?_, ?_, ?_⟩
  · intro edit member
    rw [List.mem_singleton.1 member]
    exact live_insertEnd (by rw [begins]; simp) calm ends
  · have applied := Edit.applyAll_insertAt masked text []
    rwa [List.append_nil, List.append_nil] at applied
  · rw [begins]
    exact interchangeable_nil_key (by decide) spelled headword behind
  · exact edge_nil _
  · rw [begins]
    exact edge_of_stops (show Stops isWord (' ' :: (key ++ behind)) from
      (by decide : isWord ' ' = false)) _

theorem planned_offset {hit : Hit} {limit : Int} (nonneg : 0 ≤ limit)
    (found : lastTopLevel? offsetKeyword masked = some hit) :
    Planned masked [Edit.insertAt hit.start ("LIMIT ".toList ++ (numeral limit ++ [' ']))] := by
  obtain ⟨front, back, found, rfl, last, rfl⟩ := (lastTopLevel?_eq_some_iff keyed_offsetKeyword).1 found
  obtain ⟨key, rest, rfl, spelled, -⟩ := offset_shape last
  have calm : Calm ("LIMIT ".toList ++ (numeral limit ++ [' '])) :=
    Calm.append (calm_of_all (by decide)) ((calm_numeral nonneg).append (calm_of_all (by decide)))
  have nonempty : key ≠ [] := by
    rintro rfl
    cases spelled
  refine ⟨?_, by simp, front, key ++ rest, _, rfl, Edit.applyAll_insertAt front _ (key ++ rest), ?_,
    edge_begins (last.begins keyed_offsetKeyword)⟩
  · intro edit member
    rw [List.mem_singleton.1 member]
    exact live_insertAt nonempty (fun c => isWord_of_mem_key spelled (by decide)) (by simp) calm
  · rw [List.append_assoc, limit_written]
    exact interchangeable_of_keys spelled (by decide) fold_limit (by decide) _ _

theorem planned_none {limit offset : Int} (nonneg : 0 ≤ limit) (offset_nonneg : 0 ≤ offset) :
    Planned masked [Edit.insertAt masked.length
      (" LIMIT ".toList ++ (numeral limit ++ (" OFFSET ".toList ++ numeral offset)))] := by
  have isValue : IsRun isDigit (numeral offset) := isCount_numeral offset_nonneg
  have calm : Calm (" LIMIT ".toList ++ (numeral limit ++ (" OFFSET ".toList ++ numeral offset))) :=
    Calm.append (calm_of_all (by decide)) ((calm_numeral nonneg).append
      (Calm.append (calm_of_all (by decide)) (calm_numeral offset_nonneg)))
  refine @planned_insertEnd masked _ "LIMIT".toList
    (' ' :: (numeral limit ++ (" OFFSET ".toList ++ numeral offset))) "imit".toList 'l' ?_ (by decide)
    (by decide) calm ?_
  · have lead : " LIMIT ".toList = ' ' :: ("LIMIT".toList ++ [' ']) := by decide
    rw [lead]
    simp only [List.cons_append, List.append_assoc, List.nil_append]
  · rw [← List.append_assoc, ← List.append_assoc]
    exact getLast?_of_isDigit isValue _

theorem planned_planLimit {limit offset : Int} (nonneg : 0 ≤ limit) (offset_nonneg : 0 ≤ offset)
    (masked : List Char) : Planned masked (planLimit limit offset masked) := by
  cases existing : lastTopLevel? limitClause masked with
  | some hit => exact planned_limit nonneg offset existing
  | none =>
      have no_limit := (lastTopLevel?_eq_none_iff keyed_limitClause).1 existing
      cases top : lastTopLevel? topClause masked with
      | some hit =>
          rw [planLimit_of_top no_limit top]
          exact planned_top nonneg top
      | none =>
          have no_top := (lastTopLevel?_eq_none_iff keyed_topClause).1 top
          cases fetch : lastTopLevel? fetchClause masked with
          | some hit =>
              rw [planLimit_of_fetch no_limit no_top fetch]
              exact planned_fetch nonneg offset fetch (.inr rfl)
          | none =>
              have no_fetch := (lastTopLevel?_eq_none_iff keyed_fetchClause).1 fetch
              cases keyword : lastTopLevel? offsetKeyword masked with
              | some hit =>
                  rw [planLimit_of_offset no_limit no_top no_fetch keyword]
                  exact planned_offset nonneg keyword
              | none =>
                  rw [planLimit_of_none no_limit no_top no_fetch
                    ((lastTopLevel?_eq_none_iff keyed_offsetKeyword).1 keyword)]
                  exact planned_none nonneg offset_nonneg

theorem calm_serverTail {offset : Int} (nonneg : 0 ≤ offset) (clauses : Clauses) :
    Calm (serverTail offset clauses) := by
  obtain ⟨order, between, split, order_cases, between_cases⟩ := serverTail_cases offset clauses
  rw [split]
  refine Calm.append ?_ ?_
  · rcases order_cases with rfl | rfl
    · exact nofun
    · exact calm_of_all (by decide)
  · rcases between_cases with rfl | rfl
    · exact nofun
    · exact Calm.append (calm_of_all (by decide))
        ((calm_numeral nonneg).append (calm_of_all (by decide)))

theorem planned_fetchTail {limit offset : Int} (nonneg : 0 ≤ limit) (offset_nonneg : 0 ≤ offset)
    (masked : List Char) (clauses : Clauses) :
    Planned masked [Edit.insertAt masked.length (fetchTail limit offset clauses)] := by
  have calm : Calm (fetchTail limit offset clauses) := by
    rw [fetchTail_eq]
    exact ((calm_serverTail offset_nonneg clauses).append (calm_of_all (by decide))).append
      ((calm_numeral nonneg).append (calm_of_all (by decide)))
  obtain ⟨key, behind, first, word, begins, spelled, headword⟩ :=
    serverTail_begins offset clauses (numeral limit ++ " ROWS ONLY".toList)
  refine @planned_insertEnd masked _ key behind word first ?_ spelled headword calm ?_
  · have lead : " FETCH NEXT ".toList = ' ' :: "FETCH NEXT ".toList := by decide
    rw [← begins, fetchTail_eq, lead]
    simp only [List.append_assoc, List.cons_append]
  · rw [fetchTail_eq, ← List.append_assoc, List.getLast?_append_of_ne_nil _ (by decide)]
    exact ⟨'Y', by decide, by decide⟩

theorem planned_head {hit : Hit} {limit : Int} (nonneg : 0 ≤ limit)
    (found : firstTopLevel? selectHead masked = some hit) :
    Planned masked [Edit.insertAt hit.stop (" TOP ".toList ++ numeral limit)] := by
  obtain ⟨front, key, more, rest, rfl, place, -, begins, spelled, shape⟩ := head_cases found
  have isRun : IsRun isDigit (numeral limit) := isCount_numeral nonneg
  have solid : ∃ left solid, front ++ key ++ more = left ++ solid ∧ solid ≠ [] ∧
      ∀ c ∈ solid, isWord c = true := by
    rcases shape with rfl | ⟨gap, word, rfl, -, fold⟩
    · refine ⟨front, key, by simp, ?_, fun c => isWord_of_mem_key spelled (by decide)⟩
      rintro rfl
      cases spelled
    · refine ⟨front ++ key ++ gap, word, by simp, ?_, ?_⟩
      · rintro rfl
        rcases fold with fold | fold <;> cases fold
      · rcases fold with fold | fold
        · exact fun c => isWord_of_mem_key fold (by decide)
        · exact fun c => isWord_of_mem_key fold (by decide)
  obtain ⟨left, word, split, nonempty, words⟩ := solid
  have live := (@liveAt_of_solid left word rest nonempty (solid_of_isWord words)).2
  rw [← List.append_assoc, ← split, ← List.length_append, ← split] at live
  rw [place]
  refine ⟨?_, by simp, front, key ++ (more ++ rest), key ++ (more ++ ((" TOP ".toList ++ numeral limit) ++
    rest)), by simp, ?_, interchangeable_of_keys spelled (by decide) spelled (by decide) _ _,
    edge_begins begins⟩
  · intro edit member
    rw [List.mem_singleton.1 member]
    exact ⟨live, live, by simp [Edit.insertAt],
      Calm.append (calm_of_all (by decide)) (calm_numeral nonneg),
      .inr (getLast?_of_isDigit isRun _)⟩
  · rw [Edit.applyAll_insertAt]
    simp only [List.append_assoc]

theorem planned_planSqlServer {limit offset : Int} (nonneg : 0 ≤ limit) (offset_nonneg : 0 ≤ offset)
    (masked : List Char) : Planned masked (planSqlServer limit offset masked) := by
  cases top : lastTopLevel? topClause masked with
  | some hit =>
      rw [planSqlServer_of_top top]
      exact planned_top nonneg top
  | none =>
      cases fetch : lastTopLevel? fetchClause masked with
      | some hit =>
          rw [planSqlServer_of_fetch top fetch]
          exact planned_fetch nonneg offset fetch (.inl rfl)
      | none =>
          have no_top := (lastTopLevel?_eq_none_iff keyed_topClause).1 top
          have no_fetch := (lastTopLevel?_eq_none_iff keyed_fetchClause).1 fetch
          by_cases first_page : offset = 0 ∧ Clear offsetKeyword 0 none masked
          · obtain ⟨rfl, no_offset⟩ := first_page
            cases head : firstTopLevel? selectHead masked with
            | some hit =>
                rw [planSqlServer_of_head limit no_top no_fetch no_offset head]
                exact planned_head nonneg head
            | none =>
                rw [planSqlServer_of_no_head limit no_top no_fetch no_offset head]
                exact planned_nil masked
          · rw [planSqlServer_of_tail no_top no_fetch first_page]
            exact planned_fetchTail nonneg offset_nonneg masked _

/-- Every plan keeps to what is asked for. -/
theorem planned_plan {limit offset : Int} (nonneg : 0 ≤ limit) (offset_nonneg : 0 ≤ offset)
    (dialect : Dialect) (masked : List Char) : Planned masked (plan dialect limit offset masked) := by
  cases dialect with
  | sqlserver => exact planned_planSqlServer nonneg offset_nonneg masked
  | postgres | mysql | sqlite | generic => exact planned_planLimit nonneg offset_nonneg masked

end QueryDesk.Sql
