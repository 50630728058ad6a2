/-
Module: QueryDesk.Proofs.Page.Effect
Purpose: All that a plan can do to a masked statement, said once: it clamps the count of a clause, puts an
  offset before a FETCH or a LIMIT before an OFFSET, puts a TOP behind a SELECT head, or adds clauses
  at the end. What an edit of a plan cannot do is read off these cases.
Imports: QueryDesk.Proofs.Page.Twice
Main exports: CountHead, Effect, effect_plan
-/
import QueryDesk.Proofs.Page.Twice

namespace QueryDesk.Sql

open QueryDesk.Text

variable {masked front head count rest : List Char} {limit offset : Int}

/-- What stands before a count that can be clamped: the keyword of its clause with all that belongs to
it, and before the second of two counts also the first one and the comma. -/
inductive CountHead : List Char → Prop where
  | limit {head : List Char} (isHead : LimitHead head) : CountHead head
  | second {head skipped gap gap' : List Char} (isHead : LimitHead head)
      (isRun : IsRun isCountChar skipped) (blank : ∀ c ∈ gap, isBlank c = true)
      (blank' : ∀ c ∈ gap', isBlank c = true) : CountHead (head ++ (skipped ++ (gap ++ ',' :: gap')))
  | top {opens : Bool} {head : List Char} (isHead : TopHead opens head) : CountHead head
  | fetch {head : List Char} (isHead : FetchHead head) : CountHead head

/-- A clause begins behind a text: outside of all parentheses, and at the beginning of a word. -/
structure Front (front : List Char) : Prop where
  depth : depthAfter 0 front = 0
  begins : wordBegins (lastBefore none front) = true

/-- What a plan can do to a masked statement, with the edits that do it. -/
inductive Effect (limit offset : Int) : List Char → List Edit → Prop where
  | keep (masked : List Char) : Effect limit offset masked []
  | clamp {front head count : List Char} (place : Front front) (isHead : CountHead head)
      (isRun : IsRun isCountChar count) (tail rest : List Char)
      (isTail : tail = [] ∨ 0 < offset ∧ tail = " OFFSET ".toList ++ numeral offset) :
      Effect limit offset (front ++ (head ++ (count ++ rest)))
        [⟨⟨(front ++ head).length, (front ++ head).length + count.length⟩,
          clampCount limit count ++ tail⟩]
  | lead {front head : List Char} (place : Front front) (isHead : FetchHead head) (rest : List Char)
      (positive : 0 < offset) :
      Effect limit offset (front ++ (head ++ rest)) [Edit.insertAt front.length (offsetRows offset)]
  | leadClamp {front head count : List Char} (place : Front front) (isHead : FetchHead head)
      (isRun : IsRun isCountChar count) (rest : List Char) (positive : 0 < offset) :
      Effect limit offset (front ++ (head ++ (count ++ rest)))
        [Edit.insertAt front.length (offsetRows offset),
          ⟨⟨(front ++ head).length, (front ++ head).length + count.length⟩, clampCount limit count⟩]
  | limitBefore {front key : List Char} (place : Front front)
      (spelled : key.map foldKeyword = "offset".toList) (rest : List Char) :
      Effect limit offset (front ++ (key ++ rest))
        [Edit.insertAt front.length ("LIMIT ".toList ++ (numeral limit ++ [' ']))]
  | topBehind {front key more : List Char} (place : Front front)
      (spelled : key.map foldKeyword = "select".toList) (isRest : SelectRest more) (rest : List Char) :
      Effect limit offset (front ++ (key ++ (more ++ rest)))
        [Edit.insertAt (front ++ key ++ more).length (" TOP ".toList ++ numeral limit)]
  | limitBehind (masked : List Char) :
      Effect limit offset masked [Edit.insertAt masked.length
        (" LIMIT ".toList ++ (numeral limit ++ (" OFFSET ".toList ++ numeral offset)))]
  | fetchBehind (masked : List Char) (clauses : Clauses) :
      Effect limit offset masked [Edit.insertAt masked.length (fetchTail limit offset clauses)]

theorem LastAt.place {pattern : Pattern} {letter : Char} {front back : List Char} {found : Match}
    (last : LastAt pattern front back found) (keyed : Keyed pattern letter) : Front front :=
  ⟨last.depth, last.begins keyed⟩

theorem TopAt.effect {opens : Bool} {tail after : List Char} {group : Option Span}
    (top : TopAt opens masked front head count tail after group) (limit offset : Int) {hit : Hit}
    (found : lastTopLevel? topClause masked = some hit) :
    Effect limit offset masked (planTop limit masked hit) := by
  obtain ⟨hit', found', planned⟩ := planTop_of_last limit top.last top.split
  rw [found', Option.some.injEq] at found
  subst found
  have clamp : Effect limit offset _ _ := .clamp (top.last.place keyed_topClause) (.top top.isHead)
    ⟨top.isCount.1, fun c member => isCountChar_of_isDigit (top.isCount.2 c member)⟩ [] (tail ++ after)
    (.inl rfl)
  rw [List.append_nil, ← top.split] at clamp
  rw [planned]
  exact clamp

theorem effect_planTop {hit : Hit} (limit offset : Int)
    (found : lastTopLevel? topClause masked = some hit) :
    Effect limit offset masked (planTop limit masked hit) := by
  obtain ⟨opens, front, head, count, tail, after, group, top⟩ := exists_topAt found
  exact top.effect limit offset found

/-- A FETCH, with or without an offset put before it. -/
theorem effect_planFetch {hit : Hit} (limit offset : Int)
    (found : lastTopLevel? fetchClause masked = some hit) :
    Effect limit offset masked (planFetch limit masked hit) ∧
      (0 < offset → Effect limit offset masked
        (Edit.insertAt hit.start (offsetRows offset) :: planFetch limit masked hit)) := by
  rcases fetch_cases found with ⟨front, head, count, tail, after, fetch⟩ |
    ⟨front, head, tail, size, row⟩
  · obtain ⟨hit', found', start, planned⟩ := planFetch_of_last limit fetch.last fetch.split
    rw [found', Option.some.injEq] at found
    subst found
    have isRun : IsRun isCountChar count :=
      ⟨fetch.isCount.1, fun c member => isCountChar_of_isDigit (fetch.isCount.2 c member)⟩
    have place := fetch.last.place keyed_fetchClause
    rw [planned, start, fetch.split]
    refine ⟨?_, fun positive => .leadClamp place fetch.isHead isRun _ positive⟩
    have clamp : Effect limit offset _ _ :=
      .clamp place (.fetch fetch.isHead) isRun [] (tail ++ after) (.inl rfl)
    rwa [List.append_nil] at clamp
  · rw [row.found, Option.some.injEq] at found
    subst found
    rw [planFetch_row, row.split]
    exact ⟨.keep _, fun positive => .lead (row.last.place keyed_fetchClause) row.isHead _ positive⟩

theorem effect_planLimit_of_limit {hit : Hit} (limit offset : Int)
    (found : lastTopLevel? limitClause masked = some hit) :
    Effect limit offset masked (planLimit limit offset masked) := by
  rcases limit_cases found with ⟨front, head, count, rest, one, -⟩ |
    ⟨front, head, skipped, gap, gap', count, rest, two, -⟩
  · rw [planLimit_of_first limit offset one.last one.split]
    have isTail : offsetTail offset masked = [] ∨
        0 < offset ∧ offsetTail offset masked = " OFFSET ".toList ++ numeral offset := by
      rcases offsetTail_cases offset masked with none | written
      · exact .inl none
      · exact .inr written
    have clamp : Effect limit offset _ _ := .clamp (one.last.place keyed_limitClause)
      (.limit one.isHead) one.shape.countAt.isRun (offsetTail offset masked) rest isTail
    rwa [← one.split] at clamp
  · have clamp : Effect limit offset _ _ := .clamp (two.last.place keyed_limitClause)
      (.second two.isHead two.shape.countAt.isRun two.blank two.blank') two.second.countAt.isRun [] rest
      (.inl rfl)
    have split : front ++ (head ++ (skipped ++ (gap ++ ',' :: gap')) ++ (count ++ rest)) = masked := by
      rw [two.split]
      simp
    rw [List.append_nil, split] at clamp
    rw [two.plan limit offset, Site.edits, countSite, List.append_nil]
    exact clamp

/-! ### All plans

The branches of both plans are followed here once. What holds of the edits of every plan is shown by the
cases of `Effect` from here on. -/

theorem effect_planLimit (limit offset : Int) (masked : List Char) :
    Effect limit offset masked (planLimit limit offset masked) := by
  cases existing : lastTopLevel? limitClause masked with
  | some hit => exact effect_planLimit_of_limit limit offset existing
  | none =>
      have no_limit := (lastTopLevel?_eq_none_iff keyed_limitClause).1 existing
      cases top : lastTopLevel? topClause masked with
      | some hit =>
          rw [planLimit_of_top no_limit top]
          exact effect_planTop limit offset top
      | none =>
          have no_top := (lastTopLevel?_eq_none_iff keyed_topClause).1 top
          cases fetch : lastTopLevel? fetchClause masked with
          | some hit =>
              obtain ⟨plain, lead⟩ := effect_planFetch limit offset fetch
              rw [planLimit_of_fetch no_limit no_top fetch, leadEdits]
              split_ifs with wanted
              · simp only [Bool.and_eq_true, decide_eq_true_eq] at wanted
                exact lead wanted.1
              · exact plain
          | none =>
              have no_fetch := (lastTopLevel?_eq_none_iff keyed_fetchClause).1 fetch
              cases keyword : lastTopLevel? offsetKeyword masked with
              | some hit =>
                  rw [planLimit_of_offset no_limit no_top no_fetch keyword]
                  obtain ⟨front, back, found, rfl, last, rfl⟩ :=
                    (lastTopLevel?_eq_some_iff keyed_offsetKeyword).1 keyword
                  obtain ⟨-, key, rest, spelled, rfl, -, rfl⟩ := offsetKeyword_eq_some_iff.1 last.matched
                  exact .limitBefore (last.place keyed_offsetKeyword) spelled rest
              | none =>
                  rw [planLimit_of_none no_limit no_top no_fetch
                    ((lastTopLevel?_eq_none_iff keyed_offsetKeyword).1 keyword)]
                  exact .limitBehind masked

theorem effect_planSqlServer (limit offset : Int) (masked : List Char) :
    Effect limit offset masked (planSqlServer limit offset masked) := by
  cases top : lastTopLevel? topClause masked with
  | some hit =>
      rw [planSqlServer_of_top top]
      exact effect_planTop limit offset top
  | none =>
      cases fetch : lastTopLevel? fetchClause masked with
      | some hit =>
          rw [planSqlServer_of_fetch top fetch]
          exact (effect_planFetch limit offset fetch).1
      | none =>
          have no_top := (lastTopLevel?_eq_none_iff keyed_topClause).1 top
          have no_fetch := (lastTopLevel?_eq_none_iff keyed_fetchClause).1 fetch
          by_cases first_page : offset = 0 ∧ Clear offsetKeyword 0 none masked
          · obtain ⟨rfl, no_offset⟩ := first_page
            cases select : firstTopLevel? selectHead masked with
            | none =>
                rw [planSqlServer_of_no_head limit no_top no_fetch no_offset select]
                exact .keep masked
            | some hit =>
                rw [planSqlServer_of_head limit no_top no_fetch no_offset select]
                obtain ⟨front, key, more, rest, rfl, stop, depth, begins, spelled, isRest⟩ :=
                  head_cases select
                rw [stop, List.append_assoc (front ++ key), List.append_assoc front]
                exact .topBehind ⟨depth, begins⟩ spelled isRest rest
          · rw [planSqlServer_of_tail no_top no_fetch first_page]
            exact .fetchBehind masked _

/-- The edits of a plan have one of these effects. -/
theorem effect_plan (dialect : Dialect) (limit offset : Int) (masked : List Char) :
    Effect limit offset masked (plan dialect limit offset masked) := by
  cases dialect with
  | sqlserver => exact effect_planSqlServer limit offset masked
  | postgres | mysql | sqlite | generic => exact effect_planLimit limit offset masked

theorem Edit.applyAll_pair (front text head old new back : List Char) :
    Edit.applyAll [Edit.insertAt front.length text,
        ⟨⟨(front ++ head).length, (front ++ head).length + old.length⟩, new⟩]
      (front ++ (head ++ (old ++ back))) = front ++ (text ++ (head ++ (new ++ back))) := by
  have before : (front ++ head).length - front.length = head.length := by simp
  have behind : (front ++ head).length + old.length - front.length = (head ++ old).length := by
    simp only [List.length_append]
    omega
  simp only [Edit.applyAll, Edit.applyFrom, Edit.insertAt, Nat.sub_zero, List.take_left, List.drop_left,
    before, behind, List.append_assoc]
  rw [← List.append_assoc head old, List.drop_left]

/-- The characters of clauses: those of counts, blanks, parentheses and commas. -/
def isClauseChar (c : Char) : Bool :=
  isCountChar c || isBlank c || c == '(' || c == ')' || c == ','

theorem isClauseChar_of_isWord {c : Char} (word : isWord c = true) : isClauseChar c = true := by
  simp [isClauseChar, isCountChar, word]

theorem isClauseChar_of_isBlank {c : Char} (blank : isBlank c = true) : isClauseChar c = true := by
  simp [isClauseChar, blank]

theorem isClauseChar_of_isCountChar {c : Char} (counts : isCountChar c = true) : isClauseChar c = true := by
  simp [isClauseChar, counts]

theorem isClauseChar_of_mem_key {key word : List Char} (spelled : key.map foldKeyword = word)
    (letters : word.all isKeywordLetter = true) {c : Char} (member : c ∈ key) : isClauseChar c = true :=
  isClauseChar_of_isWord (isWord_of_mem_key spelled letters member)

theorem LimitHead.isClauseChar (isHead : LimitHead head) : ∀ c ∈ head, isClauseChar c = true := by
  obtain ⟨key, gap, rfl, spelled, isRun⟩ := isHead
  intro c member
  rcases List.mem_append.1 member with key_member | gap_member
  · exact isClauseChar_of_mem_key spelled (by decide) key_member
  · exact isClauseChar_of_isBlank (isRun.2 c gap_member)

theorem TopHead.isClauseChar {opens : Bool} (isHead : TopHead opens head) :
    ∀ c ∈ head, isClauseChar c = true := by
  obtain ⟨key, gap, gap', spelled, blank, blank', rfl⟩ := isHead
  have key_chars : ∀ c ∈ key, Sql.isClauseChar c = true := fun c =>
    isClauseChar_of_mem_key spelled (by decide)
  have gap_chars : ∀ c ∈ gap, Sql.isClauseChar c = true := fun c member =>
    isClauseChar_of_isBlank (blank c member)
  have gap_chars' : ∀ c ∈ gap', Sql.isClauseChar c = true := fun c member =>
    isClauseChar_of_isBlank (blank' c member)
  cases opens with
  | false => simpa [or_imp, forall_and] using ⟨key_chars, gap_chars⟩
  | true => simpa [or_imp, forall_and] using ⟨key_chars, gap_chars, by decide, gap_chars'⟩

theorem FetchHead.isClauseChar (isHead : FetchHead head) : ∀ c ∈ head, isClauseChar c = true := by
  obtain ⟨key, gap, word, gap', rfl, spelled, isRun, spelled', isRun'⟩ := isHead
  have word_chars : ∀ c ∈ word, Sql.isClauseChar c = true := fun c member => by
    rcases spelled' with next | first
    · exact isClauseChar_of_mem_key next (by decide) member
    · exact isClauseChar_of_mem_key first (by decide) member
  have gap_chars : ∀ c ∈ gap, Sql.isClauseChar c = true := fun c member =>
    isClauseChar_of_isBlank (isRun.2 c member)
  have gap_chars' : ∀ c ∈ gap', Sql.isClauseChar c = true := fun c member =>
    isClauseChar_of_isBlank (isRun'.2 c member)
  simp only [List.mem_append, or_imp, forall_and]
  exact ⟨fun c => isClauseChar_of_mem_key spelled (by decide), gap_chars, word_chars, gap_chars'⟩

theorem CountHead.isClauseChar (isHead : CountHead head) : ∀ c ∈ head, isClauseChar c = true := by
  cases isHead with
  | limit isHead => exact isHead.isClauseChar
  | top isHead => exact isHead.isClauseChar
  | fetch isHead => exact isHead.isClauseChar
  | second isHead isRun blank blank' =>
      simp only [List.mem_append, List.mem_cons, or_imp, forall_and, forall_eq]
      exact ⟨isHead.isClauseChar, fun c member => isClauseChar_of_isCountChar (isRun.2 c member),
        fun c member => isClauseChar_of_isBlank (blank c member), by decide,
        fun c member => isClauseChar_of_isBlank (blank' c member)⟩

/-- The head of a count begins with the first letter of its keyword. -/
theorem CountHead.exists_cons (isHead : CountHead head) :
    ∃ c more, head = c :: more ∧ foldKeyword c ∈ ['l', 't', 'f', 'o'] := by
  have limit : ∀ {head}, LimitHead head →
      ∃ c more, head = c :: more ∧ foldKeyword c ∈ ['l', 't', 'f', 'o'] := by
    rintro head ⟨key, gap, rfl, spelled, -⟩
    obtain ⟨c, rest, rfl, fold, -⟩ := exists_cons_of_map spelled
    exact ⟨c, rest ++ gap, rfl, by rw [fold]; decide⟩
  cases isHead with
  | limit isHead => exact limit isHead
  | second isHead _ _ _ =>
      obtain ⟨c, more, rfl, fold⟩ := limit isHead
      exact ⟨c, _, rfl, fold⟩
  | top isHead =>
      obtain ⟨key, gap, gap', spelled, -, -, rfl⟩ := isHead
      obtain ⟨c, rest, rfl, fold, -⟩ := exists_cons_of_map spelled
      split_ifs
      · exact ⟨c, _, rfl, by rw [fold]; decide⟩
      · exact ⟨c, _, rfl, by rw [fold]; decide⟩
  | fetch isHead =>
      obtain ⟨key, gap, word, gap', rfl, spelled, -⟩ := isHead
      obtain ⟨c, rest, rfl, fold, -⟩ := exists_cons_of_map spelled
      exact ⟨c, _, rfl, by rw [fold]; decide⟩

theorem not_mem_of_isClauseChar {text : List Char} (clause : ∀ c ∈ text, isClauseChar c = true) :
    ';' ∉ text := by
  intro member
  have here := clause _ member
  revert here
  decide

end QueryDesk.Sql
