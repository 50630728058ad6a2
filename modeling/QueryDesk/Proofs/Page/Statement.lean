/-
Module: QueryDesk.Proofs.Page.Statement
Purpose: The statement in a text, and the edits that bound it. A statement ends where the comment mask
  has nothing but terminators behind; what follows the semicolons begins where it has nothing but
  blanks behind, and at both places the machine stands outside of all tokens. The edits of a plan
  stand in order inside of the statement, so that bounding a text is to apply one list of edits to
  the whole text: those of the plan, and the removal of the semicolons.
Imports: QueryDesk.Page.Paging, QueryDesk.Proofs.Sql.Cut, QueryDesk.Proofs.Sql.ClauseShape
Main exports: Extent.ofMask_eq, Edit.InOrder, Edit.applyAll_concat, plan_inOrder, boundEdits,
  boundText_eq_applyAll, boundEdits_inOrder
-/
import QueryDesk.Page.Paging
import QueryDesk.Proofs.Sql.Cut
import QueryDesk.Proofs.Sql.ClauseShape

namespace QueryDesk.Sql

open QueryDesk.Text

theorem Extent.ofMask_eq (commentMasked : List Char) :
    Extent.ofMask commentMasked =
      ⟨(commentMasked.rdropWhile isTerminator).length,
        (commentMasked.rdropWhile isBlank).length⟩ := by
  simp only [Extent.ofMask, contentEnd, trimEnd_eq_rdropWhile, dropTerminators, List.rdropWhile,
    List.length_reverse]
  rfl

/-- A tail that may drop more leaves less. -/
theorem rdropWhile_length_le {kind other : Char → Bool} (weaker : ∀ c, kind c = true → other c = true)
    (text : List Char) : (text.rdropWhile other).length ≤ (text.rdropWhile kind).length := by
  induction text with
  | nil => exact Nat.le_refl _
  | cons c rest ih =>
      rw [rdropWhile_cons, rdropWhile_cons]
      by_cases gone : rest.rdropWhile kind = []
      · have gone' : rest.rdropWhile other = [] := by
          rw [gone, List.length_nil, Nat.le_zero, List.length_eq_zero_iff] at ih
          exact ih
        rw [if_pos gone, if_pos gone']
        by_cases holds : kind c = true
        · simp [holds, weaker c holds]
        · by_cases holds' : other c = true <;> simp [holds, holds']
      · rw [if_neg gone]
        have some_left : 0 < (rest.rdropWhile kind).length := List.length_pos_of_ne_nil gone
        split_ifs <;> simp only [List.length_cons, List.length_nil] <;> omega

theorem Extent.body_le_trailer (commentMasked : List Char) :
    (Extent.ofMask commentMasked).body ≤ (Extent.ofMask commentMasked).trailer := by
  rw [Extent.ofMask_eq]
  exact rdropWhile_length_le (fun c blank => by simp [isTerminator, blank]) commentMasked

theorem Extent.trailer_le (commentMasked : List Char) :
    (Extent.ofMask commentMasked).trailer ≤ commentMasked.length := by
  rw [Extent.ofMask_eq]
  exact (List.rdropWhile_prefix isBlank commentMasked).length_le

/-- The edits stand in order, between two positions, and do not overlap. -/
def Edit.InOrder (position stop : Nat) : List Edit → Prop
  | [] => position ≤ stop
  | edit :: rest =>
    position ≤ edit.span.start ∧ edit.span.start ≤ edit.span.stop ∧
      Edit.InOrder edit.span.stop stop rest

theorem Edit.InOrder.le {position stop : Nat} {edits : List Edit}
    (ordered : Edit.InOrder position stop edits) : position ≤ stop := by
  induction edits generalizing position with
  | nil => exact ordered
  | cons edit rest ih => exact Nat.le_trans (Nat.le_trans ordered.1 ordered.2.1) (ih ordered.2.2)

theorem Edit.InOrder.concat {position stop : Nat} {edits : List Edit} {last : Edit} {finish : Nat}
    (ordered : Edit.InOrder position stop edits) (after : stop ≤ last.span.start)
    (forwards : last.span.start ≤ last.span.stop) (inside : last.span.stop ≤ finish) :
    Edit.InOrder position finish (edits ++ [last]) := by
  induction edits generalizing position with
  | nil => exact ⟨Nat.le_trans ordered after, forwards, inside⟩
  | cons edit rest ih => exact ⟨ordered.1, ordered.2.1, ih ordered.2.2⟩

/-- A last edit can be made after all others. -/
theorem Edit.applyAll_concat {edits : List Edit} {last : Edit} {text : List Char}
    (ordered : Edit.InOrder 0 last.span.start edits) (forwards : last.span.start ≤ last.span.stop) :
    Edit.applyAll (edits ++ [last]) text =
      Edit.applyAll edits (text.take last.span.start) ++ (last.text ++ text.drop last.span.stop) := by
  have general : ∀ (edits : List Edit) (position : Nat) (text : List Char),
      Edit.InOrder position last.span.start edits →
      Edit.applyFrom position text (edits ++ [last]) =
        Edit.applyFrom position (text.take (last.span.start - position)) edits ++
          (last.text ++ text.drop (last.span.stop - position)) := by
    intro edits
    induction edits with
    | nil => simp [Edit.applyFrom]
    | cons edit rest ih =>
        intro position text ordered
        have inside := ordered.2.2.le
        have shorter : min (edit.span.start - position) (last.span.start - position) =
            edit.span.start - position := by
          have := ordered.1
          have := ordered.2.1
          omega
        have kept : last.span.start - position - (edit.span.stop - position) =
            last.span.start - edit.span.stop := by
          have := ordered.1
          have := ordered.2.1
          omega
        have gone : edit.span.stop - position + (last.span.stop - edit.span.stop) =
            last.span.stop - position := by
          have := ordered.1
          have := ordered.2.1
          omega
        simp only [List.cons_append, Edit.applyFrom, ih _ _ ordered.2.2, List.take_take, shorter,
          List.drop_take, kept, List.drop_drop, gone, List.append_assoc]
  simpa [Edit.applyAll] using general edits 0 text ordered

/-- The group of a pattern with a number lies inside of its matches. -/
def Placed (pattern : Pattern) (index : Nat) : Prop :=
  ∀ {before text found span}, pattern before text = some found →
    found.groups[index]?.join = some span → span.start ≤ span.stop ∧ span.stop ≤ text.length

theorem placed_limitClause (index : Nat) : Placed limitClause index := by
  intro before text found span matched group
  obtain ⟨-, head, count, rest, -, rfl, -, ⟨-, rfl⟩ | ⟨gap, second, after, rfl, -, rfl⟩⟩ :=
    limitClause_eq_some_iff.1 matched
  · rcases index with _ | _ | index
    · cases group
      simp only [List.length_append]
      omega
    · cases group
    · cases group
  · rcases index with _ | _ | index
    · cases group
      simp only [List.length_append]
      omega
    · cases group
      simp only [List.length_append]
      omega
    · cases group

theorem placed_topClause : Placed topClause 1 := by
  intro before text found span matched group
  obtain ⟨-, opens, head, count, rest, after, group', -, rfl, -, -, -, rfl⟩ :=
    topClause_eq_some matched
  cases group
  simp only [List.length_append]
  omega

theorem placed_fetchClause : Placed fetchClause 0 := by
  intro before text found span matched group
  obtain ⟨-, head, tail, -, rfl, ⟨count, rest, after, rfl, -, -, -, rfl⟩ | ⟨after, -, rfl⟩⟩ :=
    fetchClause_eq_some_iff.1 matched
  · cases group
    simp only [List.length_append]
    omega
  · cases group

theorem Match.group?_at (found : Match) (position index : Nat) :
    (found.at position).group? index = (found.groups[index]?.join).map (·.shift position) := by
  simp only [Match.at, Hit.group?, List.getElem?_map]
  cases found.groups[index]? with
  | none => rfl
  | some group => cases group <;> rfl

/-- The last match of a pattern and its groups lie inside of the text. -/
theorem Placed.of_lastTopLevel? {pattern : Pattern} {letter : Char} {index : Nat}
    (placed : Placed pattern index) (keyed : Keyed pattern letter) {masked : List Char} {hit : Hit}
    {span : Span} (last : lastTopLevel? pattern masked = some hit)
    (group : hit.group? index = some span) :
    hit.start ≤ span.start ∧ span.start ≤ span.stop ∧ span.stop ≤ masked.length := by
  obtain ⟨front, back, found, rfl, isLast, rfl⟩ := (lastTopLevel?_eq_some_iff keyed).1 last
  rw [Match.group?_at, Option.map_eq_some_iff] at group
  obtain ⟨inner, group, rfl⟩ := group
  have inside := placed isLast.matched group
  simp only [Match.at, Span.shift, List.length_append]
  omega

theorem lastTopLevel?_start_le {pattern : Pattern} {letter : Char} (keyed : Keyed pattern letter)
    {masked : List Char} {hit : Hit} (last : lastTopLevel? pattern masked = some hit) :
    hit.start ≤ masked.length := by
  obtain ⟨front, back, found, rfl, -, rfl⟩ := (lastTopLevel?_eq_some_iff keyed).1 last
  simp [Match.at]

theorem Edit.inOrder_clamp {limit : Int} {masked : List Char} {span : Span} {position : Nat}
    (after : position ≤ span.start) (forwards : span.start ≤ span.stop)
    (inside : span.stop ≤ masked.length) :
    Edit.InOrder position masked.length [clampEdit limit masked span] :=
  ⟨after, forwards, inside⟩

theorem Edit.inOrder_insert {position start stop : Nat} (text : List Char) (after : position ≤ start)
    (inside : start ≤ stop) : Edit.InOrder position stop [Edit.insertAt start text] :=
  ⟨after, Nat.le_refl _, inside⟩

theorem planTop_inOrder (limit : Int) {masked : List Char} {top : Hit}
    (last : lastTopLevel? topClause masked = some top) :
    Edit.InOrder 0 masked.length (planTop limit masked top) := by
  unfold planTop
  cases group : top.group? 1 with
  | none => exact Nat.zero_le _
  | some count =>
      obtain ⟨-, forwards, inside⟩ := placed_topClause.of_lastTopLevel? keyed_topClause last group
      exact Edit.inOrder_clamp (Nat.zero_le _) forwards inside

theorem planFetch_inOrder (limit : Int) {masked : List Char} {fetch : Hit} {position : Nat}
    (last : lastTopLevel? fetchClause masked = some fetch) (before : position ≤ fetch.start) :
    Edit.InOrder position masked.length (planFetch limit masked fetch) := by
  unfold planFetch
  cases group : fetch.group? 0 with
  | none => exact Nat.le_trans before (lastTopLevel?_start_le keyed_fetchClause last)
  | some count =>
      obtain ⟨starts, forwards, inside⟩ :=
        placed_fetchClause.of_lastTopLevel? keyed_fetchClause last group
      exact Edit.inOrder_clamp (Nat.le_trans before starts) forwards inside

theorem planExistingLimit_inOrder (limit offset : Int) {masked : List Char} (clauses : Clauses)
    {found : Hit} (last : lastTopLevel? limitClause masked = some found) :
    Edit.InOrder 0 masked.length (planExistingLimit limit offset masked clauses found) := by
  have place : ∀ index count, found.group? index = some count →
      count.start ≤ count.stop ∧ count.stop ≤ masked.length := fun index count group =>
    (Placed.of_lastTopLevel? (placed_limitClause index) keyed_limitClause last group).2
  unfold planExistingLimit
  cases second : found.group? 1 with
  | some count =>
      exact Edit.inOrder_clamp (Nat.zero_le _) (place 1 count second).1 (place 1 count second).2
  | none =>
      cases first : found.group? 0 with
      | none => exact Nat.zero_le _
      | some count =>
          obtain ⟨forwards, inside⟩ := place 0 count first
          dsimp only
          split_ifs
          · exact ⟨Nat.zero_le _, forwards, inside⟩
          · exact Edit.inOrder_clamp (Nat.zero_le _) forwards inside

/-- The edits of a plan stand in order inside of the statement. -/
theorem plan_inOrder (dialect : Dialect) (limit offset : Int) (masked : List Char) :
    Edit.InOrder 0 masked.length (plan dialect limit offset masked) := by
  have limits : Edit.InOrder 0 masked.length (planLimit limit offset masked) := by
    unfold planLimit
    dsimp only [Clauses.ofMask]
    cases existing : lastTopLevel? limitClause masked with
    | some found => exact planExistingLimit_inOrder limit offset _ existing
    | none =>
        cases top : lastTopLevel? topClause masked with
        | some found => exact planTop_inOrder limit top
        | none =>
            cases fetch : lastTopLevel? fetchClause masked with
            | some found =>
                dsimp only
                split_ifs
                · exact ⟨Nat.zero_le _, Nat.le_refl _, planFetch_inOrder limit fetch (Nat.le_refl _)⟩
                · exact planFetch_inOrder limit fetch (Nat.zero_le _)
            | none =>
                cases keyword : lastTopLevel? offsetKeyword masked with
                | some found =>
                    exact Edit.inOrder_insert _ (Nat.zero_le _)
                      (lastTopLevel?_start_le keyed_offsetKeyword keyword)
                | none => exact Edit.inOrder_insert _ (Nat.zero_le _) (Nat.le_refl _)
  have server : Edit.InOrder 0 masked.length (planSqlServer limit offset masked) := by
    unfold planSqlServer
    dsimp only [Clauses.ofMask]
    cases top : lastTopLevel? topClause masked with
    | some found => exact planTop_inOrder limit top
    | none =>
        cases fetch : lastTopLevel? fetchClause masked with
        | some found => exact planFetch_inOrder limit fetch (Nat.zero_le _)
        | none =>
            dsimp only
            split_ifs
            · cases head : firstTopLevel? selectHead masked with
              | none => exact Nat.zero_le _
              | some hit =>
                  obtain ⟨front, back, found, rfl, -, matched, rfl⟩ :=
                    exists_split_of_firstTopLevel? head keyed_selectHead
                  refine Edit.inOrder_insert _ (Nat.zero_le _) ?_
                  have inside := (keyed_selectHead.extent matched).2
                  simp only [Match.at, List.length_append]
                  omega
            · exact Edit.inOrder_insert _ (Nat.zero_le _) (Nat.le_refl _)
  cases dialect with
  | sqlserver => exact server
  | postgres | mysql | sqlite | generic => exact limits

/-! ### Edits of a text

Bounding edits the statement and then puts what is kept behind it. The semicolons stand behind the last edit
of the plan, and so their removal is one more edit in the same order. -/

/-- The mask of the statement in a text. -/
def statementMask (lexis : Lexis) (text : List Char) : List Char :=
  (lexis.mask text).take (Extent.ofMask (lexis.commentMask text)).body

/-- Where the removal of the semicolons ends: where the trailer begins, or at the end of the text if
the trailer is blank. -/
def removalEnd (lexis : Lexis) (text : List Char) : Nat :=
  if isBlankText (text.drop (Extent.ofMask (lexis.commentMask text)).trailer) then text.length
  else (Extent.ofMask (lexis.commentMask text)).trailer

/-- The edits that bound a text: none if it is left as it is, and else those of the plan for its
statement and the removal of the semicolons. -/
def boundEdits (dialect : Dialect) (limit offset : Int) (text : List Char) : List Edit :=
  let lexis := Lexis.ofDialect dialect
  if isUntouched (lexis.mask text) (lexis.commentMask text) then []
  else
    plan dialect limit offset (statementMask lexis text) ++
      [⟨⟨(Extent.ofMask (lexis.commentMask text)).body, removalEnd lexis text⟩, []⟩]

theorem length_statementMask (lexis : Lexis) (text : List Char) :
    (statementMask lexis text).length = (Extent.ofMask (lexis.commentMask text)).body := by
  have body := Extent.body_le_trailer (lexis.commentMask text)
  have trailer := Extent.trailer_le (lexis.commentMask text)
  rw [lexis.length_commentMask] at trailer
  rw [statementMask, List.length_take, lexis.length_mask]
  omega

theorem body_le_removalEnd (lexis : Lexis) (text : List Char) :
    (Extent.ofMask (lexis.commentMask text)).body ≤ removalEnd lexis text ∧
      removalEnd lexis text ≤ text.length := by
  have body := Extent.body_le_trailer (lexis.commentMask text)
  have trailer := Extent.trailer_le (lexis.commentMask text)
  rw [lexis.length_commentMask] at trailer
  unfold removalEnd
  split_ifs <;> omega

/-- To bound a text is to apply its edits. -/
theorem boundText_eq_applyAll (dialect : Dialect) (limit offset : Int) (text : List Char) :
    boundText dialect limit offset text =
      Edit.applyAll (boundEdits dialect limit offset text) text := by
  have ordered := plan_inOrder dialect limit offset (statementMask (Lexis.ofDialect dialect) text)
  rw [length_statementMask] at ordered
  unfold boundText boundEdits
  dsimp only
  split_ifs with untouched
  · rfl
  · rw [Edit.applyAll_concat ordered (body_le_removalEnd _ _).1, List.nil_append, removalEnd,
      if_pos (by assumption), List.drop_length, List.append_nil]
    rfl
  · rw [Edit.applyAll_concat ordered (body_le_removalEnd _ _).1, List.nil_append, removalEnd,
      if_neg (by assumption)]
    rfl

/-- The edits of a text stand in order inside of it. -/
theorem boundEdits_inOrder (dialect : Dialect) (limit offset : Int) (text : List Char) :
    Edit.InOrder 0 text.length (boundEdits dialect limit offset text) := by
  have ordered := plan_inOrder dialect limit offset (statementMask (Lexis.ofDialect dialect) text)
  rw [length_statementMask] at ordered
  have ends := body_le_removalEnd (Lexis.ofDialect dialect) text
  unfold boundEdits
  dsimp only
  split_ifs
  · exact Nat.zero_le _
  · exact ordered.concat (Nat.le_refl _) ends.1 ends.2

end QueryDesk.Sql
