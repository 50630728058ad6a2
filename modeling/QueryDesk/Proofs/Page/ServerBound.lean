/-
Module: QueryDesk.Proofs.Page.ServerBound
Purpose: When a rewritten query is bounded as a whole in SQL Server: it has a FETCH with a numeral that is
  at most the limit, or every SELECT outside of all parentheses has a TOP of its own with such a numeral.
  TOP bounds one SELECT, and the plan clamps one TOP or writes one, so that of several SELECTs the other
  ones have to be bounded already.
Imports: QueryDesk.Proofs.Page.OwnTop, QueryDesk.Proofs.Page.Trailer
Main exports: ServerBounded, Covers, planSqlServer_serverBounded_iff, paginate_serverBounded_iff
-/
import QueryDesk.Proofs.Page.OwnTop
import QueryDesk.Proofs.Page.Trailer

namespace QueryDesk.Sql

open QueryDesk.Text

variable {limit offset : Int} {masked front head count tail after key more rest x y : List Char}

/-- A statement with a FETCH that fits, or of which every SELECT has a TOP of its own that fits. -/
def ServerBounded (limit : Int) (masked : List Char) : Prop :=
  (∃ fetch ∈ topLevelHits fetchClause masked, FetchFits limit masked fetch) ∨
    ∀ select ∈ topLevelHits (wholeWord "select") masked,
      ∃ own ∈ ownTop? masked select, TopFits limit masked own

instance (limit : Int) (masked : List Char) : Decidable (ServerBounded limit masked) :=
  inferInstanceAs (Decidable ((∃ fetch ∈ topLevelHits fetchClause masked, _) ∨
    ∀ select ∈ topLevelHits (wholeWord "select") masked, ∃ own ∈ ownTop? masked select, _))

/-- A FETCH that fits. -/
def fittingFetch (limit : Int) : Pattern :=
  narrowed fetchClause fun text found => decide (FetchFits limit text (found.at 0))

theorem keyed_fittingFetch (limit : Int) : Keyed (fittingFetch limit) 'f' :=
  keyed_fetchClause.narrowed _

/-- A FETCH with its row count in a text fits however the text ends. -/
theorem fetchFits_congr {before : Option Char} {found : Match}
    (matched : fetchClause before (front ++ x) = some found)
    (matched' : fetchClause before (front ++ y) = some found) (inside : found.length ≤ front.length) :
    FetchFits limit (front ++ x) (found.at 0) ↔ FetchFits limit (front ++ y) (found.at 0) := by
  refine or_congr (exists_congr fun count => and_congr_right fun group => ?_) Iff.rfl
  rw [Match.group?_at, Option.mem_def] at group
  cases group' : found.groups[0]?.join with
  | none => simp [group'] at group
  | some span =>
      simp only [group', Option.map_some, Option.some.injEq] at group
      obtain ⟨run, stop⟩ := fetch_run_eq_slice matched group'
      obtain ⟨run', -⟩ := fetch_run_eq_slice matched' group'
      rw [← group, Span.shift, Nat.add_zero, run, run', Span.slice, Span.slice,
        List.take_append_of_le_length (by omega), List.take_append_of_le_length (by omega)]

theorem local_fittingFetch (limit : Int) : Local (fittingFetch limit) := by
  intro text x y ends edge edge' part isSuffix nonempty before
  obtain ⟨same, inside⟩ := within_fetchClause before nonempty ends (edge.of_suffix isSuffix)
    (edge'.of_suffix isSuffix)
  rw [fittingFetch, narrowed, narrowed]
  cases matched : fetchClause before (part ++ x) with
  | none =>
      rw [← same, matched]
      exact .inl (within_none part)
  | some found =>
      have fits : FetchFits limit (part ++ x) (found.at 0) ↔ FetchFits limit (part ++ y) (found.at 0) :=
        fetchFits_congr matched (same.symm.trans matched) (inside found matched)
      rw [← same, matched, Option.filter_some, Option.filter_some]
      simp only [fits]
      split_ifs
      · exact .inl ⟨rfl, fun other known => Option.some.inj known ▸ inside found matched⟩
      · exact .inl (within_none part)

/-- A text has a FETCH that fits if it is not clear of such. -/
theorem not_clear_fittingFetch_iff :
    ¬ Clear (fittingFetch limit) 0 none masked ↔
      ∃ fetch ∈ topLevelHits fetchClause masked, FetchFits limit masked fetch := by
  have clear : Clear (fittingFetch limit) 0 none masked ↔
      ∀ fetch ∈ topLevelHits fetchClause masked, ¬ FetchFits limit masked fetch :=
    solo_fetchClause.clear_narrowed_iff keyed_fetchClause fun front back found split _ => by
      rw [split, fetchFits_at_iff, decide_eq_false_iff_not]
  rw [clear]
  simp only [not_forall, not_not, exists_prop]

theorem serverBounded_iff :
    ServerBounded limit masked ↔
      ¬ Clear (fittingFetch limit) 0 none masked ∨ Clear (bareSelect limit) 0 none masked := by
  rw [ServerBounded, not_clear_fittingFetch_iff, clear_bareSelect_iff]

/-- Trailing text does not matter to whether a statement is bounded as a whole. -/
theorem serverBounded_append_trailing {tail : List Char} (trailing : IsTrailing tail)
    (masked : List Char) : ServerBounded limit (masked ++ tail) ↔ ServerBounded limit masked := by
  have fetches : Clear (fittingFetch limit) 0 none (masked ++ tail) ↔
      Clear (fittingFetch limit) 0 none masked := by
    rw [← lastTopLevel?_eq_none_iff (keyed_fittingFetch limit),
      ← lastTopLevel?_eq_none_iff (keyed_fittingFetch limit), lastTopLevel?, lastTopLevel?,
      topLevelHits_append_trailing (keyed_fittingFetch limit) (local_fittingFetch limit) _ trailing]
  rw [serverBounded_iff, serverBounded_iff, fetches, clear_bareSelect_append_trailing trailing]

/-- With a TOP in it a statement becomes bounded if it has a FETCH that fits, or if every SELECT has a TOP
of its own that fits or gets clamped: only the last one of all gets clamped. -/
def ClampCovers (limit : Int) (masked : List Char) (last : Hit) : Prop :=
  (∃ fetch ∈ topLevelHits fetchClause masked, FetchFits limit masked fetch) ∨
    ∀ select ∈ topLevelHits (wholeWord "select") masked, ∃ own ∈ ownTop? masked select,
      TopFits limit masked own ∨ own = last ∧ ¬ TopEscapes masked own

instance (limit : Int) (masked : List Char) (last : Hit) : Decidable (ClampCovers limit masked last) :=
  inferInstanceAs (Decidable ((∃ fetch ∈ topLevelHits fetchClause masked, _) ∨
    ∀ select ∈ topLevelHits (wholeWord "select") masked, ∃ own ∈ ownTop? masked select, _))

/-- Without a TOP in it a statement has a FETCH or gets one, unless it is the first page of a statement that
has no OFFSET either. The TOP that is written behind its first SELECT head bounds it if that is its only
SELECT, and nothing goes on with the count. -/
def WriteCovers (offset : Int) (masked : List Char) : Prop :=
  lastTopLevel? fetchClause masked ≠ none ∨ offset ≠ 0 ∨ lastTopLevel? offsetKeyword masked ≠ none ∨
    ∀ written ∈ firstTopLevel? selectHead masked, Stops isRunChar (masked.drop written.stop) ∧
      ∀ select ∈ topLevelHits (wholeWord "select") masked, select.start = written.start

instance (offset : Int) (masked : List Char) : Decidable (WriteCovers offset masked) :=
  inferInstanceAs (Decidable (_ ∨ _ ∨ _ ∨ ∀ written ∈ firstTopLevel? selectHead masked, _))

/-- A statement that its plan bounds as a whole. -/
def Covers (limit offset : Int) (masked : List Char) : Prop :=
  (∃ last ∈ lastTopLevel? topClause masked, ClampCovers limit masked last) ∨
    lastTopLevel? topClause masked = none ∧ WriteCovers offset masked

instance (limit offset : Int) (masked : List Char) : Decidable (Covers limit offset masked) :=
  inferInstanceAs (Decidable ((∃ last ∈ lastTopLevel? topClause masked, _) ∨ _))

/-! ### The last TOP is clamped

Every SELECT before the last TOP is looked at twice, in the statement and in the edited one. It has its own
TOP in both, or the one that is clamped. So the SELECTs without a fitting TOP after the edit are the
uncovered ones before it, and these are told by the clauses of the statement. -/

/-- A SELECT whose TOP neither fits nor is the one at the end of the text, which is exchanged. -/
def uncovered (limit : Int) (old new : List Char) : Pattern :=
  narrowed (wholeWord "select") fun text found =>
    !decide (FittingTop limit (topPlace (text.drop found.length)) ∨
      topPlace (text.drop found.length) = old ∧ FittingTop limit new)

theorem keyed_uncovered (limit : Int) (old new : List Char) : Keyed (uncovered limit old new) 's' :=
  keyed_selectWord.narrowed _

/-- Where no word can begin, a text is clear as it is behind any digit. -/
theorem clear_iff_of_not_begins {pattern : Pattern} {letter : Char} (keyed : Keyed pattern letter)
    {before : Option Char} (inside : wordBegins before = false) (depth : Nat) (text : List Char) :
    Clear pattern depth before text ↔ Clear pattern depth (some '0') text := by
  have digit : wordBegins (some '0') = false := by decide
  constructor
  · exact fun clear => clear.mono keyed fun begins => by rw [digit] at begins; cases begins
  · exact fun clear => clear.mono keyed fun begins => by rw [inside] at begins; cases begins

/-- Behind a TOP and its count a text is clear as it is behind any digit. -/
theorem TopHead.clear_iff {pattern : Pattern} {letter : Char} (keyed : Keyed pattern letter)
    (other : 't' ≠ letter) {opens : Bool} (isHead : TopHead opens head) (isRun : IsRun isDigit count)
    (depth : Nat) (before : Option Char) (rest : List Char) :
    Clear pattern depth before (head ++ (count ++ rest)) ↔
      Clear pattern (depthAfter depth head) (some '0') rest := by
  rw [clear_append, clear_append, depthAfter_of_isDigit isRun.2,
    clear_iff_of_not_begins keyed (wordBegins_of_isDigit isRun _),
    and_iff_right ((isHead.quiet keyed other _ _).clearThrough _),
    and_iff_right ((keyed.quiet_of_isDigit isRun.2 _ _).clearThrough _)]

section

variable {opens : Bool} {group : Option Span}

/-- The clamped TOP fits unless it escapes. -/
theorem TopAt.fittingTop_iff (top : TopAt opens masked front head count tail after group)
    (nonneg : 0 ≤ limit) {hit : Hit} (found : lastTopLevel? topClause masked = some hit) :
    FittingTop limit (head ++ (clampCount limit count ++ (tail ++ after))) ↔ ¬ TopEscapes masked hit := by
  have here := (lastTopLevel?_eq_some_iff keyed_topClause).2 ⟨front, _, _, top.split, top.last, rfl⟩
  rw [found, Option.some.injEq] at here
  rw [top.isHead.fittingTop_iff (isCount_clampCount nonneg count) top.stops top.closes, here, top.split,
    top.isHead.topEscapes_iff top.isCount, not_not, and_iff_right (fits_clampCount nonneg count)]

/-- A SELECT before the last TOP is covered exactly if its TOP fits when the last one is clamped. -/
theorem TopAt.covered_iff (top : TopAt opens masked front head count tail after group)
    (nonneg : 0 ≤ limit) {part : List Char} (isSuffix : part <:+ front) :
    (FittingTop limit (topPlace (part ++ (head ++ (count ++ (tail ++ after))))) ∨
        topPlace (part ++ (head ++ (count ++ (tail ++ after)))) = head ++ (count ++ (tail ++ after)) ∧
          FittingTop limit (head ++ (clampCount limit count ++ (tail ++ after)))) ↔
      FittingTop limit (topPlace (part ++ (head ++ (clampCount limit count ++ (tail ++ after))))) := by
  have begins := top.last.begins keyed_topClause
  have ends := top.isHead.interchangeable (count ++ (tail ++ after))
    (clampCount limit count ++ (tail ++ after))
  have stops : ∀ rest, Stops isBlank (head ++ rest) := by
    intro rest
    obtain ⟨key, more, rfl, spelled⟩ := top.isHead.exists_key
    obtain ⟨c, key, rfl, is_word⟩ := isWord_of_key spelled (by decide)
    exact isBlank_eq_false_of_isWord is_word
  have edge : ∀ x, Edge part x := fun x => (edge_of_wordBegins begins x).of_suffix isSuffix
  rw [topPlace_append_of_stops (edge _) (stops _) ends.inert,
    topPlace_append_of_stops (edge _) (stops _) ends.inert']
  have inner := (topPlace_suffix part).trans isSuffix
  generalize topPlace part = place at inner
  by_cases none_left : place = []
  · rw [none_left, List.nil_append, List.nil_append, and_iff_right rfl]
    refine or_iff_right_of_imp fun fits => ?_
    rw [top.isHead.fittingTop_iff top.isCount top.stops top.closes] at fits
    rw [top.isHead.fittingTop_iff (isCount_clampCount nonneg count) top.stops top.closes]
    exact ⟨fits.1, fits_clampCount nonneg count, fits.2.2⟩
  · have edge' : ∀ x, Edge place x := fun x => (edge_of_wordBegins begins x).of_suffix inner
    have apart : wordBegins (lastBefore none place) = true := by
      obtain ⟨early, rfl⟩ := inner
      rw [lastBefore_append, lastBefore_eq_getLast _ none_left] at begins
      rwa [lastBefore_eq_getLast _ none_left]
    rw [or_iff_left fun same => none_left (List.append_left_eq_self.1 same.1)]
    exact ⟨fun fits => fits.exchange none_left ends (edge' _) (edge' _) (.inl apart),
      fun fits => fits.exchange none_left ⟨ends.inert', ends.inert, ends.behind', ends.behind,
        ends.stops.symm⟩ (edge' _) (edge' _) (.inl apart)⟩

/-- When the last TOP is clamped, the SELECTs without a TOP that fits are the uncovered ones. -/
theorem TopAt.clear_uncovered_iff (top : TopAt opens masked front head count tail after group)
    (nonneg : 0 ≤ limit) :
    Clear (uncovered limit (head ++ (count ++ (tail ++ after)))
        (head ++ (clampCount limit count ++ (tail ++ after)))) 0 none masked ↔
      Clear (bareSelect limit) 0 none
        (front ++ (head ++ (clampCount limit count ++ (tail ++ after)))) := by
  have begins := top.last.begins keyed_topClause
  have isRun : IsRun isDigit (clampCount limit count) := isCount_clampCount nonneg count
  rw [top.split, clear_append 0 none front, clear_append 0 none front,
    top.isHead.clear_iff (keyed_uncovered _ _ _) (by decide) top.isCount,
    top.isHead.clear_iff (keyed_bareSelect _) (by decide) isRun]
  refine and_congr (clearThrough_exchange (fun part isSuffix nonempty before => ?_) 0 none)
    (clearThrough_exchange (fun part isSuffix nonempty before => ?_) _ _)
  · have within := @within_wholeWord _ _ _ "select" (by decide) before nonempty
      ((edge_of_wordBegins begins (head ++ (count ++ (tail ++ after)))).of_suffix isSuffix)
      ((edge_of_wordBegins begins (head ++ (clampCount limit count ++ (tail ++ after)))).of_suffix isSuffix)
    rw [uncovered, bareSelect, narrowed_eq_none_iff, narrowed_eq_none_iff, ← within.1]
    refine forall_congr' fun found => imp_congr_right fun matched => ?_
    have inside := within.2 found matched
    rw [List.drop_append_of_le_length inside, List.drop_append_of_le_length inside, Bool.not_eq_false',
      Bool.not_eq_false', decide_eq_true_iff, decide_eq_true_iff]
    exact top.covered_iff nonneg ((List.drop_suffix _ _).trans isSuffix)
  · rw [uncovered, bareSelect, narrowed_eq_none_iff, narrowed_eq_none_iff]
    refine forall_congr' fun found => imp_congr_right fun _ => ?_
    rw [Bool.not_eq_false', Bool.not_eq_false', decide_eq_true_iff, decide_eq_true_iff]
    refine or_iff_left fun same => ?_
    -- A SELECT behind the last TOP has a shorter text behind it.
    have le := (topPlace_suffix ((part ++ []).drop found.length)).length_le
    have le' := isSuffix.length_le
    have some_count := List.length_pos_iff.2 top.isCount.1
    rw [same.1] at le
    simp only [List.length_append, List.length_drop, List.append_nil] at le le'
    omega

/-- A SELECT of the statement is covered if its TOP fits, or is the last one and does not escape. -/
theorem TopAt.covers_iff (top : TopAt opens masked front head count tail after group)
    (nonneg : 0 ≤ limit) {hit : Hit} (found : lastTopLevel? topClause masked = some hit) :
    Clear (uncovered limit (head ++ (count ++ (tail ++ after)))
        (head ++ (clampCount limit count ++ (tail ++ after)))) 0 none masked ↔
      ∀ select ∈ topLevelHits (wholeWord "select") masked, ∃ own ∈ ownTop? masked select,
        TopFits limit masked own ∨ own = hit ∧ ¬ TopEscapes masked own := by
  refine solo_selectWord.clear_narrowed_iff keyed_selectWord fun before back select split _ => ?_
  have escapes := top.fittingTop_iff nonneg found
  have here := (lastTopLevel?_eq_some_iff keyed_topClause).2 ⟨front, _, _, top.split, top.last, rfl⟩
  rw [found, Option.some.injEq] at here
  have matched := top.last.matched
  rw [@Keyed.context _ _ keyed_topClause _ none _ (top.last.begins keyed_topClause)] at matched
  obtain ⟨early, whole, own⟩ := ownTop?_at before back select
  rw [split, own, Bool.not_eq_false', decide_eq_true_iff, escapes, ← split]
  simp only [Option.mem_def, Option.map_eq_some_iff]
  rw [← split] at whole
  generalize topPlace (back.drop select.length) = place at whole
  constructor
  · rintro (⟨other, other_matched, fits⟩ | ⟨rfl, kept⟩)
    · refine ⟨_, ⟨other, other_matched, rfl⟩, .inl ?_⟩
      rw [whole]
      exact topFits_at_iff.2 fits
    · obtain rfl : front = early := List.append_cancel_right (top.split.symm.trans whole)
      exact ⟨_, ⟨_, matched, rfl⟩, .inr ⟨here.symm, here ▸ kept⟩⟩
  · rintro ⟨_, ⟨other, other_matched, rfl⟩, fits | ⟨same, kept⟩⟩
    · refine .inl ⟨other, other_matched, ?_⟩
      rw [whole] at fits
      exact topFits_at_iff.1 fits
    · rw [same] at kept
      rw [here] at same
      have size : early.length = front.length := congrArg Hit.start same
      exact .inr ⟨(List.append_inj (whole.symm.trans top.split) size).2, kept⟩

end

/-- A statement with a TOP is bounded by its plan exactly if clamping it covers every SELECT. -/
theorem planSqlServer_serverBounded_iff_of_top {hit : Hit} (nonneg : 0 ≤ limit)
    (found : lastTopLevel? topClause masked = some hit) :
    ServerBounded limit (Edit.applyAll (planSqlServer limit offset masked) masked) ↔
      ClampCovers limit masked hit := by
  obtain ⟨opens, front, head, count, tail, after, group, top⟩ := exists_topAt found
  obtain ⟨hit', found', planned⟩ := planTop_of_last limit top.last top.split
  rw [found', Option.some.injEq] at found
  subst found
  have isRun : IsRun isDigit (clampCount limit count) := isCount_clampCount nonneg count
  have begins := top.last.begins keyed_topClause
  have written := Edit.applyAll_single (front ++ head) count (tail ++ after) (clampCount limit count)
  rw [← top.split_left, List.append_assoc] at written
  have fetches : Clear (fittingFetch limit) 0 none
      (front ++ (head ++ (clampCount limit count ++ (tail ++ after)))) ↔
      Clear (fittingFetch limit) 0 none masked := by
    rw [top.split]
    exact ⟨top.isHead.clear_exchange (keyed_fittingFetch limit) (local_fittingFetch limit) (by decide) begins
        isRun top.isCount,
      top.isHead.clear_exchange (keyed_fittingFetch limit) (local_fittingFetch limit) (by decide) begins
        top.isCount isRun⟩
  rw [planSqlServer_of_top found', planned, written, serverBounded_iff, fetches, not_clear_fittingFetch_iff,
    ← top.clear_uncovered_iff nonneg, top.covers_iff nonneg found', ClampCovers]

/-- A FETCH outside of all parentheses whose count fits bounds a statement as a whole. -/
theorem serverBounded_of_count {back : List Char} {span : Span} {size : Nat} (depth : depthAfter 0 front = 0)
    (matched : fetchClause (lastBefore none front) back = some ⟨size, [some span]⟩)
    (fits : Fits limit (span.slice back)) : ServerBounded limit (front ++ back) := by
  refine .inl ⟨_, (solo_fetchClause.mem_topLevelHits_iff keyed_fetchClause).2
    ⟨front, back, _, rfl, depth, matched, rfl⟩, fetchFits_at_iff.2 (.inl ⟨_, rfl, ?_⟩)⟩
  obtain ⟨run, -⟩ := fetch_run_eq_slice matched rfl
  simp only [Span.shift, Nat.add_zero, run]
  exact fits

/-- A statement with a FETCH and no TOP is bounded by its plan. -/
theorem planSqlServer_serverBounded_of_fetch {hit : Hit} (positive : 1 ≤ limit)
    (no_top : lastTopLevel? topClause masked = none) (found : lastTopLevel? fetchClause masked = some hit) :
    ServerBounded limit (Edit.applyAll (planSqlServer limit offset masked) masked) := by
  have nonneg : 0 ≤ limit := by omega
  rw [planSqlServer_of_fetch no_top found]
  rcases fetch_cases found with ⟨front, head, count, tail, after, fetch⟩ |
    ⟨front, head, tail, size, row⟩
  · have isRun : IsRun isDigit (clampCount limit count) := isCount_clampCount nonneg count
    obtain ⟨hit', found', -, planned⟩ := planFetch_of_last limit fetch.last fetch.split
    rw [found', Option.some.injEq] at found
    subst found
    have last := fetchLast_exchange fetch.last fetch.isHead isRun fetch.stops fetch.closes fetch.some_tail
      fetch.isCount
    have written := Edit.applyAll_single (front ++ head) count (tail ++ after) (clampCount limit count)
    rw [List.append_assoc, ← fetch.split, List.append_assoc] at written
    rw [planned, written]
    refine serverBounded_of_count last.depth last.matched ?_
    rw [slice_append]
    exact fits_clampCount nonneg count
  · rw [row.found, Option.some.injEq] at found
    rw [← found, planFetch_row]
    refine .inl ⟨_, (solo_fetchClause.mem_topLevelHits_iff keyed_fetchClause).2
      ⟨front, _, _, row.split, row.last.depth, row.last.matched, rfl⟩, .inr ⟨rfl, positive⟩⟩

/-- A later page of a statement with neither a TOP nor a FETCH is bounded by its plan. -/
theorem planSqlServer_serverBounded_of_tail (nonneg : 0 ≤ limit) (offset_nonneg : 0 ≤ offset)
    (depth : depthAfter 0 masked = 0) (no_top : Clear topClause 0 none masked)
    (no_fetch : Clear fetchClause 0 none masked)
    (later : ¬ (offset = 0 ∧ Clear offsetKeyword 0 none masked)) :
    ServerBounded limit (Edit.applyAll (planSqlServer limit offset masked) masked) := by
  have isRun : IsRun isDigit (numeral limit) := isCount_numeral nonneg
  have lead : " FETCH NEXT ".toList = [' '] ++ "FETCH NEXT ".toList := by decide
  have written := Edit.applyAll_insertAt masked (fetchTail limit offset (Clauses.ofMask masked)) []
  have matched : fetchClause (some ' ') ("FETCH NEXT ".toList ++ (numeral limit ++ " ROWS ONLY".toList)) =
      some ⟨_, [some ⟨"FETCH NEXT ".toList.length, "FETCH NEXT ".toList.length + (numeral limit).length⟩]⟩ :=
    fetchClause_eq_some_iff.2 ⟨by decide, _, _, fetchHead_written, rfl,
      .inl ⟨_, _, " ONLY".toList, rfl, isRun, (by decide : isDigit ' ' = false), by decide, rfl⟩⟩
  rw [List.append_nil, List.append_nil] at written
  rw [planSqlServer_of_tail no_top no_fetch later, written, fetchTail_eq, lead, List.append_assoc,
    List.append_assoc, ← List.append_assoc masked, ← List.append_assoc _ [' ']]
  refine serverBounded_of_count ?_ (by rw [lastBefore_append]; exact matched) ?_
  · rw [depthAfter_append, depthAfter_append, depth, serverTail_flat offset_nonneg]
    rfl
  · rw [slice_append]
    exact fits_numeral nonneg

/-! ### A TOP is written

The TOP goes behind the first SELECT head, whose SELECT has it for its own. No SELECT stands before that
head, and there is no further TOP in the statement, so that any other SELECT is one too many. -/

/-- A text that is clear of SELECT heads has no SELECT. -/
theorem ClearThrough.of_selectHead {depth : Nat} {before : Option Char} {text after : List Char}
    (clear : ClearThrough selectHead depth before text after) :
    ClearThrough (wholeWord "select") depth before text after :=
  clear.mono fun before text none => by
    cases matched : wholeWord "select" before text with
    | none => rfl
    | some found =>
        obtain ⟨begins, key, rest, spelled, rfl, -⟩ := wholeWord_eq_some_iff.1 matched
        have read : keyword? "select".toList (key ++ rest) = some rest :=
          keyword?_eq_some_iff.2 ⟨key, spelled, rfl⟩
        rw [selectHead, if_pos begins, read] at none
        cases more : (blanks1? rest).bind distinctOrAll? <;> simp [more] at none

/-- A statement split at its first SELECT head. -/
structure HeadAt (masked front key more rest : List Char) : Prop where
  split : masked = front ++ (key ++ (more ++ rest))
  depth : depthAfter 0 front = 0
  begins : wordBegins (lastBefore none front) = true
  spelled : key.map foldKeyword = ['s', 'e', 'l', 'e', 'c', 't']
  shape : SelectRest more
  first : ClearThrough selectHead 0 none front (key ++ (more ++ rest))

theorem exists_headAt {hit : Hit} (found : firstTopLevel? selectHead masked = some hit) :
    ∃ front c key more rest, HeadAt masked front (c :: key) more rest ∧ hit.start = front.length ∧
      hit.stop = (front ++ (c :: key ++ more)).length := by
  have first := fun other member => @start_ge_of_first masked selectHead other hit member found
  obtain ⟨front, back, found, rfl, depth, matched, rfl⟩ :=
    exists_split_of_firstTopLevel? found keyed_selectHead
  obtain ⟨begins, key, more, rest, spelled, shape, rfl, rfl⟩ := selectHead_eq_some matched
  obtain ⟨c, key, rfl, -⟩ := exists_cons_of_map spelled
  refine ⟨front, c, key, more, rest, ⟨rfl, depth, begins, spelled, shape,
    (solo_selectHead.clearThrough_iff keyed_selectHead).2 first⟩, rfl, ?_⟩
  rw [Match.at, List.length_append, List.length_append]

/-- With a TOP behind it the keyword of a SELECT head is a word by itself. -/
theorem SelectRest.wordEnds_written (shape : SelectRest more) (rest : List Char) :
    wordEnds (more ++ (" TOP ".toList ++ rest)) = true := by
  rcases shape with rfl | ⟨gap, word, rfl, isRun, -⟩
  · exact (by decide : (!isWord ' ') = true)
  · obtain ⟨d, gap, rfl⟩ := List.exists_cons_of_ne_nil isRun.1
    simp [wordEnds, isWord_eq_false_of_isBlank (isRun.2 d (by simp))]

theorem HeadAt.depthStep {c : Char} (head : HeadAt masked front (c :: key) more rest) :
    depthStep 0 c = 0 :=
  depthAfter_of_isWord (fun d member => isWord_of_mem_key head.spelled (by decide)
    (List.mem_cons.2 (.inl (List.mem_singleton.1 member)))) 0

/-- In front of a SELECT head a text is clear whatever comes behind its keyword. -/
theorem HeadAt.clearThrough_front (head : HeadAt masked front key more rest) {pattern : Pattern}
    (reads : Local pattern) (clear : ClearThrough pattern 0 none front (key ++ x)) (y : List Char) :
    ClearThrough pattern 0 none front (key ++ y) :=
  (clearThrough_congr (reads (interchangeable_of_keys head.spelled (by decide) head.spelled (by decide) x y)
    (edge_of_wordBegins head.begins _) (edge_of_wordBegins head.begins _)) 0 none).1 clear

/-- Behind a SELECT head a text is clear as it is behind any digit. -/
theorem HeadAt.clear_behind_iff {c : Char} (head : HeadAt masked front (c :: key) more rest)
    {pattern : Pattern} {letter : Char} (keyed : Keyed pattern letter) (distinct : 'd' ≠ letter)
    (all : 'a' ≠ letter) (x : List Char) :
    Clear pattern 0 (some c) (key ++ (more ++ x)) ↔ Clear pattern 0 (some '0') x := by
  have words : ∀ d ∈ c :: key, isWord d = true := fun d => isWord_of_mem_key head.spelled (by decide)
  have inner : ∀ d ∈ key, isWord d = true := fun d member => words d (by simp [member])
  have inside : wordBegins (some c) = false := by simp [wordBegins, words c (by simp)]
  have ends : wordBegins (lastBefore (lastBefore (some c) key) more) = false := by
    rcases head.shape with rfl | ⟨gap, word, rfl, -, fold⟩
    · exact wordBegins_of_isWord (List.cons_ne_nil c key) words none
    · rw [lastBefore_append]
      refine wordBegins_of_isWord ?_ (fun d member => ?_) _
      · rintro rfl
        exact absurd fold (by decide)
      · rcases fold with fold | fold
        · exact isWord_of_mem_key fold (by decide) member
        · exact isWord_of_mem_key fold (by decide) member
  rw [clear_append, clear_append, depthAfter_of_isWord inner, head.shape.depthAfter,
    and_iff_right ((keyed.quiet_of_isWord inside inner _).clearThrough _),
    and_iff_right ((head.shape.quiet keyed distinct all _ _).clearThrough _),
    clear_iff_of_not_begins keyed ends]

/-- A text with a SELECT head is clear in front of the head, at its keyword, and behind it. -/
theorem HeadAt.clear_iff {c : Char} (head : HeadAt masked front (c :: key) more rest)
    {pattern : Pattern} {letter : Char} (keyed : Keyed pattern letter) (distinct : 'd' ≠ letter)
    (all : 'a' ≠ letter) (x : List Char) :
    Clear pattern 0 none (front ++ (c :: key ++ (more ++ x))) ↔
      ClearThrough pattern 0 none front (c :: key ++ (more ++ x)) ∧
        pattern (lastBefore none front) (c :: key ++ (more ++ x)) = none ∧
          Clear pattern 0 (some '0') x := by
  rw [clear_append, head.depth, List.cons_append, clear_cons, head.depthStep, forall_prop_of_true (Eq.refl 0),
    head.clear_behind_iff keyed distinct all]

/-- Behind a TOP that was written a text is clear as it is behind any digit. -/
theorem clear_written_iff {pattern : Pattern} {letter : Char} (keyed : Keyed pattern letter)
    (other : 't' ≠ letter) (nonneg : 0 ≤ limit) (before : Option Char) (rest : List Char) :
    Clear pattern 0 before (" TOP ".toList ++ (numeral limit ++ rest)) ↔ Clear pattern 0 (some '0') rest := by
  have lead : " TOP ".toList = [' '] ++ "TOP ".toList := by decide
  have isRun : IsRun isDigit (numeral limit) := isCount_numeral nonneg
  rw [lead, List.append_assoc, clear_append,
    and_iff_right ((keyed.quiet_of_isBlank isRun_space.2 _ _).clearThrough _),
    topHead_written.clear_iff keyed other isRun]
  rfl

/-- The SELECT of the first head is the only one if none follows. -/
theorem HeadAt.only_select_iff {c : Char} (head : HeadAt masked front (c :: key) more rest) :
    (∀ select ∈ topLevelHits (wholeWord "select") masked, select.start = front.length) ↔
      Clear (wholeWord "select") 0 (some '0') rest := by
  have before := (solo_selectWord.clearThrough_iff keyed_selectWord).1 head.first.of_selectHead
  have behind := @Solo.clear_iff _ _ solo_selectWord keyed_selectWord (front ++ [c]) (key ++ (more ++ rest))
  have flat : depthAfter 0 (front ++ [c]) = 0 := by
    rw [depthAfter_append, head.depth]
    exact head.depthStep
  have whole : (front ++ [c]) ++ (key ++ (more ++ rest)) = masked := by
    rw [head.split]
    simp
  rw [whole, flat, lastBefore_append, List.length_append] at behind
  rw [← head.split] at before
  rw [← head.clear_behind_iff keyed_selectWord (by decide) (by decide)]
  refine Iff.trans (forall₂_congr fun select member => ?_) behind.symm
  have := before select member
  simp only [List.length_singleton]
  omega

/-- Where the TOP is written, the SELECT before it has it for its own, which fits if nothing goes on with
its count. -/
theorem HeadAt.bareSelect_eq_none_iff (head : HeadAt masked front key more rest) (positive : 1 ≤ limit) :
    bareSelect limit (lastBefore none front)
        (key ++ (more ++ (" TOP ".toList ++ (numeral limit ++ rest)))) = none ↔ Stops isRunChar rest := by
  have spelled : key.map foldKeyword = "select".toList := head.spelled
  have size : key.length = "select".toList.length := by rw [← spelled, List.length_map]
  have matched := wholeWord_eq_some_iff.2 ⟨head.begins, key, _, spelled, rfl,
    head.shape.wordEnds_written (numeral limit ++ rest), rfl⟩
  rw [bareSelect, narrowed, matched, Option.filter_some, ← size, List.drop_left, head.shape.topPlace_written,
    ← fittingTop_written_iff positive]
  split_ifs with bare
  · simpa using bare
  · simpa using bare

/-- With a TOP behind its first head a statement that has no other one is bounded if nothing goes on with
its count and no other SELECT follows. -/
theorem HeadAt.clear_bareSelect_iff {c : Char} (head : HeadAt masked front (c :: key) more rest)
    (positive : 1 ≤ limit) (no_top : Clear topClause 0 none masked) :
    Clear (bareSelect limit) 0 none
        (front ++ (c :: key ++ (more ++ (" TOP ".toList ++ (numeral limit ++ rest))))) ↔
      Stops isRunChar rest ∧ Clear (wholeWord "select") 0 (some '0') rest := by
  have nonneg : 0 ≤ limit := by omega
  have front_clear : ClearThrough (bareSelect limit) 0 none front
      (c :: key ++ (more ++ (" TOP ".toList ++ (numeral limit ++ rest)))) :=
    (head.clearThrough_front (local_wholeWord (by decide)) head.first.of_selectHead _).narrowed _
  rw [head.split, head.clear_iff keyed_topClause (by decide) (by decide)] at no_top
  rw [head.clear_iff (keyed_bareSelect limit) (by decide) (by decide), and_iff_right front_clear,
    head.bareSelect_eq_none_iff positive, clear_written_iff (keyed_bareSelect limit) (by decide) nonneg,
    clear_bareSelect_iff_of_no_top no_top.2.2]

/-- No keyword with another letter comes in with the TOP. -/
theorem HeadAt.clear_written {c : Char} (head : HeadAt masked front (c :: key) more rest) {pattern : Pattern}
    {letter : Char} (keyed : Keyed pattern letter) (reads : Local pattern) (select : 's' ≠ letter)
    (distinct : 'd' ≠ letter) (all : 'a' ≠ letter) (top : 't' ≠ letter) (nonneg : 0 ≤ limit)
    (clear : Clear pattern 0 none masked) :
    Clear pattern 0 none
      (front ++ (c :: key ++ (more ++ (" TOP ".toList ++ (numeral limit ++ rest))))) := by
  have silent : ∀ x, pattern (lastBefore none front) (c :: key ++ x) = none := fun x =>
    (@Keyed.quiet_key _ _ keyed _ _ _ head.spelled (by decide) select _ x).1
  rw [head.split, head.clear_iff keyed distinct all] at clear
  rw [head.clear_iff keyed distinct all, clear_written_iff keyed top nonneg]
  exact ⟨head.clearThrough_front reads clear.1 _, silent _, clear.2.2⟩

/-- The first page of a statement with none of the clauses is bounded by its plan exactly if its first
SELECT head is its only SELECT and nothing goes on with the count that is written there. -/
theorem planSqlServer_serverBounded_iff_of_head {hit : Hit} (positive : 1 ≤ limit)
    (no_top : Clear topClause 0 none masked) (no_fetch : Clear fetchClause 0 none masked)
    (no_offset : Clear offsetKeyword 0 none masked) (found : firstTopLevel? selectHead masked = some hit) :
    ServerBounded limit (Edit.applyAll (planSqlServer limit 0 masked) masked) ↔
      Stops isRunChar (masked.drop hit.stop) ∧
        ∀ select ∈ topLevelHits (wholeWord "select") masked, select.start = hit.start := by
  obtain ⟨front, c, key, more, rest, head, start, stop⟩ := exists_headAt found
  have split : masked = (front ++ (c :: key ++ more)) ++ rest := by
    rw [head.split]
    simp
  have written := Edit.applyAll_insertAt (front ++ (c :: key ++ more)) (" TOP ".toList ++ numeral limit) rest
  rw [← split, List.append_assoc, List.append_assoc, List.append_assoc] at written
  have no_fit : Clear (fittingFetch limit) 0 none _ :=
    (head.clear_written keyed_fetchClause local_fetchClause (by decide) (by decide) (by decide) (by decide)
      (by omega : 0 ≤ limit) no_fetch).narrowed _
  rw [planSqlServer_of_head limit no_top no_fetch no_offset found, stop, written, serverBounded_iff,
    or_iff_right (not_not.2 no_fit), head.clear_bareSelect_iff positive no_top, start,
    head.only_select_iff, split, List.drop_left]

/-- A statement without a SELECT head has no SELECT that is to be bounded. -/
theorem serverBounded_of_no_head (none : firstTopLevel? selectHead masked = none) :
    ServerBounded limit masked := by
  have no_head : Clear selectHead 0 .none masked := by
    rw [← lastTopLevel?_eq_none_iff keyed_selectHead, lastTopLevel?, List.head?_eq_none_iff.1 none]
    rfl
  exact serverBounded_iff.2 (.inr (no_head.of_selectHead.narrowed _))

/-! ### All statements

A statement with a TOP has it clamped, one with a FETCH gets that clamped, a later page gets a FETCH, and a
first page a TOP behind its first SELECT head, if it has one. Only the clamped and the written TOP leave
anything to ask. -/

/-- A plan bounds a statement as a whole exactly if it covers its SELECTs. -/
theorem planSqlServer_serverBounded_iff (positive : 1 ≤ limit) (offset_nonneg : 0 ≤ offset)
    (depth : depthAfter 0 masked = 0) :
    ServerBounded limit (Edit.applyAll (planSqlServer limit offset masked) masked) ↔
      Covers limit offset masked := by
  have nonneg : 0 ≤ limit := by omega
  rw [Covers]
  cases top : lastTopLevel? topClause masked with
  | some hit =>
      rw [planSqlServer_serverBounded_iff_of_top nonneg top]
      simp only [Option.mem_some_iff, exists_eq_left', reduceCtorEq, false_and, or_false]
  | none =>
      have no_top := (lastTopLevel?_eq_none_iff keyed_topClause).1 top
      simp only [Option.mem_def, reduceCtorEq, false_and, exists_false, true_and, false_or]
      rw [WriteCovers]
      cases fetch : lastTopLevel? fetchClause masked with
      | some hit =>
          exact iff_of_true (planSqlServer_serverBounded_of_fetch positive top fetch) (.inl nofun)
      | none =>
          have no_fetch := (lastTopLevel?_eq_none_iff keyed_fetchClause).1 fetch
          by_cases first_page : offset = 0 ∧ Clear offsetKeyword 0 none masked
          · obtain ⟨rfl, no_offset⟩ := first_page
            rw [(lastTopLevel?_eq_none_iff keyed_offsetKeyword).2 no_offset]
            simp only [ne_eq, not_true_eq_false, false_or]
            cases head : firstTopLevel? selectHead masked with
            | some hit =>
                rw [planSqlServer_serverBounded_iff_of_head positive no_top no_fetch no_offset head]
                simp only [Option.mem_some_iff, forall_eq']
            | none =>
                rw [planSqlServer_of_no_head limit no_top no_fetch no_offset head]
                exact iff_of_true (serverBounded_of_no_head head) nofun
          · refine iff_of_true (planSqlServer_serverBounded_of_tail nonneg offset_nonneg depth no_top no_fetch
              first_page) (.inr ?_)
            rw [← lastTopLevel?_eq_none_iff keyed_offsetKeyword] at first_page
            exact (not_and_or.1 first_page).imp_right .inl

/-- A rewritten query is bounded as a whole in SQL Server exactly if its plan covers its SELECTs. -/
theorem paginate_serverBounded_iff (policy : PagePolicy) (limit offset : Option Int) {sql : String}
    (closed : LexicallyClosed (Lexis.ofDialect .sqlserver) sql.toList)
    (touched : ¬ Untouched .sqlserver sql.toList) :
    ServerBounded (paginate .sqlserver policy limit offset sql).directive.limit
        ((Lexis.ofDialect .sqlserver).mask (paginate .sqlserver policy limit offset sql).sql.toList) ↔
      Covers (policy.clamp limit) (directiveOf policy limit offset).offset
        (statementMask (Lexis.ofDialect .sqlserver) sql.toList) := by
  have positive := one_le_clamp policy limit
  have offset_nonneg := directiveOf_offset_nonneg policy limit offset
  obtain ⟨statement, tail, blanks, split, dash, mask, blank⟩ := mask_boundText_of_untagged (by decide)
    closed.closes (Int.le_of_lt positive) offset_nonneg touched
  have trailing : IsTrailing tail := ⟨[], nofun, by simpa using dash⟩
  have covers := planSqlServer_serverBounded_iff positive offset_nonneg closed.depth
  rw [paginate, String.toList_ofList]
  change ServerBounded (policy.clamp limit) ((Lexis.ofDialect .sqlserver).mask
    (boundText .sqlserver (policy.clamp limit) (directiveOf policy limit offset).offset sql.toList)) ↔ _
  rw [mask, serverBounded_append_trailing ⟨blanks, blank, .inl rfl⟩, ← serverBounded_append_trailing trailing,
    ← split, ← covers]
  rfl

/-- A later page of two SELECTs, with a parenthesis in a literal and a comment at the end. -/
theorem paginate_serverBounded_iff_of_union :
    (LexicallyClosed (Lexis.ofDialect .sqlserver)
        "SELECT a FROM t UNION SELECT ')' FROM u -- rest".toList ∧
      ¬ Untouched .sqlserver "SELECT a FROM t UNION SELECT ')' FROM u -- rest".toList) ∧
    ServerBounded 10 ((Lexis.ofDialect .sqlserver).mask (paginate .sqlserver .standard (some 10) (some 20)
      "SELECT a FROM t UNION SELECT ')' FROM u -- rest").sql.toList) := by
  have closed : LexicallyClosed (Lexis.ofDialect .sqlserver)
      "SELECT a FROM t UNION SELECT ')' FROM u -- rest".toList :=
    ⟨by decide +kernel, by decide +kernel⟩
  have touched : ¬ Untouched .sqlserver "SELECT a FROM t UNION SELECT ')' FROM u -- rest".toList := by
    decide +kernel
  exact ⟨⟨closed, touched⟩,
    (paginate_serverBounded_iff .standard (some 10) (some 20) closed touched).2 (by decide +kernel)⟩

/-- Of two SELECTs only the first one gets a TOP on a first page. -/
theorem paginate_union_not_serverBounded :
    LexicallyClosed (Lexis.ofDialect .sqlserver) "SELECT a FROM t UNION SELECT b FROM u".toList ∧
      paginate .sqlserver .standard (some 10) (some 0) "SELECT a FROM t UNION SELECT b FROM u" =
        ⟨"SELECT TOP 10 a FROM t UNION SELECT b FROM u", ⟨10, 0, true⟩⟩ ∧
      ¬ ServerBounded 10 ((Lexis.ofDialect .sqlserver).mask
        (paginate .sqlserver .standard (some 10) (some 0)
          "SELECT a FROM t UNION SELECT b FROM u").sql.toList) :=
  ⟨⟨by decide +kernel, by decide +kernel⟩, by decide +kernel, by decide +kernel⟩

end QueryDesk.Sql
