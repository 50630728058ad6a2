/-
Module: QueryDesk.Proofs.Page.Bounded
Purpose: A rewritten query is bounded in the dialects that have LIMIT: its last LIMIT or FETCH, or the TOP
  that stands in the place of one, has a numeral that is at most the limit. Statements are left out
  whose count goes on behind what the clause takes for it, and those with a greater FETCH behind a LIMIT.
Imports: QueryDesk.Proofs.Page.Effect, QueryDesk.Proofs.Page.RowCount, QueryDesk.Proofs.Page.Stability
Main exports: TopFits, IsPaged, Escapes, planLimit_isPaged, paginate_isPaged
-/
import QueryDesk.Proofs.Page.Effect
import QueryDesk.Proofs.Page.RowCount
import QueryDesk.Proofs.Page.Stability

namespace QueryDesk.Sql

open QueryDesk.Text

variable {limit offset : Int} {masked front head count rest : List Char}

instance (kind : Char → Bool) : (text : List Char) → Decidable (Stops kind text)
  | [] => .isTrue trivial
  | c :: _ => inferInstanceAs (Decidable (kind c = false))

/-- A TOP whose keyword is a word by itself. -/
def TopApart (masked : List Char) (top : Hit) : Prop :=
  Stops isWord (masked.drop (top.start + 3))

instance (masked : List Char) (top : Hit) : Decidable (TopApart masked top) :=
  inferInstanceAs (Decidable (Stops _ _))

/-- A TOP, by itself a word, whose row count is a numeral not above the limit. -/
def TopFits (limit : Int) (masked : List Char) (top : Hit) : Prop :=
  TopApart masked top ∧
    ∃ count ∈ top.group? 1, Fits limit ((masked.drop count.start).takeWhile isRunChar)

instance (limit : Int) (masked : List Char) (top : Hit) : Decidable (TopFits limit masked top) :=
  inferInstanceAs (Decidable (_ ∧ ∃ count ∈ top.group? 1, _))

/-- A statement that is bounded by its last LIMIT or FETCH, or, without a LIMIT, by its last TOP. -/
def IsPaged (limit : Int) (masked : List Char) : Prop :=
  IsBounded limit masked ∨
    lastTopLevel? limitClause masked = none ∧
      ∃ top ∈ lastTopLevel? topClause masked, TopFits limit masked top

instance (limit : Int) (masked : List Char) : Decidable (IsPaged limit masked) :=
  inferInstanceAs (Decidable (_ ∨ _ ∧ ∃ top ∈ lastTopLevel? topClause masked, _))

/-- The last FETCH, if it begins behind a place. -/
def fetchBehind? (masked : List Char) (place : Nat) : Option Hit :=
  (lastTopLevel? fetchClause masked).filter fun fetch => place < fetch.start

/-- What stands behind a clamped count leaves a row count that fits: a second run that does, or nothing
that the run of the count goes on with. -/
def CountEnds (limit : Int) (rest : List Char) : Prop :=
  (∃ run ∈ secondRun? rest, Fits limit run) ∨ secondRun? rest = none ∧ Stops isRunChar rest

instance (limit : Int) (rest : List Char) : Decidable (CountEnds limit rest) :=
  inferInstanceAs (Decidable ((∃ run ∈ secondRun? rest, _) ∨ _))

/-- The last LIMIT leaves the statement unbounded: a FETCH behind it does not fit, or no FETCH is there
and its count goes on. -/
def LimitEscapes (limit offset : Int) (masked : List Char) (found : Hit) : Prop :=
  ∃ count ∈ (found.group? 1).or (found.group? 0),
    (∃ fetch ∈ fetchBehind? masked count.stop, ¬ FetchFits limit masked fetch) ∨
      fetchBehind? masked count.stop = none ∧
        ((found.group? 1 ≠ none ∧ ¬ Stops isRunChar (masked.drop count.stop)) ∨
          (found.group? 1 = none ∧ offsetTail offset masked = [] ∧
            ¬ CountEnds limit (masked.drop count.stop)))

instance (limit offset : Int) (masked : List Char) (found : Hit) :
    Decidable (LimitEscapes limit offset masked found) :=
  inferInstanceAs (Decidable (∃ count ∈ (found.group? 1).or (found.group? 0), _))

/-- The last TOP is part of a longer word, or its count goes on. -/
def TopEscapes (masked : List Char) (top : Hit) : Prop :=
  ¬ TopApart masked top ∨ ∃ count ∈ top.group? 1, ¬ Stops isRunChar (masked.drop count.stop)

instance (masked : List Char) (top : Hit) : Decidable (TopEscapes masked top) :=
  inferInstanceAs (Decidable (_ ∨ ∃ count ∈ top.group? 1, _))

/-- A statement whose count is not the one that the plan takes for it. -/
def Escapes (limit offset : Int) (masked : List Char) : Prop :=
  (∃ found ∈ lastTopLevel? limitClause masked, LimitEscapes limit offset masked found) ∨
    lastTopLevel? limitClause masked = none ∧
      ∃ top ∈ lastTopLevel? topClause masked, TopEscapes masked top

instance (limit offset : Int) (masked : List Char) : Decidable (Escapes limit offset masked) :=
  inferInstanceAs (Decidable ((∃ found ∈ lastTopLevel? limitClause masked, _) ∨
    _ ∧ ∃ top ∈ lastTopLevel? topClause masked, _))

private theorem pairwise_topFrom (pattern : Pattern) (depth position skip : Nat) (before : Option Char)
    (text : List Char) :
    (∀ hit ∈ topFrom pattern depth position skip before text, position ≤ hit.start) ∧
      (topFrom pattern depth position skip before text).Pairwise fun hit later => hit.start < later.start := by
  induction text generalizing depth position skip before with
  | nil => exact ⟨nofun, .nil⟩
  | cons c rest ih =>
      have later : ∀ skip, (∀ hit ∈ topFrom pattern (depthStep depth c) (position + 1) skip (some c) rest,
          position < hit.start) := fun skip => (ih _ _ skip _).1
      cases skip with
      | succ left => exact ⟨fun hit member => (later _ hit member).le, (ih _ _ _ _).2⟩
      | zero =>
          rw [topFrom]
          split
          · split_ifs
            · refine ⟨fun hit member => ?_, List.pairwise_cons.2 ⟨later _, (ih _ _ _ _).2⟩⟩
              rcases List.mem_cons.1 member with rfl | behind
              · exact Nat.le_refl _
              · exact (later _ hit behind).le
            · exact ⟨fun hit member => (later _ hit member).le, (ih _ _ _ _).2⟩
          · exact ⟨fun hit member => (later _ hit member).le, (ih _ _ _ _).2⟩

/-- No match begins behind the last one. -/
theorem start_le_of_last {pattern : Pattern} {hit last : Hit}
    (member : hit ∈ topLevelHits pattern masked) (found : lastTopLevel? pattern masked = some last) :
    hit.start ≤ last.start := by
  obtain ⟨earlier, split⟩ := List.getLast?_eq_some_iff.1 found
  have ordered := (pairwise_topFrom pattern 0 0 0 none masked).2
  rw [← topLevelHits_eq_topFrom, split, List.pairwise_append] at ordered
  rw [split] at member
  rcases List.mem_append.1 member with early | single
  · exact (ordered.2.2 hit early last (List.mem_singleton_self last)).le
  · rw [List.mem_singleton.1 single]

/-- No match begins before the first one. -/
theorem start_ge_of_first {pattern : Pattern} {hit first : Hit}
    (member : hit ∈ topLevelHits pattern masked) (found : firstTopLevel? pattern masked = some first) :
    first.start ≤ hit.start := by
  obtain ⟨later, split⟩ := List.head?_eq_some_iff.1 found
  have ordered := (pairwise_topFrom pattern 0 0 0 none masked).2
  rw [← topLevelHits_eq_topFrom, split, List.pairwise_cons] at ordered
  rw [split] at member
  rcases List.mem_cons.1 member with rfl | late
  · exact Nat.le_refl _
  · exact (ordered.1 hit late).le

/-! ### The row count behind a clamped count

A plan writes digits in the place of the count that it has matched, but a reader takes the whole run there.
The two agree as long as nothing goes on with the digits, and what goes on with them is read on from the
first character behind them. -/

theorem limitRun_at {found : Match} {front head digits rest : List Char}
    (group : found.groups[0]?.join = some ⟨head.length, head.length + digits.length⟩) :
    limitRun (front ++ (head ++ (digits ++ rest))) (found.at front.length) =
      (secondRun? rest).getD ((digits ++ rest).takeWhile isRunChar) := by
  have behind : ∀ n, (front ++ (head ++ (digits ++ rest))).drop (n + front.length) =
      (head ++ (digits ++ rest)).drop n := fun n => by
    rw [Nat.add_comm, List.drop_length_add_append]
  simp only [limitRun, Match.group?_at, group, Option.map_some, Span.shift, behind,
    List.drop_length_add_append, List.drop_left]

theorem secondRun?_append_of_run {digits : List Char} (isRun : ∀ c ∈ digits, isDigit c = true)
    (rest : List Char) : secondRun? (digits ++ rest) = secondRun? rest := by
  rw [secondRun?, secondRun?, List.dropWhile_append_of_pos fun c member =>
    isRunChar_of_isDigit (isRun c member)]

theorem takeWhile_append_of_digits {digits : List Char} (isRun : ∀ c ∈ digits, isDigit c = true)
    (rest : List Char) : (digits ++ rest).takeWhile isRunChar = digits ++ rest.takeWhile isRunChar :=
  List.takeWhile_append_of_pos fun c member => isRunChar_of_isDigit (isRun c member)

/-- A text is digits, if it begins with any, and what stops at a digit behind them. -/
theorem exists_digits (text : List Char) :
    ∃ digits rest, text = digits ++ rest ∧ (∀ c ∈ digits, isDigit c = true) ∧ Stops isDigit rest :=
  ⟨text.takeWhile isDigit, text.dropWhile isDigit, List.takeWhile_append_dropWhile.symm,
    fun _ member => List.mem_takeWhile_imp member, stops_dropWhile text⟩

theorem isRun_append_digits {digits more : List Char} (isRun : IsRun isDigit digits)
    (all : ∀ c ∈ more, isDigit c = true) : IsRun isDigit (digits ++ more) := by
  refine ⟨by simp [isRun.1], fun c member => ?_⟩
  rcases List.mem_append.1 member with early | late
  · exact isRun.2 c early
  · exact all c late

/-- Behind digits a text that is clear stays so behind the digits that it begins with. -/
theorem clear_behind_digits {pattern : Pattern} {digits more behind : List Char}
    (all : ∀ c ∈ more, isDigit c = true)
    (clear : Clear pattern 0 (lastBefore none digits) (more ++ behind)) :
    Clear pattern 0 (lastBefore none (digits ++ more)) behind := by
  have later := ((clear_append _ _ _ _).1 clear).2
  rwa [depthAfter_of_isDigit all, ← lastBefore_append] at later

/-- LIMIT with digits behind it, and how its row count is read then. -/
theorem limitLast_run {front head digits rest tail : List Char} {found : Match}
    (last : LastAt limitClause front (head ++ tail) found) (isHead : LimitHead head)
    (isRun : IsRun isDigit digits) (clear : Clear limitClause 0 (lastBefore none digits) rest) :
    ∃ found, LastAt limitClause front (head ++ (digits ++ rest)) found ∧
      limitRun (front ++ (head ++ (digits ++ rest))) (found.at front.length) =
        (secondRun? rest).getD (digits ++ rest.takeWhile isRunChar) := by
  obtain ⟨more, behind, rfl, all, stops⟩ := exists_digits rest
  have isRun' := isRun_append_digits isRun all
  have written := limitLast_first last.depth (isHead.reached last _) (last.begins keyed_limitClause)
    isHead isRun' stops (clear_behind_digits all clear)
  have run : ∀ found : Match,
      found.groups[0]?.join = some ⟨head.length, head.length + (digits ++ more).length⟩ →
      limitRun (front ++ (head ++ ((digits ++ more) ++ behind))) (found.at front.length) =
        (secondRun? (more ++ behind)).getD (digits ++ (more ++ behind).takeWhile isRunChar) := by
    intro found group
    rw [limitRun_at group, secondRun?_append_of_run all, takeWhile_append_of_digits isRun'.2,
      takeWhile_append_of_digits all, List.append_assoc]
  rw [← List.append_assoc digits]
  cases second : secondCount? behind with
  | none => exact ⟨_, written.1 second, run _ rfl⟩
  | some read =>
      obtain ⟨start, after⟩ := read
      obtain ⟨gap, token, rfl, rfl, -⟩ := secondCount?_eq_some second
      exact ⟨_, written.2 gap token after rfl second, run _ rfl⟩

/-- A LIMIT and its counts, the second one of which begins with digits that were put there, and how its
row count is read then. -/
theorem limitLast_second_run {head tail skipped gap gap' digits : List Char} {found : Match}
    (last : LastAt limitClause front (head ++ tail) found) (isHead : LimitHead head)
    (shape : ∀ rest, RowCountAt skipped ((gap ++ ',' :: gap') ++ rest))
    (blank : ∀ c ∈ gap, isBlank c = true) (blank' : ∀ c ∈ gap', isBlank c = true)
    (isRun : IsRun isDigit digits) (clear : Clear limitClause 0 (lastBefore none digits) rest) :
    ∃ found, LastAt limitClause front
        (head ++ (skipped ++ ((gap ++ ',' :: gap') ++ (digits ++ rest)))) found ∧
      limitRun (front ++ (head ++ (skipped ++ ((gap ++ ',' :: gap') ++ (digits ++ rest)))))
        (found.at front.length) = digits ++ rest.takeWhile isRunChar := by
  obtain ⟨more, behind, rfl, all, stops⟩ := exists_digits rest
  have isRun' := isRun_append_digits isRun all
  have again := limitLast_second last isHead (shape _) blank blank' isRun' stops
    (clear_behind_digits all clear)
  rw [← List.append_assoc digits]
  refine ⟨_, again, ?_⟩
  have no_run : ∀ text, Stops isRunChar (gap ++ ',' :: text) := by
    intro text
    cases gap with
    | nil => exact (by decide : isRunChar ',' = false)
    | cons c rest => exact isRunChar_eq_false_of_isBlank (blank c (by simp))
  have digit_first : ∀ text, blanks (gap' ++ ((digits ++ more) ++ text)) = (digits ++ more) ++ text := by
    intro text
    rw [blanks, List.dropWhile_append_of_pos blank']
    refine dropWhile_of_stops ?_
    cases whole : digits ++ more with
    | nil => exact absurd whole isRun'.1
    | cons c rest =>
        have digit := isRun'.2 c (by rw [whole]; simp)
        exact isBlank_eq_false_of_isWord (isWord_of_isDigit digit)
  have second : secondRun? ((gap ++ ',' :: gap') ++ ((digits ++ more) ++ behind)) =
      some (digits ++ (more ++ behind).takeWhile isRunChar) := by
    rw [List.append_assoc, List.cons_append, secondRun?, dropWhile_of_stops (no_run _), blanks,
      List.dropWhile_append_of_pos blank, List.dropWhile_cons, if_neg (by decide), char?,
      if_pos (beq_self_eq_true ','), Option.map_some, digit_first, takeWhile_append_of_digits isRun'.2,
      takeWhile_append_of_digits all, List.append_assoc]
  rw [limitRun_at rfl, second, Option.getD_some]

theorem isCountChar_eq_false_of_isBlank {c : Char} (is_blank : isBlank c = true) :
    isCountChar c = false := by
  cases counts : isCountChar c with
  | false => rfl
  | true =>
      rw [isBlank_eq_false_of_isCountChar counts] at is_blank
      cases is_blank

/-- Before a comma no FETCH begins in a count. -/
theorem quiet_fetch_of_comma {text gap : List Char} (counts : ∀ c ∈ text, isCountChar c = true)
    (blank : ∀ c ∈ gap, isBlank c = true) (before : Option Char) (after : List Char) :
    Quiet fetchClause before text (gap ++ ',' :: after) := by
  have silent : ∀ (before : Option Char) (text : List Char), (∀ c ∈ text, isCountChar c = true) →
      fetchClause before (text ++ (gap ++ ',' :: after)) = none := by
    intro before text counts
    cases matched : fetchClause before (text ++ (gap ++ ',' :: after)) with
    | none => rfl
    | some found =>
        obtain ⟨-, head, tail, ⟨key, gap₁, word, gap₂, rfl, spelled, isRun, fold, -⟩, split, -⟩ :=
          fetchClause_eq_some_iff.1 matched
        have key_counts : ∀ c ∈ key, isCountChar c = true := fun c member => by
          simp [isCountChar, isWord_of_mem_key spelled (by decide) member]
        obtain ⟨first, more, rfl, is_word⟩ : ∃ first more, word = first :: more ∧ isWord first = true := by
          rcases fold with fold | fold
          · exact isWord_of_key fold (by decide)
          · exact isWord_of_key fold (by decide)
        have gap_stops : ∀ rest, Stops isCountChar (gap ++ ',' :: rest) := by
          intro rest
          cases gap with
          | nil => exact (by decide : isCountChar ',' = false)
          | cons c more => exact isCountChar_eq_false_of_isBlank (blank c (by simp))
        have word_stops : ∀ rest, Stops isBlank (first :: rest) := fun _ => isBlank_eq_false_of_isWord is_word
        have comma_stops : ∀ rest, Stops isBlank (',' :: rest) := fun _ => (by decide : isBlank ',' = false)
        -- Behind the first word and the blanks stands the comma on one side, a word on the other.
        have behind := congrArg (fun text => (text.dropWhile isCountChar).dropWhile isBlank) split
        simp only [List.append_assoc, List.cons_append, List.dropWhile_append_of_pos counts,
          dropWhile_of_stops (gap_stops _), List.dropWhile_append_of_pos key_counts,
          List.dropWhile_append_of_pos blank, dropWhile_of_stops (comma_stops _),
          dropWhile_of_stops (Stops.append isRun (fun _ => isCountChar_eq_false_of_isBlank) _),
          List.dropWhile_append_of_pos isRun.2, dropWhile_of_stops (word_stops _), List.cons.injEq] at behind
        rw [← behind.1] at is_word
        exact absurd is_word (by decide)
  induction text generalizing before with
  | nil => trivial
  | cons c rest ih =>
      exact ⟨silent before (c :: rest) counts, ih (fun d member => counts d (by simp [member])) _⟩

/-- What a plan puts in the place of a count is quiet, flat, and ends in a digit. -/
structure Replaces (new : List Char) : Prop where
  quiet : ∀ before after, Quiet fetchClause before new after
  flat : ∀ depth, depthAfter depth new = depth
  ends : ∀ before, wordBegins (lastBefore before new) = false

theorem replaces_digits {digits : List Char} (isRun : IsRun isDigit digits) : Replaces digits :=
  ⟨fun before after => keyed_fetchClause.quiet_of_isDigit isRun.2 before after,
    depthAfter_of_isDigit isRun.2, wordBegins_of_isDigit isRun⟩

theorem replaces_offset {digits value : List Char} (isRun : IsRun isDigit digits)
    (isValue : IsRun isDigit value) : Replaces (digits ++ (" OFFSET ".toList ++ value)) := by
  refine ⟨fun before after => ?_, fun depth => ?_, fun before => ?_⟩
  · rw [quiet_append, quiet_append]
    exact ⟨keyed_fetchClause.quiet_of_isDigit isRun.2 _ _,
      keyed_fetchClause.quiet_of_startsNowhere (by decide) _ _,
      keyed_fetchClause.quiet_of_isDigit isValue.2 _ _⟩
  · rw [depthAfter_append, depthAfter_append, depthAfter_of_isDigit isRun.2,
      depthAfter_of_isDigit isValue.2]
    rfl
  · rw [lastBefore_append, lastBefore_append]
    exact wordBegins_of_isDigit isValue _

/-- Every FETCH begins before a place behind which none is. -/
theorem start_le_of_fetchBehind?_eq_none {place : Nat} (none_behind : fetchBehind? masked place = none) :
    ∀ fetch ∈ topLevelHits fetchClause masked, fetch.start ≤ place := by
  intro fetch member
  cases final : lastTopLevel? fetchClause masked with
  | none =>
      rw [lastTopLevel?, List.getLast?_eq_none_iff] at final
      rw [final] at member
      cases member
  | some hit =>
      have le := start_le_of_last member final
      rw [fetchBehind?, final, Option.filter_some] at none_behind
      split_ifs at none_behind with further
      simp only [decide_eq_true_eq] at further
      omega

/-- Behind a place with no FETCH behind it none is, also when the text before is replaced. -/
theorem clear_of_fetchBehind?_eq_none {old new rest : List Char} (flat : depthAfter 0 old = 0)
    (replaces : Replaces new) (none_behind : fetchBehind? (old ++ rest) old.length = none)
    (before : Option Char) : Clear fetchClause 0 (lastBefore before new) rest := by
  cases rest with
  | nil => trivial
  | cons c more =>
      have one_further : old ++ c :: more = (old ++ [c]) ++ more := by simp
      have further := @Solo.clear_iff fetchClause 'f' solo_fetchClause keyed_fetchClause (old ++ [c]) more
      rw [← one_further, depthAfter_append, flat, lastBefore_append] at further
      rw [clear_cons_of_not_begins keyed_fetchClause (replaces.ends before)]
      refine further.2 fun hit member => ?_
      have := start_le_of_fetchBehind?_eq_none none_behind hit member
      simp only [List.length_append, List.length_cons, List.length_nil]
      omega

/-- A FETCH behind a place splits the text behind it. -/
theorem exists_of_fetchBehind?_eq_some {old rest : List Char} {fetch : Hit}
    (found : fetchBehind? (old ++ rest) old.length = some fetch) :
    ∃ part back hit, rest = part ++ back ∧ part ≠ [] ∧ LastAt fetchClause (old ++ part) back hit ∧
      fetch = hit.at (old ++ part).length := by
  obtain ⟨final, further⟩ := Option.filter_eq_some_iff.1 found
  obtain ⟨before, back, hit, split, at_fetch, rfl⟩ :=
    (lastTopLevel?_eq_some_iff keyed_fetchClause).1 final
  have place : old.length < before.length := of_decide_eq_true further
  obtain ⟨part, rfl⟩ : ∃ part, before = old ++ part := by
    obtain ⟨part, same⟩ := List.prefix_of_prefix_length_le (List.prefix_append old rest)
      (split ▸ List.prefix_append before back) place.le
    exact ⟨part, same.symm⟩
  rw [List.append_assoc, List.append_cancel_left_eq] at split
  refine ⟨part, back, hit, split, ?_, at_fetch, rfl⟩
  rintro rfl
  simp only [List.append_nil] at place
  omega

/-- If digits were put in the place of the count of the last LIMIT, the statement is bounded where the
LIMIT governs and fits, or where a FETCH does. -/
theorem isBounded_of_clamped {front lead count new rest : List Char} {found : Match}
    (quiet : ∀ before after, Quiet fetchClause before lead (new ++ after))
    (flat : depthAfter 0 (front ++ lead) = 0) (flat_count : ∀ depth, depthAfter depth count = depth)
    (replaces : Replaces new)
    (last : LastAt limitClause front (lead ++ (new ++ rest)) found)
    (fits : fetchBehind? ((front ++ lead) ++ (count ++ rest)) ((front ++ lead).length + count.length) = none →
      Fits limit (limitRun (front ++ (lead ++ (new ++ rest))) (found.at front.length)))
    (fetches : ∀ fetch ∈ fetchBehind? ((front ++ lead) ++ (count ++ rest))
      ((front ++ lead).length + count.length),
      FetchFits limit ((front ++ lead) ++ (count ++ rest)) fetch) :
    IsBounded limit (front ++ (lead ++ (new ++ rest))) := by
  have flat_old : depthAfter 0 (front ++ lead ++ count) = 0 := by
    rw [depthAfter_append, flat, flat_count]
  rw [← List.append_assoc (front ++ lead), ← List.length_append] at fits fetches
  cases behind : fetchBehind? ((front ++ lead ++ count) ++ rest) (front ++ lead ++ count).length with
  | none =>
      refine (isBounded_of_limit last ?_).2 (fits behind)
      have flat_lead : depthAfter 0 lead = 0 := by
        rwa [depthAfter_append, last.depth] at flat
      refine clear_of_quiet (quiet _ _) ?_
      rw [flat_lead]
      refine clear_of_quiet (replaces.quiet _ _) ?_
      rw [replaces.flat]
      exact clear_of_fetchBehind?_eq_none flat_old replaces behind _
  | some fetch =>
      have good := fetches fetch behind
      obtain ⟨part, back, hit, rfl, nonempty, at_fetch, rfl⟩ := exists_of_fetchBehind?_eq_some behind
      have moved : front ++ (lead ++ (new ++ (part ++ back))) = (front ++ lead ++ new ++ part) ++ back := by
        simp
      have at_fetch' : LastAt fetchClause (front ++ lead ++ new ++ part) back hit := by
        refine at_fetch.move solo_fetchClause keyed_fetchClause ?_ ?_
        · have depth := at_fetch.depth
          rw [depthAfter_append, flat_old] at depth
          rw [depthAfter_append, depthAfter_append, flat, replaces.flat, depth]
        · have begins := at_fetch.begins keyed_fetchClause
          rw [lastBefore_append, lastBefore_eq_getLast _ nonempty] at begins ⊢
          exact begins
      have at_limit := (lastTopLevel?_eq_some_iff keyed_limitClause).2 ⟨front, _, found, rfl, last, rfl⟩
      rw [moved] at at_limit ⊢
      refine (isBounded_of_fetch at_fetch' fun other member => ?_).2 ?_
      · rw [at_limit] at member
        cases member
        have some_part := List.length_pos_iff.2 nonempty
        simp only [Match.at, List.length_append]
        omega
      · rw [← List.append_assoc (front ++ lead ++ count)] at good
        exact fetchFits_at_iff.1 good

/-! ### One case for each clause

A plan looks for a LIMIT, a TOP, a FETCH and an OFFSET in this order, so that each case has the clauses
before its own excluded. What is left to show is that the clause it clamps or writes is the one that governs
the edited statement: a FETCH behind a LIMIT has to fit, and none may come in. -/

/-- The row count of a LIMIT whose one count was clamped, if nothing goes on with it. -/
theorem fits_of_countEnds (nonneg : 0 ≤ limit) (ends : CountEnds limit rest) :
    Fits limit ((secondRun? rest).getD (clampCount limit count ++ rest.takeWhile isRunChar)) := by
  rcases ends with ⟨run, second, fits⟩ | ⟨single, stops⟩
  · rw [second, Option.getD_some]
    exact fits
  · rw [single, Option.getD_none, takeWhile_of_stops stops, List.append_nil]
    exact fits_clampCount nonneg count

theorem fits_numeral (nonneg : 0 ≤ limit) : Fits limit (numeral limit) :=
  clampCount_nil limit ▸ fits_clampCount nonneg []

/-- No count goes on with an offset that was written behind it. -/
theorem countEnds_written (limit : Int) (value rest : List Char) :
    CountEnds limit ((" OFFSET ".toList ++ value) ++ rest) := by
  have lead : " OFFSET ".toList = ' ' :: "OFFSET ".toList := by decide
  refine .inr ⟨?_, ?_⟩
  · rw [lead]
    rfl
  · rw [lead]
    exact (by decide : isRunChar ' ' = false)

theorem LimitOne.isBounded (one : LimitOne masked front head count rest) (nonneg : 0 ≤ limit)
    (fetches : ∀ fetch ∈ fetchBehind? masked ((front ++ head).length + count.length),
      FetchFits limit masked fetch)
    (ends : fetchBehind? masked ((front ++ head).length + count.length) = none →
      offsetTail offset masked = [] → CountEnds limit rest) :
    IsBounded limit (Edit.applyAll (planLimit limit offset masked) masked) := by
  have isRun : IsRun isDigit (clampCount limit count) := isCount_clampCount nonneg count
  have split : masked = (front ++ head) ++ (count ++ rest) := by
    rw [one.split, List.append_assoc]
  have flat : depthAfter 0 (front ++ head) = 0 := by
    rw [depthAfter_append, one.last.depth, one.isHead.depthAfter]
  have flat_count := depthAfter_of_isCountChar one.shape.countAt.isRun.2
  have quiet : ∀ before after, Quiet fetchClause before head after :=
    fun before after => one.isHead.quiet keyed_fetchClause (by decide) before after
  rw [one.applyAll, limitAgain, List.append_assoc]
  rw [split] at fetches ends
  rw [split]
  rcases offsetTail_cases offset ((front ++ head) ++ (count ++ rest)) with none | ⟨positive, written⟩
  · obtain ⟨found, last, run⟩ := limitLast_run one.last one.isHead isRun (one.clear isRun)
    rw [none, List.nil_append]
    refine isBounded_of_clamped (fun before after => quiet before _) flat flat_count (replaces_digits isRun)
      last (fun behind => ?_) fetches
    rw [run]
    exact fits_of_countEnds nonneg (ends behind none)
  · have isValue : IsRun isDigit (numeral offset) := isCount_numeral (by omega)
    have clear := clear_written isValue.2 (one.clear isValue) isValue.1
      (lastBefore none (clampCount limit count))
    obtain ⟨found, last, run⟩ := limitLast_run one.last one.isHead isRun clear
    rw [written]
    rw [← List.append_assoc (clampCount limit count)] at last run ⊢
    refine isBounded_of_clamped (fun before after => quiet before _) flat flat_count
      (replaces_offset isRun isValue) last (fun _ => ?_) fetches
    rw [run]
    exact fits_of_countEnds nonneg (countEnds_written limit _ _)

theorem LimitTwo.isBounded {skipped gap gap' : List Char}
    (two : LimitTwo masked front head skipped gap gap' count rest) (nonneg : 0 ≤ limit)
    (fetches : ∀ fetch ∈ fetchBehind? masked
        ((front ++ (head ++ (skipped ++ (gap ++ ',' :: gap')))).length + count.length),
      FetchFits limit masked fetch)
    (ends : fetchBehind? masked
        ((front ++ (head ++ (skipped ++ (gap ++ ',' :: gap')))).length + count.length) = none →
      Stops isRunChar rest) :
    IsBounded limit (Edit.applyAll (planLimit limit offset masked) masked) := by
  have isRun : IsRun isDigit (clampCount limit count) := isCount_clampCount nonneg count
  have stops_gap : ∀ after, Stops isWord ((gap ++ ',' :: gap') ++ after) := by
    intro after
    cases gap with
    | nil => exact (by decide : isWord ',' = false)
    | cons c more => exact isWord_eq_false_of_isBlank (two.blank c (by simp))
  obtain ⟨found, last, run⟩ := limitLast_second_run two.last two.isHead
    (fun after => two.shape.congr (stops_gap after)) two.blank two.blank' isRun (two.clear isRun)
  have flat : depthAfter 0 (front ++ (head ++ (skipped ++ (gap ++ ',' :: gap')))) = 0 := by
    simp only [depthAfter_append, two.last.depth, two.isHead.depthAfter,
      depthAfter_of_isCountChar two.shape.countAt.isRun.2, depthAfter_of_isBlank two.blank]
    exact depthAfter_of_isBlank two.blank' 0
  have quiet : ∀ before after,
      Quiet fetchClause before (head ++ (skipped ++ (gap ++ ',' :: gap'))) after := by
    intro before after
    rw [quiet_append, quiet_append]
    refine ⟨two.isHead.quiet keyed_fetchClause (by decide) _ _, ?_, keyed_fetchClause.quiet_of_other ?_ _ _⟩
    · rw [List.append_assoc, List.cons_append]
      exact quiet_fetch_of_comma two.shape.countAt.isRun.2 two.blank _ _
    · intro c member
      rcases List.mem_append.1 member with early | late
      · exact keyed_fetchClause.fold_ne_of_isBlank (two.blank c early)
      · rcases List.mem_cons.1 late with rfl | later
        · decide
        · exact keyed_fetchClause.fold_ne_of_isBlank (two.blank' c later)
  rw [two.split_left] at fetches ends
  rw [two.applyAll, List.append_assoc]
  have shape : head ++ (skipped ++ ((gap ++ ',' :: gap') ++ (clampCount limit count ++ rest))) =
      (head ++ (skipped ++ (gap ++ ',' :: gap'))) ++ (clampCount limit count ++ rest) := by simp
  rw [shape] at last run
  refine isBounded_of_clamped (fun before after => quiet before _) flat
    (depthAfter_of_isCountChar two.second.countAt.isRun.2) (replaces_digits isRun) last
    (fun behind => ?_) fetches
  rw [run, takeWhile_of_stops (ends behind), List.append_nil]
  exact fits_clampCount nonneg count

/-- A statement with a LIMIT is bounded by its plan. -/
theorem isBounded_planLimit_of_limit {hit : Hit} (nonneg : 0 ≤ limit)
    (found : lastTopLevel? limitClause masked = some hit) (kept : ¬ LimitEscapes limit offset masked hit) :
    IsBounded limit (Edit.applyAll (planLimit limit offset masked) masked) := by
  have fits : ∀ count ∈ (hit.group? 1).or (hit.group? 0),
      ∀ fetch ∈ fetchBehind? masked count.stop, FetchFits limit masked fetch := by
    intro count group fetch member
    by_contra misfit
    exact kept ⟨count, group, .inl ⟨fetch, member, misfit⟩⟩
  rcases limit_cases found with ⟨front, head, count, rest, one, no_second, first⟩ |
    ⟨front, head, skipped, gap, gap', count, rest, two, second⟩
  · have group : (⟨(front ++ head).length, (front ++ head).length + count.length⟩ : Span) ∈
        (hit.group? 1).or (hit.group? 0) := by
      rw [no_second, first]
      rfl
    refine one.isBounded nonneg (fits _ group) fun behind no_tail => ?_
    by_contra goes_on
    refine kept ⟨_, group, .inr ⟨behind, .inr ⟨no_second, no_tail, ?_⟩⟩⟩
    rwa [one.split, ← List.append_assoc, ← List.append_assoc, List.drop_left' List.length_append]
  · have group : (⟨(front ++ (head ++ (skipped ++ (gap ++ ',' :: gap')))).length,
        (front ++ (head ++ (skipped ++ (gap ++ ',' :: gap')))).length + count.length⟩ : Span) ∈
        (hit.group? 1).or (hit.group? 0) := by
      rw [second]
      rfl
    refine two.isBounded nonneg (fits _ group) fun behind => ?_
    by_contra goes_on
    refine kept ⟨_, group, .inr ⟨behind, .inl ⟨by rw [second]; exact nofun, ?_⟩⟩⟩
    rwa [two.split_left, ← List.append_assoc _ count, List.drop_left' List.length_append]

theorem topApart_iff {key after : List Char} (spelled : key.map foldKeyword = "top".toList)
    {found : Match} :
    TopApart (front ++ (key ++ after)) (found.at front.length) ↔ Stops isWord after := by
  have size : key.length = 3 := by simpa using congrArg List.length spelled
  rw [TopApart, Match.at, Nat.add_comm, ← List.append_assoc, ← size, Nat.add_comm,
    List.drop_left' List.length_append]

theorem TopHead.exists_key {opens : Bool} {head : List Char} (isHead : TopHead opens head) :
    ∃ key more, head = key ++ more ∧ key.map foldKeyword = "top".toList := by
  obtain ⟨key, gap, gap', spelled, -, -, rfl⟩ := isHead
  cases opens with
  | false => exact ⟨key, gap, rfl, spelled⟩
  | true => exact ⟨key, gap ++ '(' :: gap', rfl, spelled⟩

/-- A TOP that stands by itself and was clamped. -/
theorem TopAt.fits {opens : Bool} {tail after : List Char} {group : Option Span}
    (top : TopAt opens masked front head count tail after group) (nonneg : 0 ≤ limit)
    {hit : Hit} (found : lastTopLevel? topClause masked = some hit) (kept : ¬ TopEscapes masked hit)
    (no_limit : Clear limitClause 0 none masked) :
    lastTopLevel? limitClause (front ++ (head ++ (clampCount limit count ++ (tail ++ after)))) = none ∧
      ∃ top ∈ lastTopLevel? topClause (front ++ (head ++ (clampCount limit count ++ (tail ++ after)))),
        TopFits limit (front ++ (head ++ (clampCount limit count ++ (tail ++ after)))) top := by
  have isRun : IsRun isDigit (clampCount limit count) := isCount_clampCount nonneg count
  have begins := top.last.begins keyed_topClause
  have here := (lastTopLevel?_eq_some_iff keyed_topClause).2 ⟨front, _, _, top.split, top.last, rfl⟩
  rw [found, Option.some.injEq] at here
  obtain ⟨group', last⟩ := topLast_exchange top.last top.isHead top.isCount isRun top.stops top.closes
  have here' := (lastTopLevel?_eq_some_iff keyed_topClause).2 ⟨front, _, _, rfl, last, rfl⟩
  rw [top.split] at no_limit
  refine ⟨(lastTopLevel?_eq_none_iff keyed_limitClause).2 (top.isHead.clear_exchange keyed_limitClause
    local_limitClause (by decide) begins top.isCount isRun no_limit), _, here', ?_, ?_⟩
  · have apart : TopApart masked hit := by
      by_contra joined
      exact kept (.inl joined)
    obtain ⟨key, more, rfl, spelled⟩ := top.isHead.exists_key
    rw [top.split, here, List.append_assoc key, topApart_iff spelled] at apart
    rw [List.append_assoc key, topApart_iff spelled]
    cases more with
    | nil =>
        rw [List.nil_append] at apart
        cases count with
        | nil => exact absurd rfl top.isCount.1
        | cons c rest =>
            exact (Stops.false_of_head apart (isWord_of_isDigit (top.isCount.2 c (by simp)))).elim
    | cons c rest => exact apart
  · have stops : Stops isRunChar (tail ++ after) := by
      by_contra goes_on
      refine kept (.inr ⟨_, by rw [here]; rfl, ?_⟩)
      rw [top.split_left, ← List.append_assoc _ count, List.drop_left' ?_]
      · exact goes_on
      · simp only [Span.shift, List.length_append]
        omega
    refine ⟨_, rfl, ?_⟩
    simp only [Span.shift]
    rw [Nat.add_comm head.length, ← List.append_assoc front, ← List.length_append,
      List.drop_left, takeWhile_append_of_digits isRun.2, takeWhile_of_stops stops, List.append_nil]
    exact fits_clampCount nonneg count

/-- A statement with a TOP and no LIMIT is bounded by its plan. -/
theorem isPaged_planLimit_of_top {hit : Hit} (nonneg : 0 ≤ limit)
    (no_limit : Clear limitClause 0 none masked) (found : lastTopLevel? topClause masked = some hit)
    (kept : ¬ TopEscapes masked hit) :
    IsPaged limit (Edit.applyAll (planLimit limit offset masked) masked) := by
  obtain ⟨opens, front, head, count, tail, after, group, top⟩ := exists_topAt found
  obtain ⟨hit', found', planned⟩ := planTop_of_last limit top.last top.split
  rw [found', Option.some.injEq] at found
  subst found
  have written := Edit.applyAll_single (front ++ head) count (tail ++ after) (clampCount limit count)
  rw [← top.split_left, List.append_assoc] at written
  rw [planLimit_of_top no_limit found', planned, written]
  exact .inr (top.fits nonneg found' kept no_limit)

/-- A FETCH with its count clamped, and with the offset before it if there is one to put there. -/
theorem FetchAt.applyAll {tail after : List Char} (fetch : FetchAt masked front head count tail after)
    (no_limit : Clear limitClause 0 none masked) (no_top : Clear topClause 0 none masked) :
    Edit.applyAll (planLimit limit offset masked) masked =
      front ++ (offsetLead offset masked ++ (head ++ (clampCount limit count ++ (tail ++ after)))) := by
  obtain ⟨hit, found, place, planned⟩ := planFetch_of_last limit fetch.last fetch.split
  have lead := Edit.applyAll_pair front (offsetRows offset) head count (clampCount limit count)
    (tail ++ after)
  have plain := Edit.applyAll_single (front ++ head) count (tail ++ after) (clampCount limit count)
  rw [planLimit_of_fetch no_limit no_top found, planned, place, leadEdits, offsetLead]
  rw [← fetch.split] at lead
  rw [List.append_assoc, ← fetch.split, List.append_assoc] at plain
  split_ifs
  · exact lead
  · exact plain

/-- A statement with a FETCH and neither a LIMIT nor a TOP is bounded by its plan. -/
theorem isBounded_planLimit_of_fetch {hit : Hit} (positive : 1 ≤ limit)
    (no_limit : Clear limitClause 0 none masked) (no_top : Clear topClause 0 none masked)
    (found : lastTopLevel? fetchClause masked = some hit) :
    IsBounded limit (Edit.applyAll (planLimit limit offset masked) masked) := by
  have nonneg : 0 ≤ limit := by omega
  have none_before : ∀ {text : List Char} {place : Nat}, Clear limitClause 0 none text →
      ∀ other ∈ lastTopLevel? limitClause text, other.start < place := by
    intro text place clear other member
    rw [(lastTopLevel?_eq_none_iff keyed_limitClause).2 clear] at member
    cases member
  rcases fetch_cases found with ⟨front, head, count, tail, after, fetch⟩ |
    ⟨front, head, tail, size, row⟩
  · have isRun : IsRun isDigit (clampCount limit count) := isCount_clampCount nonneg count
    have last := (fetchLast_exchange fetch.last fetch.isHead isRun fetch.stops fetch.closes
      fetch.some_tail fetch.isCount).lead fetch.isHead offset masked
    have clear : Clear limitClause 0 none ((front ++ offsetLead offset masked) ++
        (head ++ (clampCount limit count ++ (tail ++ after)))) := by
      rw [List.append_assoc]
      exact fetch.clear_edited keyed_limitClause local_limitClause (by decide) (by decide) (by decide)
        (by decide) isRun offset no_limit
    rw [fetch.applyAll no_limit no_top, ← List.append_assoc front]
    refine (isBounded_of_fetch last (none_before clear)).2 (.inl ⟨_, rfl, ?_⟩)
    obtain ⟨run, -⟩ := fetch_run_eq_slice last.matched rfl
    simp only [Span.shift, Nat.add_zero] at run ⊢
    rw [run, slice_append]
    exact fits_clampCount nonneg count
  · have clear := row.clear_edited keyed_limitClause local_limitClause (by decide) (by decide) offset
      no_limit
    rw [row.planLimit no_limit no_top, row.applyAll]
    rw [← List.append_assoc front] at clear ⊢
    exact (isBounded_of_fetch (row.last.lead row.isHead offset masked) (none_before clear)).2
      (.inr ⟨rfl, positive⟩)

/-- A LIMIT that was written, behind which nothing goes on with its count and no FETCH begins. -/
theorem isBounded_of_written {digits rest : List Char}
    (isRun : IsRun isDigit digits) (fits : Fits limit digits)
    (last : LastAt limitClause front ("LIMIT ".toList ++ (digits ++ (' ' :: rest)))
      ⟨"LIMIT ".toList.length + digits.length,
        [some ⟨"LIMIT ".toList.length, "LIMIT ".toList.length + digits.length⟩, none]⟩)
    (no_comma : char? ',' (blanks rest) = none) (clear : Clear fetchClause 0 (some ' ') rest) :
    IsBounded limit (front ++ ("LIMIT ".toList ++ (digits ++ (' ' :: rest)))) := by
  refine (isBounded_of_limit last ?_).2 ?_
  · refine clear_of_quiet (limitHead_written.quiet keyed_fetchClause (by decide) _ _) ?_
    rw [limitHead_written.depthAfter]
    refine clear_of_quiet (keyed_fetchClause.quiet_of_isDigit isRun.2 _ _) ?_
    rw [depthAfter_of_isDigit isRun.2]
    exact @clear_of_quiet fetchClause 0 _ [' '] rest
      (keyed_fetchClause.quiet_of_isBlank isRun_space.2 _ _) clear
  · have stops : Stops isRunChar (' ' :: rest) := (by decide : isRunChar ' ' = false)
    have single : secondRun? (' ' :: rest) = none := by
      have behind : blanks (' ' :: rest) = blanks rest := by
        rw [blanks, List.dropWhile_cons, if_pos (by decide : isBlank ' ' = true)]
        rfl
      rw [secondRun?, dropWhile_of_stops stops, behind, no_comma, Option.map_none]
    rw [limitRun_at rfl, single, Option.getD_none, takeWhile_append_of_digits isRun.2,
      takeWhile_of_stops stops, List.append_nil]
    exact fits

/-- A statement with an OFFSET and no clause that has a count is bounded by its plan. -/
theorem isBounded_planLimit_of_offset {hit : Hit} (nonneg : 0 ≤ limit)
    (no_limit : Clear limitClause 0 none masked) (no_top : Clear topClause 0 none masked)
    (no_fetch : Clear fetchClause 0 none masked) (found : lastTopLevel? offsetKeyword masked = some hit) :
    IsBounded limit (Edit.applyAll (planLimit limit offset masked) masked) := by
  have isRun : IsRun isDigit (numeral limit) := isCount_numeral nonneg
  rw [planLimit_of_offset no_limit no_top no_fetch found]
  obtain ⟨front, back, found, rfl, last, rfl⟩ := (lastTopLevel?_eq_some_iff keyed_offsetKeyword).1 found
  have written := limitLast_before_offset last no_limit isRun
  have begins := last.begins keyed_offsetKeyword
  have clear := ((clear_append _ _ _ _).1 no_fetch).2
  rw [last.depth] at clear
  obtain ⟨key, rest, rfl, spelled, -⟩ := offset_shape last
  have no_comma : char? ',' (blanks (key ++ rest)) = none := by
    rw [blanks_key spelled (by decide)]
    exact (inert_of_key spelled (by decide) rest).comma
  have applied := Edit.applyAll_insertAt front ("LIMIT ".toList ++ (numeral limit ++ [' '])) (key ++ rest)
  rw [Match.at, applied, List.append_assoc, List.append_assoc]
  exact isBounded_of_written isRun (fits_numeral nonneg) written no_comma
    (clear.mono keyed_fetchClause fun _ => begins)

/-- A statement with none of these clauses is bounded by its plan. -/
theorem isBounded_planLimit_of_none (nonneg : 0 ≤ limit) (offset_nonneg : 0 ≤ offset)
    (depth : depthAfter 0 masked = 0) (no_limit : Clear limitClause 0 none masked)
    (no_top : Clear topClause 0 none masked) (no_fetch : Clear fetchClause 0 none masked)
    (no_offset : Clear offsetKeyword 0 none masked) :
    IsBounded limit (Edit.applyAll (planLimit limit offset masked) masked) := by
  have isRun : IsRun isDigit (numeral limit) := isCount_numeral nonneg
  have isValue : IsRun isDigit (numeral offset) := isCount_numeral offset_nonneg
  have written := limitLast_behind depth no_limit isRun isValue
  have applied := Edit.applyAll_insertAt masked
    (" LIMIT ".toList ++ (numeral limit ++ (" OFFSET ".toList ++ numeral offset))) []
  have lead : " LIMIT ".toList = [' '] ++ "LIMIT ".toList := by decide
  rw [List.append_nil, List.append_nil, lead, List.append_assoc, ← List.append_assoc masked] at applied
  rw [planLimit_of_none no_limit no_top no_fetch no_offset, lead, List.append_assoc, applied]
  rw [offset_written] at written ⊢
  refine isBounded_of_written isRun (fits_numeral nonneg) written ?_ ?_
  · rw [blanks_key fold_offset (by decide)]
    exact (inert_of_key fold_offset (by decide) _).comma
  · refine clear_of_quiet (keyed_fetchClause.quiet_key fold_offset (by decide) (by decide) _ _) ?_
    refine clear_of_quiet (keyed_fetchClause.quiet_of_isBlank isRun_space.2 _ _) ?_
    exact (keyed_fetchClause.quiet_of_isDigit isValue.2 _ []).clearThrough _

/-- A plan of the dialects that have LIMIT bounds each statement that does not escape. -/
theorem planLimit_isPaged (positive : 1 ≤ limit) (offset_nonneg : 0 ≤ offset)
    (depth : depthAfter 0 masked = 0) (kept : ¬ Escapes limit offset masked) :
    IsPaged limit (Edit.applyAll (planLimit limit offset masked) masked) := by
  have nonneg : 0 ≤ limit := by omega
  cases existing : lastTopLevel? limitClause masked with
  | some hit =>
      refine .inl (isBounded_planLimit_of_limit nonneg existing fun escapes => kept (.inl ?_))
      exact ⟨hit, existing, escapes⟩
  | none =>
      have no_limit := (lastTopLevel?_eq_none_iff keyed_limitClause).1 existing
      cases top : lastTopLevel? topClause masked with
      | some hit =>
          refine isPaged_planLimit_of_top nonneg no_limit top fun escapes => kept (.inr ⟨existing, ?_⟩)
          exact ⟨hit, top, escapes⟩
      | none =>
          have no_top := (lastTopLevel?_eq_none_iff keyed_topClause).1 top
          refine .inl ?_
          cases fetch : lastTopLevel? fetchClause masked with
          | some hit => exact isBounded_planLimit_of_fetch positive no_limit no_top fetch
          | none =>
              have no_fetch := (lastTopLevel?_eq_none_iff keyed_fetchClause).1 fetch
              cases keyword : lastTopLevel? offsetKeyword masked with
              | some hit => exact isBounded_planLimit_of_offset nonneg no_limit no_top no_fetch keyword
              | none =>
                  exact isBounded_planLimit_of_none nonneg offset_nonneg depth no_limit no_top no_fetch
                    ((lastTopLevel?_eq_none_iff keyed_offsetKeyword).1 keyword)

theorem Stops.append_stops {kind : Char → Bool} {text tail : List Char} (stops : Stops kind text)
    (stops' : Stops kind tail) : Stops kind (text ++ tail) := by
  cases text with
  | nil => exact stops'
  | cons c rest => exact stops

/-- Trailing text leaves a bounded statement bounded. -/
theorem IsPaged.append_trailing (paged : IsPaged limit masked) {tail : List Char}
    (trailing : IsTrailing tail) : IsPaged limit (masked ++ tail) := by
  rcases paged with bounded | ⟨no_limit, top, found, apart, count, group, fits⟩
  · exact .inl ((isBounded_append_trailing masked trailing).2 bounded)
  · have limits : lastTopLevel? limitClause (masked ++ tail) = lastTopLevel? limitClause masked := by
      rw [lastTopLevel?, topLevelHits_append_trailing keyed_limitClause local_limitClause _ trailing]
      rfl
    have tops : lastTopLevel? topClause (masked ++ tail) = lastTopLevel? topClause masked := by
      rw [lastTopLevel?, topLevelHits_append_trailing keyed_topClause local_topClause _ trailing]
      rfl
    refine .inr ⟨limits.trans no_limit, top, tops.trans found, ?_, count, group, ?_⟩
    · obtain ⟨opens, front, head, digits, close, after, span, isTop⟩ := exists_topAt found
      have here := (lastTopLevel?_eq_some_iff keyed_topClause).2 ⟨front, _, _, isTop.split, isTop.last, rfl⟩
      have same : top = _ := Option.some.inj (Eq.trans (Eq.symm found) here)
      obtain ⟨key, more, rfl, spelled⟩ := isTop.isHead.exists_key
      rw [same, isTop.split, List.append_assoc key, topApart_iff spelled] at apart
      rw [same, isTop.split, List.append_assoc key, List.append_assoc front, List.append_assoc key,
        topApart_iff spelled]
      exact apart.append_stops trailing.stops_isWord
    · obtain ⟨-, before, inside⟩ := Placed.of_lastTopLevel? placed_topClause keyed_topClause found group
      rw [List.drop_append_of_le_length (by omega),
        takeWhile_append_of_stops _ (stops_isRunChar_of_trailing trailing)]
      exact fits

theorem plan_of_ne_sqlserver {dialect : Dialect} (limits : dialect ≠ .sqlserver) :
    plan dialect = planLimit := by
  cases dialect with
  | sqlserver => exact absurd rfl limits
  | postgres | mysql | sqlite | generic => rfl

/-- The rewritten query is bounded by the limit that is returned with it. -/
theorem paginate_isPaged {dialect : Dialect} (limits : dialect ≠ .sqlserver) (policy : PagePolicy)
    (limit offset : Option Int) {sql : String}
    (closed : LexicallyClosed (Lexis.ofDialect dialect) sql.toList)
    (touched : ¬ Untouched dialect sql.toList)
    (seamless : Seamless dialect (policy.clamp limit) (directiveOf policy limit offset).offset sql.toList)
    (kept : ¬ Escapes (policy.clamp limit) (directiveOf policy limit offset).offset
      (statementMask (Lexis.ofDialect dialect) sql.toList)) :
    IsPaged (paginate dialect policy limit offset sql).directive.limit
      ((Lexis.ofDialect dialect).mask (paginate dialect policy limit offset sql).sql.toList) := by
  have positive := one_le_clamp policy limit
  have offset_nonneg := directiveOf_offset_nonneg policy limit offset
  obtain ⟨after, split, blank⟩ := mask_boundText closed.closes (Int.le_of_lt positive) offset_nonneg
    touched seamless
  have paged := planLimit_isPaged positive offset_nonneg closed.depth kept
  rw [← plan_of_ne_sqlserver limits, ← planOf, ← boundedMask] at paged
  rw [paginate, String.toList_ofList]
  change IsPaged (policy.clamp limit) ((Lexis.ofDialect dialect).mask
    (boundText dialect (policy.clamp limit) (directiveOf policy limit offset).offset sql.toList))
  rw [split]
  exact paged.append_trailing ⟨after, blank, .inl rfl⟩

/-- The second count is a placeholder; a parenthesis stands in a literal, and a comment at the end. -/
theorem paginate_isPaged_of_placeholder :
    (LexicallyClosed (Lexis.ofDialect .mysql) "SELECT ')' FROM t LIMIT 3, ? -- rest".toList ∧
      ¬ Untouched .mysql "SELECT ')' FROM t LIMIT 3, ? -- rest".toList ∧
      Seamless .mysql 50 20 "SELECT ')' FROM t LIMIT 3, ? -- rest".toList ∧
      ¬ Escapes 50 20 (statementMask (Lexis.ofDialect .mysql) "SELECT ')' FROM t LIMIT 3, ? -- rest".toList)) ∧
    IsPaged 50 ((Lexis.ofDialect .mysql).mask
      (paginate .mysql .standard none (some 20) "SELECT ')' FROM t LIMIT 3, ? -- rest").sql.toList) := by
  have closed : LexicallyClosed (Lexis.ofDialect .mysql) "SELECT ')' FROM t LIMIT 3, ? -- rest".toList :=
    ⟨by decide +kernel, by decide +kernel⟩
  have touched : ¬ Untouched .mysql "SELECT ')' FROM t LIMIT 3, ? -- rest".toList := by decide +kernel
  have seamless : Seamless .mysql 50 20 "SELECT ')' FROM t LIMIT 3, ? -- rest".toList :=
    ⟨by decide +kernel, by decide +kernel⟩
  have kept : ¬ Escapes 50 20
      (statementMask (Lexis.ofDialect .mysql) "SELECT ')' FROM t LIMIT 3, ? -- rest".toList) := by
    decide +kernel
  exact ⟨⟨closed, touched, seamless, kept⟩,
    paginate_isPaged (by decide) .standard none (some 20) closed touched seamless kept⟩

/-- A TOP is clamped in the place of a LIMIT, and no LIMIT is added. -/
theorem paginate_top_not_isBounded :
    LexicallyClosed (Lexis.ofDialect .postgres) "SELECT TOP 5 a FROM t".toList ∧
      paginate .postgres .standard (some 10) (some 0) "SELECT TOP 5 a FROM t" =
        ⟨"SELECT TOP 5 a FROM t", ⟨10, 0, true⟩⟩ ∧
      ¬ IsBounded 10 ((Lexis.ofDialect .postgres).mask
        (paginate .postgres .standard (some 10) (some 0) "SELECT TOP 5 a FROM t").sql.toList) :=
  ⟨⟨by decide +kernel, by decide +kernel⟩, by decide +kernel, by decide +kernel⟩

end QueryDesk.Sql
