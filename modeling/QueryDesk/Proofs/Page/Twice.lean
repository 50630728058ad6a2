/-
Module: QueryDesk.Proofs.Page.Twice
Purpose: Two rewritings of one statement. By the clause that holds its count a statement is of one of
  a few kinds; for each kind the plan is that of a site, and it is said when the plan of the edited
  statement clamps the same count again. Only a LIMIT has exceptions: a question mark may have digits behind it that
  join the limit, and the only OFFSET may be part of the count that is replaced.
Imports: QueryDesk.Proofs.Page.Steady
Main exports: LimitOne, LimitTwo, limit_cases, LimitUnstable,
  planLimit_unchanged_iff, planSqlServer_unchanged_iff, LosesOffset, planLimit_twice_iff
-/
import QueryDesk.Proofs.Page.Steady

namespace QueryDesk.Sql

open QueryDesk.Text

/-- A statement whose last LIMIT has one count. -/
structure LimitOne (masked front head count rest : List Char) : Prop where
  split : masked = front ++ (head ++ (count ++ rest))
  isHead : LimitHead head
  shape : RowCountAt count rest
  single : secondCount? rest = none
  last : LastAt limitClause front (head ++ (count ++ rest))
    ⟨head.length + count.length, [some ⟨head.length, head.length + count.length⟩, none]⟩

/-- A statement whose last LIMIT has two counts. -/
structure LimitTwo (masked front head skipped gap gap' count rest : List Char) : Prop where
  split : masked = front ++ (head ++ (skipped ++ ((gap ++ ',' :: gap') ++ (count ++ rest))))
  isHead : LimitHead head
  shape : RowCountAt skipped ((gap ++ ',' :: gap') ++ (count ++ rest))
  blank : ∀ c ∈ gap, isBlank c = true
  blank' : ∀ c ∈ gap', isBlank c = true
  second : SecondCountAt count rest
  last : LastAt limitClause front (head ++ (skipped ++ ((gap ++ ',' :: gap') ++ (count ++ rest))))
    ⟨head.length + skipped.length + (gap ++ ',' :: gap').length + count.length,
      [some ⟨head.length, head.length + skipped.length⟩,
        some ⟨head.length + skipped.length + (gap ++ ',' :: gap').length,
          head.length + skipped.length + (gap ++ ',' :: gap').length + count.length⟩]⟩

/-- The last LIMIT of a statement has one count or two. -/
theorem limit_cases {masked : List Char} {hit : Hit}
    (found : lastTopLevel? limitClause masked = some hit) :
    (∃ front head count rest, LimitOne masked front head count rest ∧ hit.group? 1 = none ∧
        hit.group? 0 = some ⟨(front ++ head).length, (front ++ head).length + count.length⟩) ∨
      ∃ front head skipped gap gap' count rest,
        LimitTwo masked front head skipped gap gap' count rest ∧
        hit.group? 1 = some ⟨(front ++ (head ++ (skipped ++ (gap ++ ',' :: gap')))).length,
          (front ++ (head ++ (skipped ++ (gap ++ ',' :: gap')))).length + count.length⟩ := by
  obtain ⟨front, back, found, split, last, rfl⟩ :=
    (lastTopLevel?_eq_some_iff keyed_limitClause).1 found
  obtain ⟨-, head, count, rest, isHead, rfl, read, shape⟩ := limitClause_eq_some_iff.1 last.matched
  obtain ⟨count', same, count_shape⟩ := rowCount?_eq_some_iff.1 read
  obtain rfl := List.append_cancel_right same
  rcases shape with ⟨single, rfl⟩ | ⟨gap, second, after, rfl, second_read, rfl⟩
  · refine .inl ⟨front, head, count, rest, ⟨split, isHead, count_shape, single, last⟩, ?_, ?_⟩
    · simp [Match.group?_at]
    · simp only [Match.group?_at, List.getElem?_cons_zero, Option.join_some, Option.map_some,
        Span.shift, List.length_append, Option.some.injEq, Span.mk.injEq]
      omega
  · obtain ⟨left, left', second', split', tail, blank, blank', second_shape⟩ :=
      secondCount?_eq_some_iff.1 second_read
    obtain rfl := List.append_cancel_right tail
    obtain rfl := List.append_cancel_right split'
    refine .inr ⟨front, head, count, left, left', second, after,
      ⟨split, isHead, count_shape, blank, blank', second_shape, last⟩, ?_⟩
    simp only [Match.group?_at, List.getElem?_cons_succ, List.getElem?_cons_zero, Option.join_some,
      Option.map_some, Span.shift, List.length_append, Option.some.injEq, Span.mk.injEq]
    omega

variable {masked front head count rest : List Char}

/-- Behind digits in the place of the count there is no further LIMIT. -/
theorem LimitOne.clear (one : LimitOne masked front head count rest) {digits : List Char}
    (isRun : IsRun isDigit digits) : Clear limitClause 0 (lastBefore none digits) rest := by
  have last := one.last
  rw [← List.append_assoc] at last
  have clear := last.clear_behind (by simp)
  rw [depthAfter_append, one.isHead.depthAfter,
    depthAfter_of_isCountChar one.shape.countAt.isRun.2] at clear
  refine clear.mono keyed_limitClause fun starts => ?_
  rw [wordBegins_of_isDigit isRun] at starts
  cases starts

variable {skipped gap gap' : List Char}

theorem LimitTwo.clear (two : LimitTwo masked front head skipped gap gap' count rest)
    {digits : List Char}
    (isRun : IsRun isDigit digits) : Clear limitClause 0 (lastBefore none digits) rest := by
  have last := two.last
  have whole : head ++ (skipped ++ ((gap ++ ',' :: gap') ++ (count ++ rest))) =
      (head ++ (skipped ++ ((gap ++ ([','] ++ gap')) ++ count))) ++ rest := by simp
  rw [whole] at last
  have clear := last.clear_behind (by
    simp only [List.length_append, List.length_cons, List.length_nil]
    omega)
  simp only [depthAfter_append, two.isHead.depthAfter,
    depthAfter_of_isCountChar two.shape.countAt.isRun.2, depthAfter_of_isBlank two.blank,
    depthAfter_of_isBlank two.blank', depthAfter_of_isCountChar two.second.countAt.isRun.2] at clear
  refine Clear.mono keyed_limitClause (show Clear limitClause 0 _ rest from clear) fun starts => ?_
  rw [wordBegins_of_isDigit isRun] at starts
  cases starts

/-! ### One count

The second plan clamps the count again and adds an offset if it finds none. So the two plans differ from one
in the offset only, and that is lost if every OFFSET of the statement stood where the count was replaced. -/

/-- The statement with its one count clamped, and with the offset behind it if it has none. -/
def limitAgain (first offset : Int) (masked front head count rest : List Char) : List Char :=
  (front ++ head) ++ (clampCount first count ++ (offsetTail offset masked ++ rest))

theorem offsetTail_cases (offset : Int) (masked : List Char) :
    offsetTail offset masked = [] ∨
      0 < offset ∧ offsetTail offset masked = " OFFSET ".toList ++ numeral offset := by
  unfold offsetTail
  split_ifs with wanted
  · simp only [Bool.and_eq_true, decide_eq_true_eq] at wanted
    exact .inr ⟨wanted.1, rfl⟩
  · exact .inl rfl

theorem secondCount?_written (value rest : List Char) :
    secondCount? ((" OFFSET ".toList ++ value) ++ rest) = none := by
  have lead : " OFFSET ".toList = ' ' :: "OFFSET ".toList := by decide
  rw [lead]
  rfl

theorem stops_written (value rest : List Char) :
    Stops isDigit ((" OFFSET ".toList ++ value) ++ rest) :=
  (by decide : isDigit ' ' = false)

/-- Behind digits and an offset that was written there is no LIMIT either. -/
theorem clear_written {value : List Char} (isValue : ∀ c ∈ value, isDigit c = true)
    (clear : Clear limitClause 0 (lastBefore none value) rest) (some_value : value ≠ [])
    (before : Option Char) :
    Clear limitClause 0 before ((" OFFSET ".toList ++ value) ++ rest) := by
  refine clear_of_quiet ?_ ?_
  · rw [quiet_append]
    exact ⟨keyed_limitClause.quiet_of_startsNowhere (by decide) _ _,
      keyed_limitClause.quiet_of_isDigit isValue _ _⟩
  · rw [depthAfter_append, depthAfter_of_isDigit isValue, lastBefore_append]
    refine Clear.mono keyed_limitClause (show Clear limitClause 0 _ rest from clear) fun starts => ?_
    rw [wordBegins_of_isDigit ⟨some_value, isValue⟩] at starts
    cases starts

/-- The plan of a statement whose one count was clamped: the count is clamped again, and an offset is
put behind it if there is none. -/
theorem LimitOne.replan (one : LimitOne masked front head count rest) {first offset : Int}
    (nonneg : 0 ≤ first) (stops : Stops isDigit (offsetTail offset masked ++ rest)) (second : Int) :
    planLimit second offset (limitAgain first offset masked front head count rest) =
      [⟨⟨(front ++ head).length, (front ++ head).length + (clampCount first count).length⟩,
        clampCount second (clampCount first count) ++
          offsetTail offset (limitAgain first offset masked front head count rest)⟩] := by
  have isRun : IsRun isDigit (clampCount first count) := isCount_clampCount nonneg count
  refine replan_limit_first one.last one.isHead isRun stops ?_ ?_
  · rcases offsetTail_cases offset masked with none | ⟨positive, written⟩
    · rw [none]
      exact one.clear isRun
    · have isValue : IsRun isDigit (numeral offset) := isCount_numeral (by omega)
      rw [written]
      exact clear_written isValue.2 (one.clear isValue) isValue.1 _
  · rcases offsetTail_cases offset masked with none | ⟨-, written⟩
    · rw [none]
      exact one.single
    · rw [written]
      exact secondCount?_written _ _

/-- The statement has offsets outside of all parentheses, but all of them begin in a count or directly
behind it. -/
def OffsetInCount (masked : List Char) (count : Span) : Prop :=
  topLevelHits offsetKeyword masked ≠ [] ∧
    ∀ hit ∈ topLevelHits offsetKeyword masked, count.start ≤ hit.start ∧ hit.start ≤ count.stop

instance (masked : List Char) (count : Span) : Decidable (OffsetInCount masked count) :=
  inferInstanceAs (Decidable (_ ∧ _))

theorem clear_iff_topLevelHits_eq_nil {pattern : Pattern} {letter : Char} (keyed : Keyed pattern letter)
    {masked : List Char} : Clear pattern 0 none masked ↔ topLevelHits pattern masked = [] := by
  rw [← lastTopLevel?_eq_none_iff keyed, lastTopLevel?, List.getLast?_eq_none_iff]

theorem LimitOne.flat (one : LimitOne masked front head count rest) :
    depthAfter 0 (front ++ head ++ count) = 0 := by
  rw [depthAfter_append, depthAfter_append, one.last.depth, one.isHead.depthAfter,
    depthAfter_of_isCountChar one.shape.countAt.isRun.2]

/-- After digits were put in the place of the count, offsets are left that begin before it or further
behind it. -/
theorem LimitOne.clear_offset_iff (one : LimitOne masked front head count rest) {digits : List Char}
    (isRun : IsRun isDigit digits) :
    Clear offsetKeyword 0 none ((front ++ head) ++ (digits ++ rest)) ↔
      ∀ hit ∈ topLevelHits offsetKeyword masked,
        (front ++ head).length ≤ hit.start ∧ hit.start ≤ (front ++ head).length + count.length := by
  have begins := one.last.begins keyed_limitClause
  have before : ∀ {tail tail' : List Char}, ClearThrough offsetKeyword 0 none (front ++ head) tail →
      ClearThrough offsetKeyword 0 none (front ++ head) tail' := by
    intro tail tail' clear
    rw [clearThrough_append] at clear ⊢
    exact ⟨(clearThrough_congr (local_offsetKeyword (one.isHead.interchangeable _ _)
      (edge_of_wordBegins begins _) (edge_of_wordBegins begins _)) 0 none).1 clear.1,
      (one.isHead.quiet keyed_offsetKeyword (by decide) _ _).clearThrough _⟩
  have split : masked = (front ++ head) ++ (count ++ rest) := by
    rw [one.split, List.append_assoc]
  have front_iff : ClearThrough offsetKeyword 0 none (front ++ head) (digits ++ rest) ↔
      ∀ hit ∈ topLevelHits offsetKeyword masked, (front ++ head).length ≤ hit.start := by
    rw [split, ← solo_offsetKeyword.clearThrough_iff keyed_offsetKeyword]
    exact ⟨before, before⟩
  have flat : depthAfter 0 (front ++ head) = 0 := by
    rw [depthAfter_append, one.last.depth, one.isHead.depthAfter]
  have digits_quiet := keyed_offsetKeyword.quiet_of_isDigit isRun.2
    (lastBefore none (front ++ head)) rest
  have behind_iff : Clear offsetKeyword 0 (lastBefore (lastBefore none (front ++ head)) digits) rest ↔
      ∀ hit ∈ topLevelHits offsetKeyword masked,
        hit.start ≤ (front ++ head).length + count.length := by
    have inside := wordBegins_of_isDigit isRun (lastBefore none (front ++ head))
    cases rest with
    | nil =>
        refine ⟨fun _ hit member => ?_, fun _ => trivial⟩
        obtain ⟨front', back', found, same, -, matched, rfl⟩ :=
          (solo_offsetKeyword.mem_topLevelHits_iff keyed_offsetKeyword).1 member
        have sizes := congrArg List.length (split.symm.trans same)
        simp only [List.length_append, List.length_nil] at sizes
        simp only [Match.at, List.length_append]
        omega
    | cons c more =>
        have one_further : masked = (front ++ head ++ count ++ [c]) ++ more := by
          rw [split]
          simp
        have further := @Solo.clear_iff offsetKeyword 'o' solo_offsetKeyword keyed_offsetKeyword
          (front ++ head ++ count ++ [c]) more
        rw [← one_further, depthAfter_append, one.flat, lastBefore_append] at further
        rw [clear_cons_of_not_begins keyed_offsetKeyword inside]
        refine Iff.trans further ?_
        simp only [List.length_append, List.length_cons, List.length_nil]
        exact forall₂_congr fun hit _ => by omega
  rw [clear_append, front_iff, clear_append, flat, depthAfter_of_isDigit isRun.2, behind_iff]
  constructor
  · rintro ⟨early, -, late⟩ hit member
    exact ⟨early hit member, late hit member⟩
  · intro all
    exact ⟨fun hit member => (all hit member).1, digits_quiet.clearThrough _,
      fun hit member => (all hit member).2⟩

/-- The offset is lost if it stands in the count only, and if one was asked for. -/
theorem LimitOne.kept_iff (one : LimitOne masked front head count rest) {first offset : Int}
    (nonneg : 0 ≤ first) :
    offsetTail offset (limitAgain first offset masked front head count rest) = [] ↔
      ¬ (0 < offset ∧ OffsetInCount masked
        ⟨(front ++ head).length, (front ++ head).length + count.length⟩) := by
  have isRun : IsRun isDigit (clampCount first count) := isCount_clampCount nonneg count
  have flat : depthAfter 0 ((front ++ head) ++ clampCount first count) = 0 := by
    rw [depthAfter_append, depthAfter_append, one.last.depth, one.isHead.depthAfter,
      depthAfter_of_isDigit isRun.2]
  unfold limitAgain
  by_cases positive : 0 < offset
  · by_cases clear : Clear offsetKeyword 0 none masked
    · -- The offset that was asked for is written behind the count.
      have written := offsetTail_of_clear positive clear
      have kept := not_clear_of_written flat (numeral offset) rest
      rw [List.append_assoc] at kept
      rw [written, offsetTail_eq_nil fun _ => kept]
      simp [OffsetInCount, (clear_iff_topLevelHits_eq_nil keyed_offsetKeyword).1 clear]
    · have none : offsetTail offset masked = [] := offsetTail_eq_nil fun _ => clear
      rw [none, List.nil_append]
      have found : topLevelHits offsetKeyword masked ≠ [] := fun empty =>
        clear ((clear_iff_topLevelHits_eq_nil keyed_offsetKeyword).2 empty)
      have iff := one.clear_offset_iff isRun
      simp only [OffsetInCount, positive, found, ne_eq, not_false_eq_true, true_and, ← iff]
      refine ⟨fun nothing lost => ?_, fun kept => offsetTail_eq_nil fun _ => kept⟩
      rw [offsetTail_of_clear positive lost] at nothing
      have lead : " OFFSET ".toList = ' ' :: "OFFSET ".toList := by decide
      rw [lead] at nothing
      cases nothing
  · refine ⟨fun _ lost => positive lost.1, fun _ => offsetTail_eq_nil fun wanted => ?_⟩
    exact absurd wanted positive

theorem LimitTwo.plan (two : LimitTwo masked front head skipped gap gap' count rest)
    (limit offset : Int) :
    planLimit limit offset masked =
      (countSite (front ++ (head ++ (skipped ++ (gap ++ ',' :: gap')))) count []).edits limit := by
  have last := two.last
  have left : head.length + skipped.length + (gap ++ ',' :: gap').length =
      (head ++ (skipped ++ (gap ++ ',' :: gap'))).length := by
    simp only [List.length_append]
    omega
  rw [left, show head ++ (skipped ++ ((gap ++ ',' :: gap') ++ (count ++ rest))) =
    (head ++ (skipped ++ (gap ++ ',' :: gap'))) ++ (count ++ rest) by simp] at last
  rw [planLimit_of_second limit offset last (by rw [two.split]; simp), Site.edits, countSite,
    List.append_nil]
  rfl

/-- The plan of a statement whose second count was exchanged for digits. -/
theorem LimitTwo.replan (two : LimitTwo masked front head skipped gap gap' count rest)
    {digits rest' : List Char} (isRun : IsRun isDigit digits) (stops : Stops isDigit rest')
    (clear : Clear limitClause 0 (lastBefore none digits) rest') (limit offset : Int) :
    planLimit limit offset
        ((front ++ (head ++ (skipped ++ (gap ++ ',' :: gap')))) ++ (digits ++ rest')) =
      [⟨⟨(front ++ (head ++ (skipped ++ (gap ++ ',' :: gap')))).length,
          (front ++ (head ++ (skipped ++ (gap ++ ',' :: gap')))).length + digits.length⟩,
        clampCount limit digits⟩] := by
  have stops_gap : Stops isWord ((gap ++ ',' :: gap') ++ (digits ++ rest')) := by
    cases gap with
    | nil => exact (by decide : isWord ',' = false)
    | cons c more => exact isWord_eq_false_of_isBlank (two.blank c (by simp))
  exact replan_limit_second two.last two.isHead (two.shape.congr stops_gap) two.blank two.blank'
    isRun stops clear

/-- A statement with two counts is settled unless the clamped one takes digits in. -/
theorem LimitTwo.settles (two : LimitTwo masked front head skipped gap gap' count rest)
    {first : Int} (nonneg : 0 ≤ first) (stops : Stops isDigit rest) (offset : Int) :
    Settles (planLimit · offset) first masked := by
  have isRun : IsRun isDigit (clampCount first count) := isCount_clampCount nonneg count
  have split : masked = (front ++ (head ++ (skipped ++ (gap ++ ',' :: gap')))) ++ (count ++ rest) := by
    rw [two.split]
    simp
  have before := countSite_before (front ++ (head ++ (skipped ++ (gap ++ ',' :: gap')))) count [] rest
  have after := countSite_after (front ++ (head ++ (skipped ++ (gap ++ ',' :: gap')))) count [] rest
  have fits := countSite_fits (front ++ (head ++ (skipped ++ (gap ++ ',' :: gap')))) count [] rest
  rw [← split] at before after fits
  refine .clamps _ fits (fun limit => two.plan limit offset) fun second => ?_
  rw [Site.again, before, after]
  exact two.replan isRun stops (two.clear isRun) second offset

/-! ### Statements that a second plan changes

A count has a digit behind it only if it is a question mark, since a run of digits goes on over that digit.
The limit that takes the place of the mark joins the digits and becomes a greater number. A second plan
clamps that number, unless a second count stands behind the digits: then it clamps that one, which may fit
already. -/

/-- A count that is a question mark with a digit directly behind it. -/
def MarkMeetsDigit (masked : List Char) (count : Span) : Prop :=
  count.slice masked = ['?'] ∧ ∃ c ∈ masked[count.stop]?, isDigit c = true

/-- The characters of a second count that was read. -/
def secondToken (read : List Char × List Char) : List Char :=
  read.1.take (read.1.length - read.2.length)

/-- The digits behind a question mark join the limit that comes in its place; and there is no second
count behind them, or one that the limit changes. -/
def MarkTakesDigits (limit : Int) (masked : List Char) (count : Span) : Prop :=
  MarkMeetsDigit masked count ∧
    ∀ read ∈ secondCount? ((masked.drop count.stop).dropWhile isDigit),
      clampCount limit (secondToken read) ≠ secondToken read

/-- A statement whose bounded form is not bounded by a second plan as it is: the clamped count takes in
the digits behind a question mark, or the only offset was part of the count. -/
def LimitUnstable (limit offset : Int) (masked : List Char) : Prop :=
  ∃ found ∈ lastTopLevel? limitClause masked,
    (∃ count ∈ found.group? 1, MarkMeetsDigit masked count) ∨
      found.group? 1 = none ∧ ∃ count ∈ found.group? 0,
        offsetTail offset masked = [] ∧ MarkTakesDigits limit masked count ∨
          0 < offset ∧ OffsetInCount masked count

instance (masked : List Char) (count : Span) : Decidable (MarkMeetsDigit masked count) :=
  inferInstanceAs (Decidable (_ ∧ _))

instance (limit : Int) (masked : List Char) (count : Span) :
    Decidable (MarkTakesDigits limit masked count) :=
  inferInstanceAs (Decidable (_ ∧ _))

instance (limit offset : Int) (masked : List Char) : Decidable (LimitUnstable limit offset masked) :=
  inferInstanceAs (Decidable (∃ found ∈ _, _ ∨ _))

theorem markMeetsDigit_iff {left : List Char} :
    MarkMeetsDigit (left ++ (count ++ rest)) ⟨left.length, left.length + count.length⟩ ↔
      count = ['?'] ∧ ¬ Stops isDigit rest := by
  have behind : (left ++ (count ++ rest))[left.length + count.length]? = rest.head? := by
    rw [List.getElem?_append_right (by omega), List.getElem?_append_right (by omega),
      List.head?_eq_getElem?]
    congr 1
    omega
  rw [MarkMeetsDigit, slice_append, behind]
  cases rest with
  | nil => simp [Stops]
  | cons c more => simp [Stops]

theorem LimitOne.applyAll (one : LimitOne masked front head count rest) (limit offset : Int) :
    Edit.applyAll (planLimit limit offset masked) masked =
      limitAgain limit offset masked front head count rest := by
  have split : masked = (front ++ head) ++ (count ++ rest) := by
    rw [one.split, List.append_assoc]
  have written := Edit.applyAll_single (front ++ head) count rest
    (clampCount limit count ++ offsetTail offset masked)
  rw [← split] at written
  rw [planLimit_of_first limit offset one.last one.split, written, limitAgain]
  simp only [List.append_assoc]

theorem solid_of_isDigit {digits : List Char} (all : ∀ c ∈ digits, isDigit c = true) :
    ∀ c ∈ digits, isBlank c = false :=
  fun c member => isBlank_eq_false_of_isWord (isWord_of_isDigit (all c member))

/-- Where the clamped count takes no digits in, a second plan only adds an offset that was lost. -/
theorem LimitOne.unchanged_iff_kept (one : LimitOne masked front head count rest) {limit offset : Int}
    (nonneg : 0 ≤ limit) (stops : Stops isDigit (offsetTail offset masked ++ rest)) {text : List Char}
    (shows : Shows (limitAgain limit offset masked front head count rest) text) :
    Edit.applyAll (planLimit limit offset (limitAgain limit offset masked front head count rest)) text =
        text ↔ offsetTail offset (limitAgain limit offset masked front head count rest) = [] := by
  have isRun : IsRun isDigit (clampCount limit count) := isCount_clampCount nonneg count
  rw [one.replan nonneg stops, shows.applyAll_single_iff (solid_of_isDigit isRun.2),
    clampCount_idem nonneg]
  simp

theorem isRun_append {kind : Char → Bool} {left right : List Char} (isRun : IsRun kind left)
    (isRun' : IsRun kind right) : IsRun kind (left ++ right) := by
  refine ⟨by simp [isRun.1], fun c member => ?_⟩
  rcases List.mem_append.1 member with early | late
  · exact isRun.2 c early
  · exact isRun'.2 c late

/-- Behind the digits that a limit has taken in there is no further LIMIT. -/
theorem LimitOne.clear_taken {digits : List Char} (one : LimitOne masked front head count (digits ++ rest))
    {value : List Char} (isValue : IsRun isDigit value) (isRun : IsRun isDigit digits) :
    Clear limitClause 0 (lastBefore none (value ++ digits)) rest := by
  have clear := ((clear_append _ _ _ _).1 (one.clear isValue)).2
  rw [depthAfter_of_isDigit isRun.2] at clear
  rwa [lastBefore_append]

/-- Where the clamped count takes digits in, a second plan changes the statement unless it clamps a
second count that fits. -/
theorem LimitOne.unchanged_iff_taken {digits : List Char}
    (one : LimitOne masked front head ['?'] (digits ++ rest)) {limit offset : Int}
    (positive : 1 ≤ limit) (no_tail : offsetTail offset masked = []) (isRun : IsRun isDigit digits)
    (stops : Stops isDigit rest) {text : List Char}
    (shows : Shows (limitAgain limit offset masked front head ['?'] (digits ++ rest)) text) :
    Edit.applyAll (planLimit limit offset
        (limitAgain limit offset masked front head ['?'] (digits ++ rest))) text = text ↔
      ∃ read ∈ secondCount? rest, clampCount limit (secondToken read) = secondToken read := by
  have nonneg : 0 ≤ limit := by omega
  have isValue : IsRun isDigit (numeral limit) := isCount_numeral nonneg
  have isRun' := isRun_append isValue isRun
  have clear := one.clear_taken isValue isRun
  have whole : limitAgain limit offset masked front head ['?'] (digits ++ rest) =
      (front ++ head) ++ ((numeral limit ++ digits) ++ rest) := by
    rw [limitAgain, no_tail, clampCount_of_none rfl]
    simp only [List.nil_append, List.append_assoc]
  rw [whole] at shows ⊢
  cases second : secondCount? rest with
  | none =>
      rw [replan_limit_first one.last one.isHead isRun' stops clear second,
        shows.applyAll_single_iff (solid_of_isDigit isRun'.2),
        clampCount_numeral_append positive isRun, List.append_cancel_left_eq]
      -- What is written behind the limit begins with a blank, and so is none of the digits.
      refine ⟨fun same => ?_, fun ⟨read, member, _⟩ => nomatch member⟩
      rcases offsetTail_cases offset ((front ++ head) ++ ((numeral limit ++ digits) ++ rest)) with
        none | ⟨-, written⟩
      · rw [none] at same
        exact absurd same.symm isRun.1
      · have lead : " OFFSET ".toList = ' ' :: "OFFSET ".toList := by decide
        rw [written, lead] at same
        have digit := isRun.2 ' ' (by rw [← same]; simp)
        exact absurd digit (by decide)
  | some read =>
      obtain ⟨start, after⟩ := read
      obtain ⟨gap, token, rfl, rfl, counts, -⟩ := secondCount?_eq_some second
      have shows' : Shows ((front ++ head ++ (numeral limit ++ digits) ++ gap) ++ (token ++ after))
          text := by
        simpa using shows
      have solid : ∀ c ∈ token, isBlank c = false := fun c member =>
        isBlank_eq_false_of_isCountChar (counts.isRun.2 c member)
      have same_token : secondToken (token ++ after, after) = token := by
        simp [secondToken]
      rw [replan_limit_joined one.last one.isHead isRun' stops clear second,
        shows'.applyAll_single_iff solid]
      simp [same_token]

/-- No offset begins in a question mark or at a digit behind it. -/
theorem not_offsetInCount_of_mark {left : List Char} (digit : ¬ Stops isDigit rest) :
    ¬ OffsetInCount (left ++ (['?'] ++ rest)) ⟨left.length, left.length + ['?'].length⟩ := by
  rintro ⟨some_hit, inside⟩
  obtain ⟨hit, member⟩ := List.exists_mem_of_ne_nil _ some_hit
  obtain ⟨early, late⟩ := inside hit member
  obtain ⟨c, here, fold⟩ := keyed_offsetKeyword.fold_of_mem member
  simp only [List.length_cons, List.length_nil] at late
  rw [List.getElem?_append_right early] at here
  rcases Nat.lt_or_ge left.length hit.start with behind | at_mark
  · have place : hit.start - left.length = 1 := by omega
    cases rest with
    | nil => exact digit trivial
    | cons d more =>
        rw [place] at here
        cases here
        refine digit ?_
        cases is_digit : isDigit c with
        | false => exact is_digit
        | true => exact absurd fold (keyed_offsetKeyword.fold_ne_of_isDigit is_digit)
  · have place : hit.start - left.length = 0 := by omega
    rw [place] at here
    cases here
    revert fold
    decide

/-- A second plan leaves a statement with one count as it is, unless the clamped count takes in digits
or the offset is lost. -/
theorem LimitOne.unchanged_iff (one : LimitOne masked front head count rest) {limit offset : Int}
    (positive : 1 ≤ limit) {text : List Char}
    (shows : Shows (limitAgain limit offset masked front head count rest) text) :
    Edit.applyAll (planLimit limit offset (limitAgain limit offset masked front head count rest)) text =
        text ↔
      ¬ (offsetTail offset masked = [] ∧ MarkTakesDigits limit masked
            ⟨(front ++ head).length, (front ++ head).length + count.length⟩ ∨
          0 < offset ∧ OffsetInCount masked
            ⟨(front ++ head).length, (front ++ head).length + count.length⟩) := by
  have nonneg : 0 ≤ limit := by omega
  have split : masked = (front ++ head) ++ (count ++ rest) := by
    rw [one.split, List.append_assoc]
  have meets := @markMeetsDigit_iff count rest (front ++ head)
  rw [← split] at meets
  by_cases stops : Stops isDigit (offsetTail offset masked ++ rest)
  · rw [one.unchanged_iff_kept nonneg stops shows, one.kept_iff nonneg]
    have apart : ¬ (offsetTail offset masked = [] ∧ MarkTakesDigits limit masked
        ⟨(front ++ head).length, (front ++ head).length + count.length⟩) := by
      rintro ⟨no_tail, takes, -⟩
      rw [no_tail] at stops
      exact (meets.1 takes).2 stops
    rw [not_or]
    exact ⟨fun kept => ⟨apart, kept⟩, fun stable => stable.2⟩
  · have no_tail : offsetTail offset masked = [] := by
      rcases offsetTail_cases offset masked with none | ⟨-, written⟩
      · exact none
      · exact absurd (by rw [written]; exact stops_written _ _) stops
    rw [no_tail] at stops
    obtain rfl : count = ['?'] := one.shape.countAt.ends.resolve_right stops
    have drops : masked.drop ((front ++ head).length + ['?'].length) = rest := by
      rw [split, ← List.append_assoc, List.drop_left' (by simp only [List.length_append])]
    have kept : ¬ OffsetInCount masked
        ⟨(front ++ head).length, (front ++ head).length + ['?'].length⟩ := by
      have lost := @not_offsetInCount_of_mark rest (front ++ head) stops
      rwa [← split] at lost
    have taken : ∃ digits behind, rest = digits ++ behind ∧ IsRun isDigit digits ∧
        Stops isDigit behind := by
      cases read : run1? isDigit rest with
      | none => exact absurd (run1?_eq_none_iff.1 read) stops
      | some behind =>
          obtain ⟨digits, isRun, split, stops⟩ := run1?_eq_some_iff.1 read
          exact ⟨digits, behind, split, isRun, stops⟩
    obtain ⟨digits, behind, rfl, isRun, stops_behind⟩ := taken
    have dropped : (digits ++ behind).dropWhile isDigit = behind := by
      rw [List.dropWhile_append_of_pos isRun.2, dropWhile_of_stops stops_behind]
    rw [one.unchanged_iff_taken positive no_tail isRun stops_behind shows]
    constructor
    · rintro ⟨read, member, fits⟩ (⟨-, -, changes⟩ | ⟨-, lost⟩)
      · dsimp only at changes
        rw [drops, dropped] at changes
        exact changes read member fits
      · exact kept lost
    · intro stable
      by_contra changes
      refine stable (.inl ⟨no_tail, meets.2 ⟨rfl, stops⟩, ?_⟩)
      dsimp only
      rw [drops, dropped]
      exact fun read member fits => changes ⟨read, member, fits⟩

theorem LimitTwo.split_left (two : LimitTwo masked front head skipped gap gap' count rest) :
    masked = (front ++ (head ++ (skipped ++ (gap ++ ',' :: gap')))) ++ (count ++ rest) := by
  rw [two.split]
  simp

theorem LimitTwo.applyAll (two : LimitTwo masked front head skipped gap gap' count rest)
    (limit offset : Int) :
    Edit.applyAll (planLimit limit offset masked) masked =
      (front ++ (head ++ (skipped ++ (gap ++ ',' :: gap')))) ++ (clampCount limit count ++ rest) := by
  have written := Edit.applyAll_single (front ++ (head ++ (skipped ++ (gap ++ ',' :: gap')))) count rest
    (clampCount limit count)
  rw [← two.split_left] at written
  rw [two.plan, Site.edits, countSite, List.append_nil, List.nil_append, List.nil_append, written]

/-- A second plan leaves a statement with two counts as it is, unless the clamped count takes in
digits. -/
theorem LimitTwo.unchanged_iff (two : LimitTwo masked front head skipped gap gap' count rest)
    {limit offset : Int} (positive : 1 ≤ limit) {text : List Char}
    (shows : Shows (Edit.applyAll (planLimit limit offset masked) masked) text) :
    Edit.applyAll (planLimit limit offset (Edit.applyAll (planLimit limit offset masked) masked)) text =
        text ↔
      ¬ MarkMeetsDigit masked
        ⟨(front ++ (head ++ (skipped ++ (gap ++ ',' :: gap')))).length,
          (front ++ (head ++ (skipped ++ (gap ++ ',' :: gap')))).length + count.length⟩ := by
  have nonneg : 0 ≤ limit := by omega
  have meets := @markMeetsDigit_iff count rest (front ++ (head ++ (skipped ++ (gap ++ ',' :: gap'))))
  rw [← two.split_left] at meets
  rw [two.applyAll] at shows ⊢
  rw [meets]
  by_cases stops : Stops isDigit rest
  · have isRun : IsRun isDigit (clampCount limit count) := isCount_clampCount nonneg count
    rw [two.replan isRun stops (two.clear isRun),
      shows.applyAll_single_iff (solid_of_isDigit isRun.2), clampCount_idem nonneg]
    simp [stops]
  · obtain rfl : count = ['?'] := two.second.countAt.ends.resolve_right stops
    cases read : run1? isDigit rest with
    | none => exact absurd (run1?_eq_none_iff.1 read) stops
    | some behind =>
        obtain ⟨digits, isRun, rfl, stops_behind⟩ := run1?_eq_some_iff.1 read
        have isValue : IsRun isDigit (numeral limit) := isCount_numeral nonneg
        have isRun' := isRun_append isValue isRun
        have clear := ((clear_append _ _ _ _).1 (two.clear isValue)).2
        rw [depthAfter_of_isDigit isRun.2, ← lastBefore_append] at clear
        rw [clampCount_of_none rfl, ← List.append_assoc (numeral limit)] at shows ⊢
        rw [two.replan isRun' stops_behind clear,
          shows.applyAll_single_iff (solid_of_isDigit isRun'.2),
          clampCount_numeral_append positive isRun]
        simp [stops, isRun.1]

variable {text : List Char}

/-- In the dialects that have LIMIT a second plan leaves a bounded statement as it is exactly if the
statement is not one of the unstable ones. -/
theorem planLimit_unchanged_iff {limit offset : Int} (positive : 1 ≤ limit)
    (offset_nonneg : 0 ≤ offset) (depth : depthAfter 0 masked = 0) (same : text.length = masked.length)
    (shows : Shows (Edit.applyAll (planLimit limit offset masked) masked)
      (Edit.applyAll (planLimit limit offset masked) text)) :
    Edit.applyAll (planLimit limit offset (Edit.applyAll (planLimit limit offset masked) masked))
        (Edit.applyAll (planLimit limit offset masked) text) =
      Edit.applyAll (planLimit limit offset masked) text ↔ ¬ LimitUnstable limit offset masked := by
  cases found : lastTopLevel? limitClause masked with
  | none =>
      have settles := settles_planLimit_of_clear (show 0 ≤ limit by omega) offset_nonneg depth
        ((lastTopLevel?_eq_none_iff keyed_limitClause).1 found)
      have again := settles.applyAll (by omega) limit same
      rw [show min limit limit = limit by omega] at again
      simp [again, LimitUnstable, found]
  | some hit =>
      rcases limit_cases found with ⟨front, head, count, rest, one, no_second, place⟩ |
        ⟨front, head, skipped, gap, gap', count, rest, two, place⟩
      · rw [one.applyAll] at shows ⊢
        rw [one.unchanged_iff positive shows]
        simp [LimitUnstable, found, no_second, place]
      · rw [two.unchanged_iff positive shows]
        simp [LimitUnstable, found, place]

/-- In SQL Server a second plan leaves a bounded statement as it is exactly if its TOP met no digit. -/
theorem planSqlServer_unchanged_iff {limit offset : Int} (positive : 1 ≤ limit)
    (offset_nonneg : 0 ≤ offset) (depth : depthAfter 0 masked = 0) (same : text.length = masked.length)
    (shows : Shows (Edit.applyAll (planSqlServer limit offset masked) masked)
      (Edit.applyAll (planSqlServer limit offset masked) text)) :
    Edit.applyAll (planSqlServer limit offset (Edit.applyAll (planSqlServer limit offset masked) masked))
        (Edit.applyAll (planSqlServer limit offset masked) text) =
      Edit.applyAll (planSqlServer limit offset masked) text ↔ ¬ HeadMeetsDigit offset masked := by
  have nonneg : 0 ≤ limit := by omega
  by_cases meets : HeadMeetsDigit offset masked
  · obtain rfl : offset = 0 := meets.1
    obtain ⟨left, digits, rest, split, isRun, plan, again⟩ :=
      planSqlServer_of_headMeetsDigit positive meets
    have isRun' := isRun_append (isCount_numeral nonneg : IsRun isDigit (numeral limit)) isRun
    have bounded : Edit.applyAll (planSqlServer limit 0 masked) masked =
        (left ++ " TOP ".toList) ++ ((numeral limit ++ digits) ++ rest) := by
      rw [plan, split]
      simp [Edit.applyAll, Edit.applyFrom, Edit.insertAt]
    rw [bounded] at shows ⊢
    rw [again, shows.applyAll_single_iff (solid_of_isDigit isRun'.2)]
    simp [meets, isRun.1]
  · have again := (settles_planSqlServer nonneg offset_nonneg depth meets).applyAll nonneg limit same
    rw [show min limit limit = limit by omega] at again
    simp [again, meets]

/-- A statement whose only offset is part of the count that is replaced, if one is asked for. -/
def LosesOffset (offset : Int) (masked : List Char) : Prop :=
  0 < offset ∧ ∃ found ∈ lastTopLevel? limitClause masked,
    found.group? 1 = none ∧ ∃ count ∈ found.group? 0, OffsetInCount masked count

/-- No count of the last LIMIT is a question mark with a digit directly behind it. -/
def MarksApart (masked : List Char) : Prop :=
  ∀ found ∈ lastTopLevel? limitClause masked, ∀ group ∈ found.groups, ∀ count ∈ group,
    ¬ MarkMeetsDigit masked count

instance (offset : Int) (masked : List Char) : Decidable (LosesOffset offset masked) :=
  inferInstanceAs (Decidable (_ ∧ _))

instance (masked : List Char) : Decidable (MarksApart masked) :=
  inferInstanceAs (Decidable (∀ found ∈ _, _))

theorem MarksApart.not_meets (apart : MarksApart masked) {hit : Hit} {index : Nat} {span : Span}
    (found : lastTopLevel? limitClause masked = some hit) (group : hit.group? index = some span) :
    ¬ MarkMeetsDigit masked span := by
  have listed : hit.groups[index]? = some (some span) := Option.join_eq_some_iff.1 group
  exact apart hit found _ (List.mem_of_getElem? listed) span rfl

/-- Two plans of a statement with one count are one with the lesser limit, unless the offset is lost. -/
theorem LimitOne.twice_iff (one : LimitOne masked front head count rest) {first offset : Int}
    (nonneg : 0 ≤ first) (stops : Stops isDigit (offsetTail offset masked ++ rest)) (second : Int)
    (same : text.length = masked.length) :
    Edit.applyAll (planLimit second offset (limitAgain first offset masked front head count rest))
        (Edit.applyAll (planLimit first offset masked) text) =
      Edit.applyAll (planLimit (min first second) offset masked) text ↔
      offsetTail offset (limitAgain first offset masked front head count rest) = [] := by
  have split : masked = (front ++ head) ++ (count ++ rest) := by
    rw [one.split, List.append_assoc]
  have plan : ∀ limit, planLimit limit offset masked =
      (countSite (front ++ head) count (offsetTail offset masked)).edits limit :=
    fun limit => planLimit_of_first limit offset one.last one.split
  have fits := countSite_fits (front ++ head) count (offsetTail offset masked) rest
  have before := countSite_before (front ++ head) count (offsetTail offset masked) rest
  rw [← split] at fits before
  have place : ((countSite (front ++ head) count (offsetTail offset masked)).before text).length =
      (front ++ head).length := by
    rw [Site.length_before_congr _ same, before]
  rw [one.replan nonneg stops, plan, plan, Site.applyAll_edits fits, Site.applyAll_edits fits, ← place]
  change Edit.applyAll [⟨⟨_, _ + (clampCount first count).length⟩, _⟩]
    (_ ++ (clampCount first count ++ _)) = _ ++ (clampCount (min first second) count ++ _) ↔ _
  rw [Edit.applyAll_single, clampCount_clampCount nonneg]
  simp

/-- In the dialects that have LIMIT two plans of a statement are one with the lesser limit exactly if the
offset is not lost. -/
theorem planLimit_twice_iff {first offset : Int} (nonneg : 0 ≤ first) (offset_nonneg : 0 ≤ offset)
    (second : Int) (depth : depthAfter 0 masked = 0) (same : text.length = masked.length)
    (apart : MarksApart masked) :
    Edit.applyAll (planLimit second offset (Edit.applyAll (planLimit first offset masked) masked))
        (Edit.applyAll (planLimit first offset masked) text) =
      Edit.applyAll (planLimit (min first second) offset masked) text ↔ ¬ LosesOffset offset masked := by
  cases found : lastTopLevel? limitClause masked with
  | none =>
      have settles := settles_planLimit_of_clear nonneg offset_nonneg depth
        ((lastTopLevel?_eq_none_iff keyed_limitClause).1 found)
      simp [settles.applyAll nonneg second same, LosesOffset, found]
  | some hit =>
      rcases limit_cases found with ⟨front, head, count, rest, one, no_second, place⟩ |
        ⟨front, head, skipped, gap, gap', count, rest, two, place⟩
      · have split : masked = (front ++ head) ++ (count ++ rest) := by
          rw [one.split, List.append_assoc]
        have meets := apart.not_meets found place
        rw [split, markMeetsDigit_iff] at meets
        have stops : Stops isDigit (offsetTail offset masked ++ rest) := by
          rcases offsetTail_cases offset masked with none | ⟨-, written⟩
          · rw [none]
            rcases one.shape.countAt.ends with mark | stops
            · exact not_not.1 fun digit => meets ⟨mark, digit⟩
            · exact stops
          · rw [written]
            exact stops_written _ _
        rw [one.applyAll, one.twice_iff nonneg stops second same, one.kept_iff nonneg]
        simp [LosesOffset, found, no_second, place]
      · have meets := apart.not_meets found place
        rw [two.split_left, markMeetsDigit_iff] at meets
        have stops : Stops isDigit rest := by
          rcases two.second.countAt.ends with mark | stops
          · exact not_not.1 fun digit => meets ⟨mark, digit⟩
          · exact stops
        simp [(two.settles nonneg stops offset).applyAll nonneg second same, LosesOffset, found, place]

end QueryDesk.Sql
