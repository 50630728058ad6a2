/-
Module: QueryDesk.Proofs.Sql.Relast
Purpose: The last clause of a statement after its count was exchanged for digits. It is still the last
  one, at the same place and with the digits as its count; only what follows a question mark can join
  them. Clauses of another kind are neither made nor lost by the exchange.
Imports: QueryDesk.Proofs.Sql.Exchange
Main exports: lastAt_of_split, LastAt.clear_behind, LimitHead.quiet, limitLast_first, limitLast_second,
  TopHead.quiet, topLast, FetchHead.quiet, fetchLast
-/
import QueryDesk.Proofs.Sql.Exchange

namespace QueryDesk.Sql

open QueryDesk.Text

variable {pattern : Pattern} {letter : Char}

/-! ### Last matches as splits

A clause is the last one if the front is read up to its end, the pattern matches there, and the text behind
the match is clear. An exchange of the count leaves the first of these as it is. The other two are what is
to be shown for each clause. -/

theorem lastAt_of_split {front consumed rest : List Char} {found : Match}
    (depth : depthAfter 0 front = 0) (reached : skipThrough pattern 0 none front (consumed ++ rest) = 0)
    (matched : pattern (lastBefore none front) (consumed ++ rest) = some found)
    (size : found.length = consumed.length)
    (clear : Clear pattern (depthAfter 0 consumed) (lastBefore (lastBefore none front) consumed) rest) :
    LastAt pattern front (consumed ++ rest) found := by
  refine ⟨depth, reached, matched, ?_⟩
  rw [List.take_left' size.symm, List.drop_left' size.symm]
  exact clear

theorem LastAt.clear_behind {front consumed rest : List Char} {found : Match}
    (last : LastAt pattern front (consumed ++ rest) found) (size : found.length = consumed.length) :
    Clear pattern (depthAfter 0 consumed) (lastBefore (lastBefore none front) consumed) rest := by
  have clear := last.clear
  rwa [List.take_left' size.symm, List.drop_left' size.symm] at clear

theorem LastAt.begins (keyed : Keyed pattern letter) {front back : List Char} {found : Match}
    (last : LastAt pattern front back found) : wordBegins (lastBefore none front) = true :=
  (keyed.begins last.matched).1

/-- The front of a last match is read up to its end before every end that may be put in the place of
the match. -/
theorem LastAt.reached_exchange (keyed : Keyed pattern letter) (reads : Local pattern)
    {front back back' : List Char} {found : Match} (last : LastAt pattern front back found)
    (ends : Interchangeable back back') : skipThrough pattern 0 none front back' = 0 :=
  (skipThrough_congr (reads ends (edge_of_wordBegins (last.begins keyed) _)
    (edge_of_wordBegins (last.begins keyed) _)) 0 none).1 last.reached

/-- Where a pattern matches outside of all parentheses the text is not clear. -/
theorem not_clear_of_matched {front back : List Char} {found : Match} (keyed : Keyed pattern letter)
    (depth : depthAfter 0 front = 0) (matched : pattern (lastBefore none front) back = some found) :
    ¬ Clear pattern 0 none (front ++ back) := by
  intro clear
  have behind := ((clear_append _ _ front back).1 clear).2
  rw [depth] at behind
  cases back with
  | nil => simp [keyed.nil] at matched
  | cons c rest =>
      rw [clear_cons] at behind
      rw [behind.1 rfl] at matched
      cases matched

theorem isSome_lastTopLevel?_iff (keyed : Keyed pattern letter) {masked : List Char} :
    (lastTopLevel? pattern masked).isSome = true ↔ ¬ Clear pattern 0 none masked := by
  rw [← lastTopLevel?_eq_none_iff keyed, Option.isSome_iff_ne_none]

/-- A head with digits behind it in which a pattern does not begin may be exchanged for another one in
a clear text. -/
theorem clear_exchange_digits (keyed : Keyed pattern letter) (reads : Local pattern)
    {front head head' digits digits' back : List Char}
    (begins : wordBegins (lastBefore none front) = true)
    (ends : Interchangeable (head ++ (digits ++ back)) (head' ++ (digits' ++ back)))
    (isRun : IsRun isDigit digits) (isRun' : IsRun isDigit digits')
    (quiet : ∀ before after, Quiet pattern before head' after)
    (depth : depthAfter (depthAfter 0 front) head' = depthAfter (depthAfter 0 front) head)
    (clear : Clear pattern 0 none (front ++ (head ++ (digits ++ back)))) :
    Clear pattern 0 none (front ++ (head' ++ (digits' ++ back))) := by
  rw [← List.append_assoc head, ← List.append_assoc head'] at *
  refine clear_exchange keyed (reads ends (edge_of_wordBegins begins _) (edge_of_wordBegins begins _))
    ?_ ?_ ?_ clear
  · rw [quiet_append]
    exact ⟨quiet _ _, keyed.quiet_of_isDigit isRun'.2 _ _⟩
  · rw [depthAfter_append, depthAfter_append, depthAfter_of_isDigit isRun.2,
      depthAfter_of_isDigit isRun'.2, depth]
  · intro starts
    rw [lastBefore_append, wordBegins_of_isDigit isRun'] at starts
    cases starts

/-- A text in which a pattern does not begin may be put in front of a word in a clear text. -/
theorem Clear.insert (keyed : Keyed pattern letter) (reads : Local pattern)
    {front inserted back : List Char} (ends : Interchangeable back (inserted ++ back))
    (begins : wordBegins (lastBefore none front) = true)
    (quiet : Quiet pattern (lastBefore none front) inserted back)
    (flat : ∀ depth, depthAfter depth inserted = depth)
    (clear : Clear pattern 0 none (front ++ back)) :
    Clear pattern 0 none (front ++ (inserted ++ back)) :=
  @clear_exchange pattern letter keyed front [] inserted back
    (reads ends (edge_of_wordBegins begins _) (edge_of_wordBegins begins _)) quiet (flat _)
    (fun _ => begins) clear

/-- A last match behind such a text is the last one. -/
theorem LastAt.insert (keyed : Keyed pattern letter) (reads : Local pattern)
    {front inserted back : List Char} {found : Match} (last : LastAt pattern front back found)
    (ends : Interchangeable back (inserted ++ back))
    (quiet : Quiet pattern (lastBefore none front) inserted back)
    (flat : ∀ depth, depthAfter depth inserted = depth)
    (begins : wordBegins (lastBefore none (front ++ inserted)) = true) :
    LastAt pattern (front ++ inserted) back found := by
  have same := begins.trans (last.begins keyed).symm
  refine ⟨?_, ?_, ?_, ?_⟩
  · rw [depthAfter_append, last.depth, flat]
  · rw [skipThrough_append, last.reached_exchange keyed reads ends]
    exact quiet.skipThrough
  · rw [keyed.context same, last.matched]
  · refine last.clear.mono keyed fun starts => ?_
    cases taken : back.take found.length with
    | nil =>
        rw [taken] at starts
        exact last.begins keyed
    | cons c rest =>
        rw [taken] at starts
        exact starts

theorem LimitHead.quiet {head : List Char} (isHead : LimitHead head) (keyed : Keyed pattern letter)
    (other : 'l' ≠ letter) (before : Option Char) (after : List Char) :
    Quiet pattern before head after := by
  obtain ⟨key, gap, rfl, spelled, isRun⟩ := isHead
  rw [quiet_append]
  exact ⟨keyed.quiet_key spelled (by decide) other before _, keyed.quiet_of_isBlank isRun.2 _ _⟩

theorem LimitHead.depthAfter {head : List Char} (isHead : LimitHead head) (depth : Nat) :
    depthAfter depth head = depth := by
  obtain ⟨key, gap, rfl, spelled, isRun⟩ := isHead
  rw [depthAfter_append, depthAfter_of_isWord fun c => isWord_of_mem_key spelled (by decide),
    depthAfter_of_isBlank isRun.2]

theorem LimitHead.interchangeable {head : List Char} (isHead : LimitHead head)
    (rest rest' : List Char) : Interchangeable (head ++ rest) (head ++ rest') := by
  obtain ⟨key, gap, rfl, spelled, -⟩ := isHead
  rw [List.append_assoc, List.append_assoc]
  exact interchangeable_of_keys spelled (by decide) spelled (by decide) _ _

theorem rowCountAt_of_digits {digits rest : List Char} (isRun : IsRun isDigit digits)
    (stops : Stops isDigit rest) : RowCountAt digits rest :=
  .inr (.inl ⟨isRun, stops⟩)

/-- The front of a last LIMIT is read up to its end whatever follows the head. -/
theorem LimitHead.reached {front head tail : List Char} {found : Match} (isHead : LimitHead head)
    (last : LastAt limitClause front (head ++ tail) found) (tail' : List Char) :
    skipThrough limitClause 0 none front (head ++ tail') = 0 :=
  last.reached_exchange keyed_limitClause local_limitClause (isHead.interchangeable tail tail')

/-- LIMIT with digits behind it. They are its count, or the first one of two. -/
theorem limitLast_first {front head digits rest : List Char} (depth : depthAfter 0 front = 0)
    (reached : skipThrough limitClause 0 none front (head ++ (digits ++ rest)) = 0)
    (begins : wordBegins (lastBefore none front) = true) (isHead : LimitHead head)
    (isRun : IsRun isDigit digits) (stops : Stops isDigit rest)
    (clear : Clear limitClause 0 (lastBefore none digits) rest) :
    (secondCount? rest = none →
      LastAt limitClause front (head ++ (digits ++ rest))
        ⟨head.length + digits.length,
          [some ⟨head.length, head.length + digits.length⟩, none]⟩) ∧
    ∀ gap second after, rest = gap ++ (second ++ after) →
      secondCount? rest = some (second ++ after, after) →
      LastAt limitClause front (head ++ (digits ++ rest))
        ⟨head.length + digits.length + gap.length + second.length,
          [some ⟨head.length, head.length + digits.length⟩,
            some ⟨head.length + digits.length + gap.length,
              head.length + digits.length + gap.length + second.length⟩]⟩ := by
  have read : rowCount? (digits ++ rest) = some rest :=
    rowCount?_eq_some_iff.2 ⟨digits, rfl, rowCountAt_of_digits isRun stops⟩
  have ends : ∀ before, wordBegins (lastBefore before (head ++ digits)) = false := fun before => by
    rw [lastBefore_append]
    exact wordBegins_of_isDigit isRun _
  have flat : depthAfter 0 (head ++ digits) = 0 := by
    rw [depthAfter_append, isHead.depthAfter, depthAfter_of_isDigit isRun.2]
  have behind : ∀ before, Clear limitClause 0 (lastBefore before (head ++ digits)) rest := fun before =>
    clear.mono keyed_limitClause fun starts => by
      rw [ends] at starts
      cases starts
  constructor
  · intro single
    have matched : limitClause (lastBefore none front) (head ++ (digits ++ rest)) = _ :=
      limitClause_eq_some_iff.2 ⟨begins, head, digits, rest, isHead, rfl, read, .inl ⟨single, rfl⟩⟩
    rw [← List.append_assoc] at matched reached ⊢
    refine lastAt_of_split depth reached matched (by simp) ?_
    rw [flat]
    exact behind _
  · rintro gap second after rfl second_read
    have matched : limitClause (lastBefore none front)
        (head ++ (digits ++ (gap ++ (second ++ after)))) = _ :=
      limitClause_eq_some_iff.2 ⟨begins, head, digits, _, isHead, rfl, read,
        .inr ⟨gap, second, after, rfl, second_read, rfl⟩⟩
    obtain ⟨gap', count, split, same, counts, gaps⟩ := secondCount?_eq_some second_read
    obtain rfl := List.append_cancel_right same
    obtain rfl := List.append_cancel_right split
    have gap_flat : ∀ depth, depthAfter depth (gap ++ second) = depth := fun depth => by
      have flat : depthAfter depth gap = depth := depthAfter_of_flat depth fun c member => by
        rcases gaps c member with rfl | blank
        · decide
        · constructor <;> (rintro rfl; revert blank; decide)
      rw [depthAfter_append, flat, depthAfter_of_isCountChar counts.isRun.2]
    have whole : head ++ (digits ++ (gap ++ (second ++ after))) =
        (head ++ digits ++ (gap ++ second)) ++ after := by simp
    rw [whole] at matched reached ⊢
    refine lastAt_of_split depth reached matched ?_ ?_
    · simp only [List.length_append]
      omega
    · have later := behind (lastBefore none front)
      rw [← List.append_assoc, clear_append, gap_flat] at later
      rw [depthAfter_append, flat, gap_flat, lastBefore_append]
      exact later.2

/-- LIMIT with two counts, the second one of which was exchanged for digits. -/
theorem limitLast_second {front head tail first gap gap' digits rest : List Char} {found : Match}
    (last : LastAt limitClause front (head ++ tail) found) (isHead : LimitHead head)
    (first_count : RowCountAt first ((gap ++ ',' :: gap') ++ (digits ++ rest)))
    (blank : ∀ c ∈ gap, isBlank c = true) (blank' : ∀ c ∈ gap', isBlank c = true)
    (isRun : IsRun isDigit digits) (stops : Stops isDigit rest)
    (clear : Clear limitClause 0 (lastBefore none digits) rest) :
    LastAt limitClause front (head ++ (first ++ ((gap ++ ',' :: gap') ++ (digits ++ rest))))
      ⟨head.length + first.length + (gap ++ ',' :: gap').length + digits.length,
        [some ⟨head.length, head.length + first.length⟩,
          some ⟨head.length + first.length + (gap ++ ',' :: gap').length,
            head.length + first.length + (gap ++ ',' :: gap').length + digits.length⟩]⟩ := by
  have begins := last.begins keyed_limitClause
  have read : rowCount? (first ++ ((gap ++ ',' :: gap') ++ (digits ++ rest))) =
      some ((gap ++ ',' :: gap') ++ (digits ++ rest)) :=
    rowCount?_eq_some_iff.2 ⟨first, rfl, first_count⟩
  have second_read : secondCount? ((gap ++ ',' :: gap') ++ (digits ++ rest)) =
      some (digits ++ rest, rest) :=
    secondCount?_eq_some_iff.2 ⟨gap, gap', digits, rfl, rfl, blank, blank', .inl ⟨isRun, stops⟩⟩
  have matched : limitClause (lastBefore none front)
      (head ++ (first ++ ((gap ++ ',' :: gap') ++ (digits ++ rest)))) = _ :=
    limitClause_eq_some_iff.2 ⟨begins, head, first, _, isHead, rfl, read,
      .inr ⟨gap ++ ',' :: gap', digits, rest, rfl, second_read, rfl⟩⟩
  have reached : skipThrough limitClause 0 none front
      (head ++ (first ++ ((gap ++ ',' :: gap') ++ (digits ++ rest)))) = 0 := isHead.reached last _
  have flat : depthAfter 0 (head ++ (first ++ (gap ++ ',' :: (gap' ++ digits)))) = 0 := by
    simp only [depthAfter_append, isHead.depthAfter, depthAfter_of_isCountChar first_count.countAt.isRun.2,
      depthAfter_of_isBlank blank]
    rw [show ',' :: (gap' ++ digits) = [','] ++ (gap' ++ digits) from rfl, depthAfter_append,
      depthAfter_append, depthAfter_of_isBlank blank', depthAfter_of_isDigit isRun.2]
    rfl
  have whole : head ++ (first ++ ((gap ++ ',' :: gap') ++ (digits ++ rest))) =
      (head ++ (first ++ (gap ++ ',' :: (gap' ++ digits)))) ++ rest := by simp
  rw [whole] at matched reached ⊢
  refine lastAt_of_split last.depth reached matched ?_ ?_
  · simp only [List.length_append, List.length_cons]
    omega
  · rw [flat]
    refine clear.mono keyed_limitClause fun starts => ?_
    rw [show head ++ (first ++ (gap ++ ',' :: (gap' ++ digits))) =
      (head ++ (first ++ (gap ++ ',' :: gap'))) ++ digits by simp, lastBefore_append,
      wordBegins_of_isDigit isRun] at starts
    cases starts

theorem Keyed.fold_ne_paren (keyed : Keyed pattern letter) : foldKeyword '(' ≠ letter := by
  rintro rfl
  have none := keyed.isLetter
  revert none
  decide

theorem TopHead.quiet {opens : Bool} {head : List Char} (isHead : TopHead opens head)
    (keyed : Keyed pattern letter) (other : 't' ≠ letter) (before : Option Char)
    (after : List Char) : Quiet pattern before head after := by
  obtain ⟨key, gap, gap', spelled, blank, blank', rfl⟩ := isHead
  have key_quiet : ∀ after, Quiet pattern before key after := fun after =>
    keyed.quiet_key spelled (by decide) other before after
  cases opens with
  | false =>
      rw [if_neg (by decide), quiet_append]
      exact ⟨key_quiet _, keyed.quiet_of_isBlank blank _ _⟩
  | true =>
      rw [if_pos rfl, quiet_append, quiet_append]
      refine ⟨key_quiet _, keyed.quiet_of_isBlank blank _ _, keyed.quiet_of_other ?_ _ _⟩
      intro c member
      rcases List.mem_cons.1 member with rfl | later
      · exact keyed.fold_ne_paren
      · exact keyed.fold_ne_of_isBlank (blank' c later)

theorem TopHead.interchangeable {opens : Bool} {head : List Char} (isHead : TopHead opens head)
    (rest rest' : List Char) : Interchangeable (head ++ rest) (head ++ rest') := by
  obtain ⟨key, gap, gap', spelled, -, -, rfl⟩ := isHead
  cases opens with
  | false =>
      rw [if_neg (by decide), List.append_assoc, List.append_assoc]
      exact interchangeable_of_keys spelled (by decide) spelled (by decide) _ _
  | true =>
      rw [if_pos rfl, List.append_assoc key _ rest, List.append_assoc key _ rest']
      exact interchangeable_of_keys spelled (by decide) spelled (by decide) _ _

/-- TOP with digits behind it, and clear text behind what closes it. -/
theorem topLast {opens : Bool} {front head digits tail after : List Char}
    (depth : depthAfter 0 front = 0)
    (reached : skipThrough topClause 0 none front (head ++ (digits ++ (tail ++ after))) = 0)
    (begins : wordBegins (lastBefore none front) = true) (isHead : TopHead opens head)
    (isRun : IsRun isDigit digits) (stops : Stops isDigit (tail ++ after))
    (closes : topClose opens (tail ++ after) = some after)
    (clear : Clear topClause (depthAfter (depthAfter 0 head) tail)
      (lastBefore (lastBefore none digits) tail) after) :
    ∃ group, LastAt topClause front (head ++ (digits ++ (tail ++ after)))
      ⟨head.length + digits.length + tail.length,
        [group, some ⟨head.length, head.length + digits.length⟩]⟩ := by
  obtain ⟨group, matched⟩ := exists_topClause begins isHead isRun stops closes
  have size : (head ++ (digits ++ (tail ++ after))).length - after.length =
      head.length + digits.length + tail.length := by
    simp only [List.length_append]
    omega
  rw [size] at matched
  have whole : head ++ (digits ++ (tail ++ after)) = (head ++ digits ++ tail) ++ after := by simp
  rw [whole] at matched reached ⊢
  refine ⟨group, lastAt_of_split depth reached matched ?_ ?_⟩
  · simp only [List.length_append]
  · rw [depthAfter_append, depthAfter_append, depthAfter_of_isDigit isRun.2]
    refine clear.mono keyed_topClause fun starts => ?_
    cases tail with
    | nil =>
        rw [List.append_nil, lastBefore_append, wordBegins_of_isDigit isRun] at starts
        cases starts
    | cons c more =>
        rw [lastBefore_append] at starts
        exact starts

theorem FetchHead.quiet {head : List Char} (isHead : FetchHead head) (keyed : Keyed pattern letter)
    (fetch : 'f' ≠ letter) (next : 'n' ≠ letter) (before : Option Char) (after : List Char) :
    Quiet pattern before head after := by
  obtain ⟨key, gap, word, gap', rfl, spelled, isRun, fold, isRun'⟩ := isHead
  simp only [quiet_append]
  refine ⟨keyed.quiet_key spelled (by decide) fetch before _, keyed.quiet_of_isBlank isRun.2 _ _,
    ?_, keyed.quiet_of_isBlank isRun'.2 _ _⟩
  rcases fold with fold | fold
  · exact keyed.quiet_key fold (by decide) next _ _
  · exact keyed.quiet_key fold (by decide) fetch _ _

theorem FetchHead.interchangeable {head : List Char} (isHead : FetchHead head)
    (rest rest' : List Char) : Interchangeable (head ++ rest) (head ++ rest') := by
  obtain ⟨key, gap, word, gap', rfl, spelled, -⟩ := isHead
  rw [List.append_assoc key _ rest, List.append_assoc key _ rest']
  exact interchangeable_of_keys spelled (by decide) spelled (by decide) _ _

theorem FetchHead.depthAfter {head : List Char} (isHead : FetchHead head) (depth : Nat) :
    depthAfter depth head = depth := by
  obtain ⟨key, gap, word, gap', rfl, spelled, isRun, fold, isRun'⟩ := isHead
  have words : ∀ c ∈ word, isWord c = true := by
    rcases fold with fold | fold
    · exact fun c => isWord_of_mem_key fold (by decide)
    · exact fun c => isWord_of_mem_key fold (by decide)
  simp only [depthAfter_append, depthAfter_of_isWord fun c => isWord_of_mem_key spelled (by decide),
    depthAfter_of_isBlank isRun.2, depthAfter_of_isWord words, depthAfter_of_isBlank isRun'.2]

/-- FETCH with digits behind it, and clear text behind what closes it. -/
theorem fetchLast {front head digits tail after : List Char} (depth : depthAfter 0 front = 0)
    (reached : skipThrough fetchClause 0 none front (head ++ (digits ++ (tail ++ after))) = 0)
    (begins : wordBegins (lastBefore none front) = true) (isHead : FetchHead head)
    (isRun : IsRun isDigit digits) (stops : Stops isDigit (tail ++ after))
    (closes : fetchClose (tail ++ after) = some after) (some_tail : tail ≠ [])
    (clear : Clear fetchClause (depthAfter 0 tail) (lastBefore none tail) after) :
    LastAt fetchClause front (head ++ (digits ++ (tail ++ after)))
      ⟨head.length + digits.length + tail.length,
        [some ⟨head.length, head.length + digits.length⟩]⟩ := by
  have size : (head ++ (digits ++ (tail ++ after))).length - after.length =
      head.length + digits.length + tail.length := by
    simp only [List.length_append]
    omega
  have matched : fetchClause (lastBefore none front) (head ++ (digits ++ (tail ++ after))) = _ :=
    fetchClause_eq_some_iff.2 ⟨begins, head, _, isHead, rfl,
      .inl ⟨digits, tail ++ after, after, rfl, isRun, stops, closes, rfl⟩⟩
  rw [size] at matched
  have whole : head ++ (digits ++ (tail ++ after)) = (head ++ digits ++ tail) ++ after := by simp
  rw [whole] at matched reached ⊢
  refine lastAt_of_split depth reached matched (by simp only [List.length_append]) ?_
  rw [depthAfter_append, depthAfter_append, isHead.depthAfter, depthAfter_of_isDigit isRun.2,
    lastBefore_append]
  cases tail with
  | nil => exact absurd rfl some_tail
  | cons c more => exact clear

end QueryDesk.Sql
