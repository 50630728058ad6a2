/-
Module: QueryDesk.Proofs.Sql.ClauseShape
Purpose: The shape of what the clause patterns match. A clause is a head (its keyword with the blanks
  and words that belong to it), a count, and what closes it; the shape gives the positions of the
  counts, and it is also what a pattern needs in order to match. So every pattern is keyed by the
  first letter of its keyword, and OFFSET, SELECT and FETCH are solo.
Imports: QueryDesk.Sql.Warning, QueryDesk.Proofs.Sql.Reading
Main exports: LimitHead, limitClause_eq_some_iff, TopHead, topClause_eq_some, exists_topClause,
  FetchHead, fetchClause_eq_some_iff, wholeWord_eq_some_iff, keyed_limitClause,
  keyed_topClause, keyed_fetchClause, keyed_wholeWord, keyed_selectHead, solo_wholeWord,
  solo_selectHead, solo_fetchClause
-/
import QueryDesk.Sql.Warning
import QueryDesk.Proofs.Sql.Reading

namespace QueryDesk.Sql

open QueryDesk.Text

@[simp]
theorem upTo_append (front back : List Char) (groups : List (Option Span)) :
    upTo (front ++ back) back groups = ⟨front.length, groups⟩ := by
  simp [upTo]

@[simp]
theorem between_append (front middle back : List Char) :
    between (front ++ (middle ++ back)) (middle ++ back) back =
      ⟨front.length, front.length + middle.length⟩ := by
  simp only [between, List.length_append, Span.mk.injEq]
  omega

/-- The keyword LIMIT with the blanks behind it. -/
def LimitHead (head : List Char) : Prop :=
  ∃ key gap, head = key ++ gap ∧ key.map foldKeyword = "limit".toList ∧ IsRun isBlank gap

theorem stops_isBlank_of_isRun {count : List Char} (isRun : IsRun isCountChar count)
    (rest : List Char) : Stops isBlank (count ++ rest) :=
  Stops.append isRun (fun _ => isBlank_eq_false_of_isCountChar) rest

theorem exists_limitHead {text start : List Char}
    (read : (keyword? "limit".toList text).bind blanks1? = some start) :
    ∃ head, LimitHead head ∧ text = head ++ start := by
  obtain ⟨behind, key_read, gap_read⟩ := Option.bind_eq_some_iff.1 read
  obtain ⟨key, spelled, rfl⟩ := keyword?_eq_some_iff.1 key_read
  obtain ⟨gap, isRun, rfl, -⟩ := blanks1?_eq_some_iff.1 gap_read
  exact ⟨key ++ gap, ⟨key, gap, rfl, spelled, isRun⟩, (List.append_assoc _ _ _).symm⟩

theorem limitClause_head {head tail : List Char} {before : Option Char} (isHead : LimitHead head)
    (begins : wordBegins before = true) (stops : Stops isBlank tail) :
    limitClause before (head ++ tail) =
      match rowCount? tail with
      | some rest =>
        match secondCount? rest with
        | some (second, after) =>
          some (upTo (head ++ tail) after
            [some (between (head ++ tail) tail rest), some (between (head ++ tail) second after)])
        | none => some (upTo (head ++ tail) rest [some (between (head ++ tail) tail rest), none])
      | none => none := by
  obtain ⟨key, gap, rfl, spelled, isRun⟩ := isHead
  have key_read : keyword? "limit".toList (key ++ gap ++ tail) = some (gap ++ tail) := by
    rw [← spelled, List.append_assoc]
    exact keyword?_append _
  have gap_read : blanks1? (gap ++ tail) = some tail := by
    rw [blanks1?_eq_run1?, run1?_append isRun, dropWhile_of_stops stops]
  have start : (keyword? "limit".toList (key ++ gap ++ tail)).bind blanks1? = some tail := by
    rw [key_read, Option.bind_some, gap_read]
  refine (if_pos begins).trans ?_
  generalize (keyword? "limit".toList (key ++ gap ++ tail)).bind blanks1? = read at start
  subst start
  rfl

/-- What LIMIT matches: a head, a count, and perhaps a comma with a second count. -/
theorem limitClause_eq_some_iff {before : Option Char} {text : List Char} {found : Match} :
    limitClause before text = some found ↔
      wordBegins before = true ∧ ∃ head count rest, LimitHead head ∧ text = head ++ (count ++ rest) ∧
        rowCount? (count ++ rest) = some rest ∧
        ((secondCount? rest = none ∧
            found = ⟨head.length + count.length,
              [some ⟨head.length, head.length + count.length⟩, none]⟩) ∨
          ∃ gap second after, rest = gap ++ (second ++ after) ∧
            secondCount? rest = some (second ++ after, after) ∧
            found = ⟨head.length + count.length + gap.length + second.length,
              [some ⟨head.length, head.length + count.length⟩,
                some ⟨head.length + count.length + gap.length,
                  head.length + count.length + gap.length + second.length⟩]⟩) := by
  constructor
  · intro matched
    unfold limitClause at matched
    split_ifs at matched with begins
    refine ⟨begins, ?_⟩
    cases head_read : (keyword? "limit".toList text).bind blanks1? with
    | none =>
        rw [head_read] at matched
        cases matched
    | some start =>
        rw [head_read] at matched
        obtain ⟨head, isHead, rfl⟩ := exists_limitHead head_read
        cases count_read : rowCount? start with
        | none => simp [count_read] at matched
        | some rest =>
            obtain ⟨count, rfl, -⟩ := rowCount?_eq_some count_read
            refine ⟨head, count, rest, isHead, rfl, count_read, ?_⟩
            simp only [count_read, between_append] at matched
            cases second_read : secondCount? rest with
            | none =>
                simp only [second_read, Option.some.injEq] at matched
                refine .inl ⟨rfl, ?_⟩
                rw [← matched]
                simp only [upTo, List.length_append, Match.mk.injEq, and_true]
                omega
            | some pair =>
                obtain ⟨second, after⟩ := pair
                obtain ⟨gap', count', rfl, rfl, -⟩ := secondCount?_eq_some second_read
                simp only [second_read, Option.some.injEq] at matched
                refine .inr ⟨gap', count', after, rfl, rfl, ?_⟩
                rw [← matched]
                simp only [upTo, between, List.length_append, Match.mk.injEq,
                  List.cons.injEq, Option.some.injEq, Span.mk.injEq, and_true, true_and]
                omega
  · rintro ⟨begins, head, count, rest, isHead, rfl, count_read, shape⟩
    have stops : Stops isBlank (count ++ rest) := by
      obtain ⟨count', same, counts⟩ := rowCount?_eq_some count_read
      rw [same]
      exact stops_isBlank_of_isRun counts.isRun _
    rw [limitClause_head isHead begins stops, count_read]
    rcases shape with ⟨single, rfl⟩ | ⟨gap, second, after, rfl, second_read, rfl⟩
    · simp only [single, upTo, between, List.length_append, Option.some.injEq, Match.mk.injEq,
        List.cons.injEq, Span.mk.injEq, and_true]
      omega
    · simp only [second_read, upTo, between, List.length_append, Option.some.injEq, Match.mk.injEq,
        List.cons.injEq, Span.mk.injEq, and_true]
      omega

theorem wholeWord_eq_some_iff {word : String} {before : Option Char} {text : List Char}
    {found : Match} :
    wholeWord word before text = some found ↔
      wordBegins before = true ∧ ∃ key rest, key.map foldKeyword = word.toList ∧
        text = key ++ rest ∧ wordEnds rest = true ∧ found = ⟨word.toList.length, []⟩ := by
  have size : ∀ key : List Char, key.map foldKeyword = word.toList → key.length = word.toList.length := by
    intro key spelled
    rw [← spelled, List.length_map]
  rw [wholeWord, wordPattern, plainPattern]
  constructor
  · intro matched
    split_ifs at matched with begins
    obtain ⟨rest, read, rfl⟩ := Option.map_eq_some_iff.1 matched
    obtain ⟨spelled, ends⟩ := wholeWord?_eq_some_iff.1 read
    obtain ⟨key, fold, rfl⟩ := keyword?_eq_some_iff.1 spelled
    exact ⟨begins, key, rest, fold, rfl, ends, by rw [upTo_append, size key fold]⟩
  · rintro ⟨begins, key, rest, fold, rfl, ends, rfl⟩
    have read : wholeWord? word.toList (key ++ rest) = some rest :=
      wholeWord?_eq_some_iff.2 ⟨keyword?_eq_some_iff.2 ⟨key, fold, rfl⟩, ends⟩
    rw [if_pos begins, read, Option.map_some, upTo_append, size key fold]

theorem offsetKeyword_eq_wholeWord : offsetKeyword = wholeWord "offset" := by
  funext before text
  rw [offsetKeyword, wholeWord, wordPattern, plainPattern]
  cases wholeWord? "offset".toList text <;> rfl

/-- What OFFSET matches: its keyword as a whole word. -/
theorem offsetKeyword_eq_some_iff {before : Option Char} {text : List Char} {found : Match} :
    offsetKeyword before text = some found ↔
      wordBegins before = true ∧ ∃ key rest, key.map foldKeyword = "offset".toList ∧
        text = key ++ rest ∧ wordEnds rest = true ∧ found = ⟨6, []⟩ := by
  rw [offsetKeyword_eq_wholeWord]
  exact wholeWord_eq_some_iff

/-- The keyword TOP with what stands before its count: blanks, or an opening parenthesis between
blanks. -/
def TopHead (opens : Bool) (head : List Char) : Prop :=
  ∃ key gap gap', key.map foldKeyword = "top".toList ∧ (∀ c ∈ gap, isBlank c = true) ∧
    (∀ c ∈ gap', isBlank c = true) ∧
    head = if opens then key ++ (gap ++ '(' :: gap') else key ++ gap

/-- What closes a TOP behind its count. -/
def topClose (opens : Bool) (rest : List Char) : Option (List Char) :=
  if opens then char? ')' (blanks rest) else some rest

/-- What TOP matches: a head, a maximal run of digits, and what closes it. -/
theorem topClause_eq_some {before : Option Char} {text : List Char} {found : Match}
    (matched : topClause before text = some found) :
    wordBegins before = true ∧ ∃ opens head count rest after group, TopHead opens head ∧
      text = head ++ (count ++ rest) ∧ IsRun isDigit count ∧ Stops isDigit rest ∧
      topClose opens rest = some after ∧
      found = ⟨text.length - after.length,
        [group, some ⟨head.length, head.length + count.length⟩]⟩ := by
  unfold topClause at matched
  split_ifs at matched with begins
  refine ⟨begins, ?_⟩
  cases key_read : keyword? "top".toList text with
  | none =>
      rw [key_read] at matched
      cases matched
  | some behind =>
      rw [key_read, Option.map_some] at matched
      obtain ⟨key, spelled, rfl⟩ := keyword?_eq_some_iff.1 key_read
      obtain ⟨gap, blank, split, -⟩ := exists_blanks behind
      generalize blanks behind = start at *
      subst split
      cases opening : char? '(' start with
      | none =>
          simp only [opening, digits1?_eq_run1?] at matched
          cases digits : run1? isDigit start with
          | none => simp [digits] at matched
          | some rest =>
              obtain ⟨count, isRun, rfl, stops⟩ := run1?_eq_some_iff.1 digits
              simp only [digits, Option.some.injEq] at matched
              refine ⟨false, key ++ gap, count, rest, rest, none,
                ⟨key, gap, [], spelled, blank, by simp, rfl⟩, by simp, isRun, stops, rfl, ?_⟩
              rw [← matched, ← List.append_assoc key, between_append]
              rfl
      | some opened =>
          obtain ⟨gap', blank', split, -⟩ := exists_blanks opened
          simp only [opening, digits1?_eq_run1?] at matched
          generalize blanks opened = inner at *
          subst split
          rw [char?_eq_some_iff] at opening
          subst opening
          cases digits : run1? isDigit inner with
          | none => simp [digits] at matched
          | some rest =>
              obtain ⟨count, isRun, rfl, stops⟩ := run1?_eq_some_iff.1 digits
              simp only [digits] at matched
              cases closing : char? ')' (blanks rest) with
              | none => simp [closing] at matched
              | some after =>
                  simp only [closing, Option.some.injEq] at matched
                  refine ⟨true, key ++ (gap ++ '(' :: gap'), count, rest, after,
                    some (between (key ++ (gap ++ '(' :: (gap' ++ (count ++ rest))))
                      ('(' :: (gap' ++ (count ++ rest))) (count ++ rest)),
                    ⟨key, gap, gap', spelled, blank, blank', rfl⟩, by simp, isRun, stops, closing,
                    ?_⟩
                  have whole : key ++ (gap ++ '(' :: (gap' ++ (count ++ rest))) =
                      key ++ (gap ++ '(' :: gap') ++ (count ++ rest) := by simp
                  rw [← matched, whole, between_append]
                  rfl

/-- Whatever has the shape of a TOP is matched by it. -/
theorem exists_topClause {before : Option Char} {opens : Bool} {head count rest after : List Char}
    (begins : wordBegins before = true) (isHead : TopHead opens head) (isRun : IsRun isDigit count)
    (stops : Stops isDigit rest) (closes : topClose opens rest = some after) :
    ∃ group, topClause before (head ++ (count ++ rest)) =
      some ⟨(head ++ (count ++ rest)).length - after.length,
        [group, some ⟨head.length, head.length + count.length⟩]⟩ := by
  obtain ⟨key, gap, gap', spelled, blank, blank', rfl⟩ := isHead
  have digits : run1? isDigit (count ++ rest) = some rest := by
    rw [run1?_append isRun, dropWhile_of_stops stops]
  have no_blank : Stops isBlank (count ++ rest) :=
    Stops.append isRun (fun _ => isBlank_eq_false_of_isDigit) rest
  cases opens with
  | false =>
      simp only [Bool.false_eq_true, if_false]
      have key_read : keyword? "top".toList (key ++ gap ++ (count ++ rest)) =
          some (gap ++ (count ++ rest)) := by
        rw [← spelled, List.append_assoc]
        exact keyword?_append _
      have opening : char? '(' (count ++ rest) = none := by
        obtain ⟨nonempty, all⟩ := isRun
        cases count with
        | nil => exact absurd rfl nonempty
        | cons c more =>
            rw [List.cons_append, char?, if_neg]
            rintro same
            have digit := all c (by simp)
            rw [beq_iff_eq.1 same] at digit
            revert digit
            decide
      obtain rfl : rest = after := Option.some.inj closes
      refine ⟨none, ?_⟩
      rw [topClause, if_pos begins, key_read, Option.map_some, blanks_append blank no_blank]
      simp only [opening, digits1?_eq_run1?, digits, between_append]
      rfl
  | true =>
      simp only [if_true]
      have key_read : keyword? "top".toList (key ++ (gap ++ '(' :: gap') ++ (count ++ rest)) =
          some (gap ++ '(' :: (gap' ++ (count ++ rest))) := by
        rw [← spelled, List.append_assoc, keyword?_append]
        simp
      have closing : char? ')' (blanks rest) = some after := closes
      have opening : char? '(' ('(' :: (gap' ++ (count ++ rest))) = some (gap' ++ (count ++ rest)) :=
        rfl
      have paren : Stops isBlank ('(' :: (gap' ++ (count ++ rest))) :=
        (by decide : isBlank '(' = false)
      refine ⟨some (between (key ++ (gap ++ '(' :: gap') ++ (count ++ rest))
        ('(' :: (gap' ++ (count ++ rest))) (count ++ rest)), ?_⟩
      rw [topClause, if_pos begins, key_read, Option.map_some,
        blanks_append blank paren]
      simp only [opening, blanks_append blank' no_blank, digits1?_eq_run1?, digits, closing,
        between_append]
      rfl

/-- The words FETCH NEXT or FETCH FIRST with the blanks behind them. -/
def FetchHead (head : List Char) : Prop :=
  ∃ key gap word gap', head = key ++ (gap ++ (word ++ gap')) ∧
    key.map foldKeyword = "fetch".toList ∧ IsRun isBlank gap ∧
    (word.map foldKeyword = "next".toList ∨ word.map foldKeyword = "first".toList) ∧
    IsRun isBlank gap'

theorem nextOrFirst?_eq_some_iff {text rest : List Char} :
    nextOrFirst? text = some rest ↔ ∃ word, text = word ++ rest ∧
      (word.map foldKeyword = "next".toList ∨ word.map foldKeyword = "first".toList) := by
  rw [nextOrFirst?]
  constructor
  · intro read
    cases next : keyword? "next".toList text with
    | some rest' =>
        rw [next] at read
        cases read
        obtain ⟨word, spelled, split⟩ := keyword?_eq_some_iff.1 next
        exact ⟨word, split, .inl spelled⟩
    | none =>
        rw [next] at read
        obtain ⟨word, spelled, split⟩ := keyword?_eq_some_iff.1 read
        exact ⟨word, split, .inr spelled⟩
  · rintro ⟨word, rfl, spelled | spelled⟩
    · rw [← spelled, keyword?_append]
    · have other : keyword? "next".toList (word ++ rest) = none := by
        cases word with
        | nil => cases spelled
        | cons c more =>
            have first : foldKeyword c = 'f' := (List.cons.inj spelled).1
            rw [List.cons_append]
            show (if foldKeyword c == 'n' then _ else none) = none
            rw [if_neg]
            rw [first]
            decide
      rw [other, ← spelled]
      exact keyword?_append _

theorem exists_fetchHead {text start : List Char}
    (read : (((keyword? "fetch".toList text).bind blanks1?).bind nextOrFirst?).bind blanks1? = some start) :
    ∃ head, FetchHead head ∧ text = head ++ start := by
  obtain ⟨behind', words_read, gap_read'⟩ := Option.bind_eq_some_iff.1 read
  obtain ⟨behind, keys_read, word_read⟩ := Option.bind_eq_some_iff.1 words_read
  obtain ⟨tail, key_read, gap_read⟩ := Option.bind_eq_some_iff.1 keys_read
  obtain ⟨key, spelled, rfl⟩ := keyword?_eq_some_iff.1 key_read
  obtain ⟨gap, isRun, rfl, -⟩ := blanks1?_eq_some_iff.1 gap_read
  obtain ⟨word, rfl, fold⟩ := nextOrFirst?_eq_some_iff.1 word_read
  obtain ⟨gap', isRun', rfl, -⟩ := blanks1?_eq_some_iff.1 gap_read'
  exact ⟨key ++ (gap ++ (word ++ gap')), ⟨key, gap, word, gap', rfl, spelled, isRun, fold, isRun'⟩, by simp⟩

/-- The characters of ROWS or ROW at a head. -/
theorem rowsWord?_eq_some {text rest : List Char} (read : rowsWord? text = some rest) :
    ∃ word, text = word ++ rest ∧ IsRun isWord word ∧ wordEnds rest = true ∧
      (word.map foldKeyword = "rows".toList ∨ word.map foldKeyword = "row".toList) := by
  have whole : ∀ {name : List Char}, name ≠ [] → name.all isKeywordLetter = true →
      wholeWord? name text = some rest → ∃ word, text = word ++ rest ∧ IsRun isWord word ∧
        wordEnds rest = true ∧ word.map foldKeyword = name := by
    intro name nonempty letters read
    obtain ⟨spelled, ends⟩ := wholeWord?_eq_some_iff.1 read
    obtain ⟨word, fold, split⟩ := keyword?_eq_some_iff.1 spelled
    refine ⟨word, split, ⟨?_, fun c => isWord_of_mem_key fold letters⟩, ends, fold⟩
    rintro rfl
    exact nonempty fold.symm
  unfold rowsWord? at read
  split at read
  next rows =>
    cases read
    obtain ⟨word, split, isRun, ends, fold⟩ := whole (by decide) (by decide) rows
    exact ⟨word, split, isRun, ends, .inl fold⟩
  next =>
    obtain ⟨word, split, isRun, ends, fold⟩ := whole (by decide) (by decide) read
    exact ⟨word, split, isRun, ends, .inr fold⟩

/-- What closes a FETCH behind its count. -/
def fetchClose (rest : List Char) : Option (List Char) :=
  (blanks1? rest).bind rowsWord?

theorem fetchClause_head {head tail : List Char} {before : Option Char} (isHead : FetchHead head)
    (begins : wordBegins before = true) (stops : Stops isBlank tail) :
    fetchClause before (head ++ tail) =
      match digits1? tail with
      | some rest =>
        match fetchClose rest with
        | some after => some (upTo (head ++ tail) after [some (between (head ++ tail) tail rest)])
        | none => none
      | none =>
        match rowsWord? tail with
        | some after => some (upTo (head ++ tail) after [none])
        | none => none := by
  obtain ⟨key, gap, word, gap', rfl, spelled, isRun, fold, isRun'⟩ := isHead
  have word_stops : Stops isBlank (word ++ (gap' ++ tail)) := by
    have letters : ∀ c ∈ word, isWord c = true := by
      rcases fold with fold | fold
      · exact fun c => isWord_of_mem_key fold (by decide)
      · exact fun c => isWord_of_mem_key fold (by decide)
    have nonempty : word ≠ [] := by
      rintro rfl
      rcases fold with fold | fold <;> cases fold
    exact Stops.append ⟨nonempty, letters⟩ (fun _ => isBlank_eq_false_of_isWord) _
  have key_read : keyword? "fetch".toList (key ++ (gap ++ (word ++ gap')) ++ tail) =
      some (gap ++ (word ++ (gap' ++ tail))) := by
    rw [← spelled, List.append_assoc, keyword?_append]
    simp
  have gap_read : blanks1? (gap ++ (word ++ (gap' ++ tail))) = some (word ++ (gap' ++ tail)) := by
    rw [blanks1?_eq_run1?, run1?_append isRun, dropWhile_of_stops word_stops]
  have word_read : nextOrFirst? (word ++ (gap' ++ tail)) = some (gap' ++ tail) :=
    nextOrFirst?_eq_some_iff.2 ⟨word, rfl, fold⟩
  have gap_read' : blanks1? (gap' ++ tail) = some tail := by
    rw [blanks1?_eq_run1?, run1?_append isRun', dropWhile_of_stops stops]
  rw [fetchClause, if_pos begins, key_read, Option.bind_some, gap_read, Option.bind_some, word_read,
    Option.bind_some, gap_read']
  rfl

/-- What FETCH matches: a head, a count or none, and the word ROWS or ROW. -/
theorem fetchClause_eq_some_iff {before : Option Char} {text : List Char} {found : Match} :
    fetchClause before text = some found ↔
      wordBegins before = true ∧ ∃ head tail, FetchHead head ∧ text = head ++ tail ∧
        ((∃ count rest after, tail = count ++ rest ∧ IsRun isDigit count ∧ Stops isDigit rest ∧
            fetchClose rest = some after ∧
            found = ⟨text.length - after.length,
              [some ⟨head.length, head.length + count.length⟩]⟩) ∨
          ∃ after, rowsWord? tail = some after ∧ found = ⟨text.length - after.length, [none]⟩) := by
  constructor
  · intro matched
    unfold fetchClause at matched
    split_ifs at matched with begins
    refine ⟨begins, ?_⟩
    cases head_read : (((keyword? "fetch".toList text).bind blanks1?).bind nextOrFirst?).bind blanks1? with
    | none =>
        rw [head_read] at matched
        cases matched
    | some tail =>
        rw [head_read] at matched
        obtain ⟨head, isHead, rfl⟩ := exists_fetchHead head_read
        refine ⟨head, tail, isHead, rfl, ?_⟩
        dsimp only at matched
        cases digits : digits1? tail with
        | some rest =>
            simp only [digits] at matched
            obtain ⟨count, isRun, rfl, stops⟩ := digits1?_eq_some_iff.1 digits
            cases closing : (blanks1? rest).bind rowsWord? with
            | none => simp [closing] at matched
            | some after =>
                simp only [closing, Option.some.injEq] at matched
                refine .inl ⟨count, rest, after, rfl, isRun, stops, closing, ?_⟩
                rw [← matched, between_append]
                rfl
        | none =>
            simp only [digits] at matched
            cases rows : rowsWord? tail with
            | none => simp [rows] at matched
            | some after =>
                simp only [rows, Option.some.injEq] at matched
                exact .inr ⟨after, rfl, matched.symm⟩
  · rintro ⟨begins, head, tail, isHead, rfl, ⟨count, rest, after, rfl, isRun, stops, closing, rfl⟩ |
      ⟨after, rows, rfl⟩⟩
    · rw [fetchClause_head isHead begins
        (Stops.append isRun (fun _ => isBlank_eq_false_of_isDigit) rest),
        digits1?_eq_some_iff.2 ⟨count, isRun, rfl, stops⟩]
      simp only [closing, between_append]
      rfl
    · obtain ⟨word, rfl, isRun, -, fold⟩ := rowsWord?_eq_some rows
      have no_blank : Stops isBlank (word ++ after) :=
        Stops.append isRun (fun _ => isBlank_eq_false_of_isWord) after
      have no_digit : digits1? (word ++ after) = none := by
        rw [digits1?_eq_run1?, run1?_eq_none_iff]
        cases word with
        | nil => exact absurd rfl isRun.1
        | cons c more =>
            have first : foldKeyword c = 'r' := by
              rcases fold with fold | fold <;> exact (List.cons.inj fold).1
            exact isDigit_eq_false_of_foldKeyword (by rw [first]; decide)
      rw [fetchClause_head isHead begins no_blank, no_digit, rows]
      rfl

/-- What stands behind the keyword of a SELECT head: nothing, or DISTINCT or ALL after blanks. -/
def SelectRest (more : List Char) : Prop :=
  more = [] ∨ ∃ gap word, more = gap ++ word ∧ IsRun isBlank gap ∧
    (word.map foldKeyword = "distinct".toList ∨ word.map foldKeyword = "all".toList)

/-- The characters of DISTINCT or ALL at a head. -/
theorem distinctOrAll?_eq_some {text rest : List Char} (read : distinctOrAll? text = some rest) :
    ∃ word, text = word ++ rest ∧ wordEnds rest = true ∧
      (word.map foldKeyword = "distinct".toList ∨ word.map foldKeyword = "all".toList) := by
  unfold distinctOrAll? at read
  split at read
  next distinct =>
    cases read
    obtain ⟨spelled, ends⟩ := wholeWord?_eq_some_iff.1 distinct
    obtain ⟨word, fold, split⟩ := keyword?_eq_some_iff.1 spelled
    exact ⟨word, split, ends, .inl fold⟩
  next =>
    obtain ⟨spelled, ends⟩ := wholeWord?_eq_some_iff.1 read
    obtain ⟨word, fold, split⟩ := keyword?_eq_some_iff.1 spelled
    exact ⟨word, split, ends, .inr fold⟩

/-- What a SELECT head matches: its keyword, with DISTINCT or ALL if that is the next word. -/
theorem selectHead_eq_some {before : Option Char} {text : List Char} {found : Match}
    (matched : selectHead before text = some found) :
    wordBegins before = true ∧ ∃ key more after, key.map foldKeyword = "select".toList ∧
      SelectRest more ∧ text = key ++ (more ++ after) ∧ found = ⟨key.length + more.length, []⟩ := by
  unfold selectHead at matched
  split_ifs at matched with begins
  refine ⟨begins, ?_⟩
  cases key_read : keyword? "select".toList text with
  | none =>
      rw [key_read] at matched
      cases matched
  | some rest =>
      rw [key_read] at matched
      obtain ⟨key, spelled, rfl⟩ := keyword?_eq_some_iff.1 key_read
      dsimp only at matched
      cases more_read : (blanks1? rest).bind distinctOrAll? with
      | none =>
          simp only [more_read, upTo_append, Option.some.injEq] at matched
          exact ⟨key, [], rest, spelled, .inl rfl, by simp, by simp [← matched]⟩
      | some after =>
          simp only [more_read, Option.some.injEq] at matched
          obtain ⟨start, gap_read, word_read⟩ := Option.bind_eq_some_iff.1 more_read
          obtain ⟨gap, isRun, rfl, -⟩ := blanks1?_eq_some_iff.1 gap_read
          obtain ⟨word, rfl, -, fold⟩ := distinctOrAll?_eq_some word_read
          refine ⟨key, gap ++ word, after, spelled, .inr ⟨gap, word, rfl, isRun, fold⟩, by simp, ?_⟩
          rw [← matched]
          simp only [upTo, List.length_append, Match.mk.injEq, and_true]
          omega

/-! ### The patterns are keyed

How matches are found in a text does not depend on the shape of a clause, but only on its pattern being
`Keyed`: it begins with the letter of its keyword, where a word begins, and it holds no closing parenthesis
but one at its end. This is read off the shape. -/

theorem exists_cons_of_map {key word : List Char} {first : Char}
    (spelled : key.map foldKeyword = first :: word) :
    ∃ c rest, key = c :: rest ∧ foldKeyword c = first ∧ rest.map foldKeyword = word := by
  cases key with
  | nil => cases spelled
  | cons c rest => exact ⟨c, rest, rfl, (List.cons.inj spelled).1, (List.cons.inj spelled).2⟩

theorem not_mem_of_isWord {text : List Char} (words : ∀ c ∈ text, isWord c = true) :
    ')' ∉ text := by
  intro member
  have word := words _ member
  revert word
  decide

theorem not_mem_of_isBlank {text : List Char} (blank : ∀ c ∈ text, isBlank c = true) :
    ')' ∉ text := by
  intro member
  have is_blank := blank _ member
  revert is_blank
  decide

theorem not_mem_of_isCountChar {text : List Char} (counts : ∀ c ∈ text, isCountChar c = true) :
    ')' ∉ text := by
  intro member
  have is_count := counts _ member
  revert is_count
  decide

theorem not_mem_take {read after : List Char} (opens : ')' ∉ read) (n : Nat) (short : n ≤ read.length) :
    ')' ∉ (read ++ after).take n := by
  rw [List.take_append_of_le_length short]
  exact fun member => opens (List.mem_of_mem_take member)

theorem LimitHead.not_mem {head : List Char} (isHead : LimitHead head) : ')' ∉ head := by
  obtain ⟨key, gap, rfl, spelled, isRun⟩ := isHead
  rw [List.mem_append, not_or]
  exact ⟨not_mem_of_isWord fun c => isWord_of_mem_key spelled (by decide),
    not_mem_of_isBlank isRun.2⟩

theorem keyed_limitClause : Keyed limitClause 'l' where
  isLetter := by decide
  begins := by
    intro before text found matched
    obtain ⟨begins, head, count, rest, ⟨key, gap, rfl, spelled, -⟩, rfl, -⟩ :=
      limitClause_eq_some_iff.1 matched
    obtain ⟨c, more, rfl, fold, -⟩ := exists_cons_of_map spelled
    exact ⟨begins, c, _, rfl, fold⟩
  extent := by
    intro before text found matched
    obtain ⟨-, head, count, rest, ⟨key, gap, rfl, spelled, isRun⟩, rfl, -,
      ⟨-, rfl⟩ | ⟨gap', second, after, rfl, -, rfl⟩⟩ := limitClause_eq_some_iff.1 matched
    all_goals
      have := List.length_pos_of_ne_nil isRun.1
      simp only [List.length_append]
      omega
  context := by
    intro before before' text same
    rw [limitClause, limitClause, same]
  opens := by
    intro before text found matched
    obtain ⟨-, head, count, rest, isHead, rfl, count_read, shape⟩ :=
      limitClause_eq_some_iff.1 matched
    obtain ⟨count', same, counts⟩ := rowCount?_eq_some count_read
    obtain rfl := List.append_cancel_right same
    have head_opens := isHead.not_mem
    have count_opens := not_mem_of_isCountChar counts.isRun.2
    rcases shape with ⟨-, rfl⟩ | ⟨gap, second, after, rfl, second_read, rfl⟩
    · rw [← List.append_assoc]
      refine not_mem_take ?_ _ (by simp only [List.length_append]; omega)
      simp [head_opens, count_opens]
    · obtain ⟨gap', second', split, tail, counts', gaps⟩ := secondCount?_eq_some second_read
      obtain rfl := List.append_cancel_right tail
      obtain rfl := List.append_cancel_right split
      have gap_opens : ')' ∉ gap := by
        intro member
        rcases gaps _ member with comma | blank
        · revert comma
          decide
        · revert blank
          decide
      rw [show head ++ (count ++ (gap ++ (second ++ after))) =
        (head ++ count ++ gap ++ second) ++ after by simp]
      refine not_mem_take ?_ _ (by simp only [List.length_append]; omega)
      simp [head_opens, count_opens, gap_opens, not_mem_of_isCountChar counts'.isRun.2]

theorem keyed_wholeWord {word : String} {letter : Char} (first : word.toList.head? = some letter)
    (letters : word.toList.all isKeywordLetter = true) : Keyed (wholeWord word) letter where
  isLetter := List.all_eq_true.1 letters letter (List.mem_of_mem_head? first)
  begins := by
    intro before text found matched
    obtain ⟨begins, key, rest, spelled, rfl, -⟩ := wholeWord_eq_some_iff.1 matched
    obtain ⟨more, split⟩ := List.head?_eq_some_iff.1 first
    obtain ⟨c, more', rfl, fold, -⟩ := exists_cons_of_map (spelled.trans split)
    exact ⟨begins, c, _, rfl, fold⟩
  extent := by
    intro before text found matched
    obtain ⟨-, key, rest, spelled, rfl, -, rfl⟩ := wholeWord_eq_some_iff.1 matched
    obtain ⟨more, split⟩ := List.head?_eq_some_iff.1 first
    obtain ⟨c, more', rfl, -⟩ := exists_cons_of_map (spelled.trans split)
    rw [← spelled]
    simp only [List.length_map, List.length_cons, List.length_append]
    omega
  context := by
    intro before before' text same
    rw [wholeWord, wordPattern, wordPattern, same]
    rfl
  opens := by
    intro before text found matched
    obtain ⟨-, key, rest, spelled, rfl, -, rfl⟩ := wholeWord_eq_some_iff.1 matched
    rw [← spelled, List.length_map]
    exact not_mem_take (not_mem_of_isWord fun c => isWord_of_mem_key spelled letters) _ (Nat.sub_le _ _)

theorem keyed_offsetKeyword : Keyed offsetKeyword 'o' :=
  offsetKeyword_eq_wholeWord ▸ keyed_wholeWord (by decide) (by decide)

theorem keyed_selectHead : Keyed selectHead 's' where
  isLetter := by decide
  begins := by
    intro before text found matched
    obtain ⟨begins, key, more, after, spelled, -, rfl, -⟩ := selectHead_eq_some matched
    obtain ⟨c, rest, rfl, fold, -⟩ := exists_cons_of_map spelled
    exact ⟨begins, c, _, rfl, fold⟩
  extent := by
    intro before text found matched
    obtain ⟨-, key, more, after, spelled, -, rfl, rfl⟩ := selectHead_eq_some matched
    obtain ⟨c, rest, rfl, -⟩ := exists_cons_of_map spelled
    simp only [List.length_append, List.length_cons]
    omega
  context := by
    intro before before' text same
    rw [selectHead, selectHead, same]
  opens := by
    intro before text found matched
    obtain ⟨-, key, more, after, spelled, shape, rfl, rfl⟩ := selectHead_eq_some matched
    have key_opens := not_mem_of_isWord fun c => isWord_of_mem_key spelled (by decide)
    have more_opens : ')' ∉ more := by
      rcases shape with rfl | ⟨gap, word, rfl, isRun, fold⟩
      · simp
      · rw [List.mem_append, not_or]
        refine ⟨not_mem_of_isBlank isRun.2, not_mem_of_isWord fun c => ?_⟩
        rcases fold with fold | fold
        · exact isWord_of_mem_key fold (by decide)
        · exact isWord_of_mem_key fold (by decide)
    rw [← List.append_assoc]
    refine not_mem_take ?_ _ (by simp only [List.length_append]; omega)
    simp [key_opens, more_opens]

theorem topClose_eq_some {opens : Bool} {rest after : List Char}
    (closes : topClose opens rest = some after) :
    ∃ tail, rest = tail ++ after ∧ ')' ∉ tail.dropLast ∧ (opens = false → tail = []) := by
  cases opens with
  | false => exact ⟨[], by simpa [topClose] using closes, by simp, fun _ => rfl⟩
  | true =>
      obtain ⟨gap, blank, split, -⟩ := exists_blanks rest
      have behind : blanks rest = ')' :: after := char?_eq_some_iff.1 closes
      refine ⟨gap ++ [')'], ?_, ?_, by simp⟩
      · nth_rewrite 1 [split]
        rw [behind]
        simp
      · rw [List.dropLast_concat]
        exact not_mem_of_isBlank blank

theorem TopHead.not_mem {opens : Bool} {head : List Char} (isHead : TopHead opens head) :
    ')' ∉ head := by
  obtain ⟨key, gap, gap', spelled, blank, blank', rfl⟩ := isHead
  have key_opens := not_mem_of_isWord fun c => isWord_of_mem_key spelled (by decide)
  cases opens with
  | false => simp [key_opens, not_mem_of_isBlank blank]
  | true => simp [key_opens, not_mem_of_isBlank blank, not_mem_of_isBlank blank']

theorem keyed_topClause : Keyed topClause 't' where
  isLetter := by decide
  begins := by
    intro before text found matched
    obtain ⟨begins, opens, head, count, rest, after, group,
      ⟨key, gap, gap', spelled, -, -, rfl⟩, rfl, -⟩ := topClause_eq_some matched
    obtain ⟨c, more, rfl, fold, -⟩ := exists_cons_of_map spelled
    refine ⟨begins, ?_⟩
    cases opens with
    | false => exact ⟨c, _, rfl, fold⟩
    | true => exact ⟨c, _, rfl, fold⟩
  extent := by
    intro before text found matched
    obtain ⟨-, opens, head, count, rest, after, group, -, rfl, isRun, -, closes, rfl⟩ :=
      topClause_eq_some matched
    obtain ⟨tail, rfl, -⟩ := topClose_eq_some closes
    have := List.length_pos_of_ne_nil isRun.1
    simp only [List.length_append]
    omega
  context := by
    intro before before' text same
    rw [topClause, topClause, same]
  opens := by
    intro before text found matched
    obtain ⟨-, opens, head, count, rest, after, group, isHead, rfl, isRun, -, closes, rfl⟩ :=
      topClause_eq_some matched
    obtain ⟨tail, rfl, tail_opens, -⟩ := topClose_eq_some closes
    have count_opens := not_mem_of_isCountChar fun c member =>
      isCountChar_of_isDigit (isRun.2 c member)
    have nonempty := List.length_pos_of_ne_nil isRun.1
    have whole : head ++ (count ++ (tail ++ after)) = head ++ count ++ (tail ++ after) := by simp
    rcases List.eq_nil_or_concat tail with rfl | ⟨init, c, rfl⟩
    · rw [whole]
      refine not_mem_take ?_ _ (by simp only [List.length_append, List.length_nil]; omega)
      simp [isHead.not_mem, count_opens]
    · rw [List.concat_eq_append, List.dropLast_concat] at tail_opens
      rw [show head ++ (count ++ (init.concat c ++ after)) =
        (head ++ count ++ init) ++ (c :: after) by simp]
      refine not_mem_take ?_ _ (by simp only [List.length_append, List.length_cons]; omega)
      simp [isHead.not_mem, count_opens, tail_opens]

theorem fetchClose_eq_some {rest after : List Char} (closes : fetchClose rest = some after) :
    ∃ gap word, rest = gap ++ (word ++ after) ∧ IsRun isBlank gap ∧ IsRun isWord word ∧
      wordEnds after = true ∧
      (word.map foldKeyword = "rows".toList ∨ word.map foldKeyword = "row".toList) := by
  obtain ⟨start, gap_read, word_read⟩ := Option.bind_eq_some_iff.1 closes
  obtain ⟨gap, isRun, rfl, -⟩ := blanks1?_eq_some_iff.1 gap_read
  obtain ⟨word, rfl, words, ends, fold⟩ := rowsWord?_eq_some word_read
  exact ⟨gap, word, rfl, isRun, words, ends, fold⟩

/-- What FETCH matches, as the head and what is read behind it. -/
theorem fetchClause_split {before : Option Char} {text : List Char} {found : Match}
    (matched : fetchClause before text = some found) :
    ∃ key gap word gap' tail after, key.map foldKeyword = "fetch".toList ∧ IsRun isBlank gap ∧
      (word.map foldKeyword = "next".toList ∨ word.map foldKeyword = "first".toList) ∧
      IsRun isBlank gap' ∧
      text = (key ++ (gap ++ (word ++ gap')) ++ tail) ++ after ∧
      found.length = (key ++ (gap ++ (word ++ gap')) ++ tail).length ∧
      ∃ digits gap'' rows, tail = digits ++ (gap'' ++ rows) ∧ (∀ c ∈ digits, isDigit c = true) ∧
        (∀ c ∈ gap'', isBlank c = true) ∧
        (rows.map foldKeyword = "rows".toList ∨ rows.map foldKeyword = "row".toList) := by
  obtain ⟨-, head, tail, ⟨key, gap, word, gap', rfl, spelled, isRun, fold, isRun'⟩, rfl,
    ⟨count, rest, after, rfl, digits, -, closes, rfl⟩ | ⟨after, rows, rfl⟩⟩ :=
    fetchClause_eq_some_iff.1 matched
  · obtain ⟨gap'', word', rfl, blank, -, -, fold'⟩ := fetchClose_eq_some closes
    refine ⟨key, gap, word, gap', count ++ (gap'' ++ word'), after, spelled, isRun, fold, isRun',
      by simp, ?_, count, gap'', word', rfl, digits.2, blank.2, fold'⟩
    simp only [List.length_append]
    omega
  · obtain ⟨word', rfl, -, -, fold'⟩ := rowsWord?_eq_some rows
    refine ⟨key, gap, word, gap', word', after, spelled, isRun, fold, isRun', by simp, ?_, [], [],
      word', rfl, by simp, by simp, fold'⟩
    simp only [List.length_append]
    omega

theorem keyed_fetchClause : Keyed fetchClause 'f' where
  isLetter := by decide
  begins := by
    intro before text found matched
    obtain ⟨key, gap, word, gap', tail, after, spelled, -, -, -, rfl, -⟩ :=
      fetchClause_split matched
    obtain ⟨c, more, rfl, fold, -⟩ := exists_cons_of_map spelled
    exact ⟨(fetchClause_eq_some_iff.1 matched).1, c, _, rfl, fold⟩
  extent := by
    intro before text found matched
    obtain ⟨key, gap, word, gap', tail, after, -, isRun, -, -, rfl, size, -⟩ :=
      fetchClause_split matched
    have := List.length_pos_of_ne_nil isRun.1
    rw [size]
    simp only [List.length_append]
    omega
  context := by
    intro before before' text same
    rw [fetchClause, fetchClause, same]
  opens := by
    intro before text found matched
    obtain ⟨key, gap, word, gap', tail, after, spelled, isRun, fold, isRun', rfl, size, digits, gap'',
      rows, rfl, all, blank, fold'⟩ := fetchClause_split matched
    rw [size]
    refine not_mem_take ?_ _ (Nat.sub_le _ _)
    have key_opens := not_mem_of_isWord fun c => isWord_of_mem_key spelled (by decide)
    have word_opens : ')' ∉ word := not_mem_of_isWord fun c => by
      rcases fold with fold | fold
      · exact isWord_of_mem_key fold (by decide)
      · exact isWord_of_mem_key fold (by decide)
    have rows_opens : ')' ∉ rows := not_mem_of_isWord fun c => by
      rcases fold' with fold | fold
      · exact isWord_of_mem_key fold (by decide)
      · exact isWord_of_mem_key fold (by decide)
    have digits_opens := not_mem_of_isWord fun c member => isWord_of_isDigit (all c member)
    simp [key_opens, word_opens, rows_opens, digits_opens, not_mem_of_isBlank isRun.2,
      not_mem_of_isBlank isRun'.2, not_mem_of_isBlank blank]

/-- A word that is matched as a whole holds no second match. -/
theorem solo_wholeWord {word : String} {letter : Char} (first : word.toList.head? = some letter)
    (letters : word.toList.all isKeywordLetter = true) : Solo (wholeWord word) := by
  intro before c rest found matched
  have keyed := keyed_wholeWord first letters
  obtain ⟨-, key, after, spelled, split, -, rfl⟩ := wholeWord_eq_some_iff.1 matched
  have words : ∀ d ∈ key, isWord d = true := fun d => isWord_of_mem_key spelled letters
  obtain ⟨more, whole⟩ := List.head?_eq_some_iff.1 first
  obtain ⟨d, more', rfl, -⟩ := exists_cons_of_map (spelled.trans whole)
  simp only [List.cons_append, List.cons.injEq] at split
  obtain ⟨rfl, rfl⟩ := split
  have size : word.toList.length - 1 = more'.length := by
    rw [← spelled]
    simp
  rw [List.take_left' size.symm, List.drop_left' size.symm]
  refine keyed.quiet_of_isWord ?_ (fun e member => words e (by simp [member])) after
  simp [wordBegins, words c (by simp)]

theorem solo_offsetKeyword : Solo offsetKeyword := by
  rw [offsetKeyword_eq_wholeWord]
  exact @solo_wholeWord "offset" 'o' (by decide) (by decide)

/-- Behind the keyword of a SELECT head no clause begins. -/
theorem SelectRest.quiet {pattern : Pattern} {letter : Char} {more : List Char} (shape : SelectRest more)
    (keyed : Keyed pattern letter) (distinct : 'd' ≠ letter) (all : 'a' ≠ letter) (before : Option Char)
    (after : List Char) : Quiet pattern before more after := by
  rcases shape with rfl | ⟨gap, word, rfl, isRun, fold⟩
  · trivial
  · rw [quiet_append]
    refine ⟨keyed.quiet_of_isBlank isRun.2 _ _, ?_⟩
    rcases fold with fold | fold
    · exact keyed.quiet_key fold (by decide) distinct _ _
    · exact keyed.quiet_key fold (by decide) all _ _

theorem solo_selectHead : Solo selectHead := by
  intro before c rest found matched
  obtain ⟨-, key, more, after, spelled, shape, split, rfl⟩ := selectHead_eq_some matched
  have words : ∀ d ∈ key, isWord d = true := fun d => isWord_of_mem_key spelled (by decide)
  obtain ⟨d, key, rfl, -⟩ := exists_cons_of_map spelled
  simp only [List.cons_append, List.cons.injEq] at split
  obtain ⟨rfl, rfl⟩ := split
  have size : (c :: key).length + more.length - 1 = (key ++ more).length := by
    simp only [List.length_append, List.length_cons]
    omega
  rw [← List.append_assoc, List.take_left' size.symm, List.drop_left' size.symm, quiet_append]
  refine ⟨keyed_selectHead.quiet_of_isWord ?_ (fun e member => words e (by simp [member])) _, ?_⟩
  · simp [wordBegins, words c (by simp)]
  · exact shape.quiet keyed_selectHead (by decide) (by decide) _ _

/-- FETCH does not begin at the word FIRST. -/
theorem fetchClause_first {word : List Char} (spelled : word.map foldKeyword = "first".toList)
    (before : Option Char) (after : List Char) : fetchClause before (word ++ after) = none := by
  cases matched : fetchClause before (word ++ after) with
  | none => rfl
  | some found =>
      obtain ⟨key, gap, word', gap', tail, after', fold, -, -, -, split, -⟩ :=
        fetchClause_split matched
      obtain ⟨c, rest, rfl, -, fold_rest⟩ := exists_cons_of_map spelled
      obtain ⟨d, more, rfl, second, -⟩ := exists_cons_of_map fold_rest
      obtain ⟨c', rest', rfl, -, fold_rest'⟩ := exists_cons_of_map fold
      obtain ⟨d', more', rfl, second', -⟩ := exists_cons_of_map fold_rest'
      simp only [List.cons_append, List.cons.injEq] at split
      rw [split.2.1, second'] at second
      exact absurd second (by decide)

theorem solo_fetchClause : Solo fetchClause := by
  intro before c rest found matched
  obtain ⟨key, gap, word, gap', tail, after, spelled, isRun, fold, isRun', split, size, digits, gap'',
    rows, rfl, all, blank, fold'⟩ := fetchClause_split matched
  obtain ⟨d, more, rfl, -, -⟩ := exists_cons_of_map spelled
  simp only [List.cons_append, List.cons.injEq] at split
  obtain ⟨rfl, rfl⟩ := split
  have length : found.length - 1 =
      (more ++ (gap ++ (word ++ gap')) ++ (digits ++ (gap'' ++ rows))).length := by
    rw [size]
    simp
  rw [List.take_left' length.symm, List.drop_left' length.symm]
  have words : ∀ e ∈ c :: more, isWord e = true := fun e => isWord_of_mem_key spelled (by decide)
  have key_quiet : ∀ after, Quiet fetchClause (some c) more after := fun after =>
    keyed_fetchClause.quiet_of_isWord (by simp [wordBegins, words c (by simp)])
      (fun e member => words e (by simp [member])) after
  have word_quiet : ∀ before after, Quiet fetchClause before word after := by
    intro before after
    rcases fold with fold | fold
    · exact keyed_fetchClause.quiet_key fold (by decide) (by decide) before after
    · have here := fetchClause_first fold before after
      have letters : ∀ e ∈ word, isWord e = true := fun e => isWord_of_mem_key fold (by decide)
      cases word with
      | nil => trivial
      | cons e rest =>
          refine ⟨here, keyed_fetchClause.quiet_of_isWord ?_ ?_ after⟩
          · simp [wordBegins, letters e (by simp)]
          · exact fun x member => letters x (by simp [member])
  have rows_quiet : ∀ before after, Quiet fetchClause before rows after := by
    intro before after
    rcases fold' with fold | fold
    · exact keyed_fetchClause.quiet_key fold (by decide) (by decide) before after
    · exact keyed_fetchClause.quiet_key fold (by decide) (by decide) before after
  simp only [quiet_append]
  exact ⟨⟨key_quiet _, keyed_fetchClause.quiet_of_isBlank isRun.2 _ _, word_quiet _ _,
    keyed_fetchClause.quiet_of_isBlank isRun'.2 _ _⟩, keyed_fetchClause.quiet_of_isDigit all _ _,
    keyed_fetchClause.quiet_of_isBlank blank _ _, rows_quiet _ _⟩

end QueryDesk.Sql
