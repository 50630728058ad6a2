/-
Module: QueryDesk.Proofs.Sql.Exchange
Purpose: One stretch of a statement exchanged for another. If the front is read alike before both, if the
  pattern begins in neither of them, and if both leave the depth and the end of a word as they were,
  then the text has matches outside of all parentheses after the exchange if and only if it had them
  before.
Imports: QueryDesk.Proofs.Sql.Tails
Main exports: Clear.mono, clear_exchange, skipThrough_append, Quiet.skipThrough,
  skipThrough_eq_zero_of_clear, interchangeable_of_keys, edge_of_wordBegins,
  IsTrailing, topLevelHits_append_trailing
-/
import QueryDesk.Proofs.Sql.Tails

namespace QueryDesk.Sql

open QueryDesk.Text

variable {pattern : Pattern} {letter : Char} {x y : List Char}

/-! ### Clear texts

An exchange is looked at in three parts: the front, the stretch, and what is behind it. The front is read
alike before both stretches, the pattern begins in neither of them, and behind them the text is read at the
same depth and from the same kind of character. -/

/-- A clear text stays clear if no more words can begin at its head. -/
theorem Clear.mono (keyed : Keyed pattern letter) {depth : Nat} {before before' : Option Char}
    {text : List Char} (clear : Clear pattern depth before text)
    (fewer : wordBegins before' = true → wordBegins before = true) :
    Clear pattern depth before' text := by
  cases text with
  | nil => trivial
  | cons c rest =>
      rw [clear_cons] at clear ⊢
      refine ⟨fun top => ?_, clear.2⟩
      cases begins : wordBegins before' with
      | true => rw [← clear.1 top, keyed.context (begins.trans (fewer begins).symm)]
      | false =>
          cases matched : pattern before' (c :: rest) with
          | none => rfl
          | some found =>
              rw [(keyed.begins matched).1] at begins
              cases begins

/-- A clear text after a stretch in which the pattern does not begin. -/
theorem clear_of_quiet {depth : Nat} {before : Option Char} {front back : List Char}
    (quiet : Quiet pattern before front back)
    (clear : Clear pattern (depthAfter depth front) (lastBefore before front) back) :
    Clear pattern depth before (front ++ back) :=
  (clear_append depth before front back).2 ⟨quiet.clearThrough depth, clear⟩

/-- One stretch exchanged for another in a clear text. -/
theorem clear_exchange (keyed : Keyed pattern letter) {front old new back : List Char}
    (alike : ReadsAlike pattern front (old ++ back) (new ++ back))
    (quiet : Quiet pattern (lastBefore none front) new back)
    (depth : depthAfter (depthAfter 0 front) new = depthAfter (depthAfter 0 front) old)
    (fewer : wordBegins (lastBefore (lastBefore none front) new) = true →
      wordBegins (lastBefore (lastBefore none front) old) = true)
    (clear : Clear pattern 0 none (front ++ (old ++ back))) :
    Clear pattern 0 none (front ++ (new ++ back)) := by
  rw [clear_append] at clear ⊢
  refine ⟨(clearThrough_congr alike 0 none).1 clear.1, clear_of_quiet quiet ?_⟩
  have behind := ((clear_append _ _ old back).1 clear.2).2
  rw [depth]
  exact behind.mono keyed fewer

theorem skipThrough_append (skip : Nat) (before : Option Char) (front middle back : List Char) :
    skipThrough pattern skip before (front ++ middle) back =
      skipThrough pattern (skipThrough pattern skip before front (middle ++ back))
        (lastBefore before front) middle back := by
  induction front generalizing skip before with
  | nil => rfl
  | cons c rest ih =>
      cases skip with
      | succ left => exact ih left (some c)
      | zero =>
          rw [List.cons_append, skipThrough, skipThrough, List.append_assoc]
          cases pattern before (c :: (rest ++ (middle ++ back))) with
          | none => exact ih 0 (some c)
          | some found => exact ih _ (some c)

theorem Quiet.skipThrough {before : Option Char} {front back : List Char}
    (quiet : Quiet pattern before front back) : skipThrough pattern 0 before front back = 0 := by
  induction front generalizing before with
  | nil => rfl
  | cons c rest ih =>
      rw [QueryDesk.Sql.skipThrough, quiet.1]
      exact ih quiet.2

/-- A clear text at whose end the depth is zero is read up to its end: a match that is passed over in
it is in parentheses, and they are closed behind that match. -/
theorem skipThrough_eq_zero_of_clear (keyed : Keyed pattern letter) {depth skip : Nat}
    {before : Option Char} {front back : List Char}
    (clear : ClearThrough pattern depth before front back) (flat : depthAfter depth front = 0)
    (inside : Inside depth skip (front ++ back)) :
    skipThrough pattern skip before front back = 0 := by
  induction front generalizing depth skip before with
  | nil =>
      rcases inside with rfl | ⟨deep, -⟩
      · rfl
      · rw [depthAfter] at flat
        omega
  | cons c rest ih =>
      cases skip with
      | succ left =>
          obtain ⟨deep, opens⟩ := inside.resolve_left (by omega)
          exact ih clear.2 flat (inside_step deep opens)
      | zero =>
          rw [skipThrough]
          cases matched : pattern before (c :: (rest ++ back)) with
          | none => exact ih clear.2 flat (.inl rfl)
          | some found =>
              have deep : 1 ≤ depth := by
                rcases Nat.eq_zero_or_pos depth with rfl | deep
                · rw [clear.1 rfl] at matched
                  cases matched
                · exact deep
              exact ih clear.2 flat (inside_step deep (keyed.opens matched))

theorem edge_of_wordBegins {text : List Char} (begins : wordBegins (lastBefore none text) = true)
    (x : List Char) : Edge text x := by
  intro c last word
  cases text with
  | nil => cases last
  | cons d rest =>
      rw [lastBefore_eq_getLast none (by simp)] at begins
      rw [List.getLast?_eq_some_getLast (by simp), Option.some.injEq] at last
      rw [last] at begins
      simp [wordBegins, word] at begins

theorem edge_of_stops {x : List Char} (stops : Stops isWord x) (text : List Char) : Edge text x :=
  fun _ _ _ => stops

theorem blanks_key {key word : List Char} {first : Char} (spelled : key.map foldKeyword = first :: word)
    (letter : isKeywordLetter first = true) (rest : List Char) : blanks (key ++ rest) = key ++ rest := by
  obtain ⟨c, more, rfl, is_word⟩ := isWord_of_key spelled letter
  exact dropWhile_of_stops (show Stops isBlank (c :: (more ++ rest)) from
    isBlank_eq_false_of_isWord is_word)

/-- Ends that begin with keywords of their own may be put in each other's place. -/
theorem interchangeable_of_keys {key key' word word' : List Char} {first first' : Char}
    (spelled : key.map foldKeyword = first :: word) (headword : isHeadword (first :: word) = true)
    (spelled' : key'.map foldKeyword = first' :: word') (headword' : isHeadword (first' :: word') = true)
    (rest rest' : List Char) : Interchangeable (key ++ rest) (key' ++ rest') := by
  have letter_of : ∀ {first : Char} {word : List Char}, isHeadword (first :: word) = true →
      isKeywordLetter first = true := by
    intro first word headword
    simp only [isHeadword, List.all_cons, Bool.and_eq_true] at headword
    exact headword.1.1
  have not_stops : ∀ {key word : List Char} {first : Char}, key.map foldKeyword = first :: word →
      isKeywordLetter first = true → ∀ rest, ¬ Stops isWord (key ++ rest) := by
    intro key word first spelled letter rest stops
    obtain ⟨c, more, rfl, is_word⟩ := isWord_of_key spelled letter
    have none : isWord c = false := stops
    rw [is_word] at none
    cases none
  refine ⟨inert_of_key spelled headword rest, inert_of_key spelled' headword' rest', ?_, ?_, ?_⟩
  · rw [blanks_key spelled (letter_of headword)]
    exact inert_of_key spelled headword rest
  · rw [blanks_key spelled' (letter_of headword')]
    exact inert_of_key spelled' headword' rest'
  · exact ⟨fun stops => absurd stops (not_stops spelled (letter_of headword) rest),
      fun stops => absurd stops (not_stops spelled' (letter_of headword') rest')⟩

/-- The end of the text may be put in the place of a keyword behind a blank. -/
theorem interchangeable_nil_key {key word : List Char} {first gap : Char} (blank : isBlank gap = true)
    (spelled : key.map foldKeyword = first :: word) (headword : isHeadword (first :: word) = true)
    (rest : List Char) : Interchangeable [] (gap :: (key ++ rest)) := by
  have letter : isKeywordLetter first = true := by
    simp only [isHeadword, List.all_cons, Bool.and_eq_true] at headword
    exact headword.1.1
  have behind : blanks (gap :: (key ++ rest)) = key ++ rest := by
    have dropped : blanks (gap :: (key ++ rest)) = blanks (key ++ rest) := by
      rw [blanks, List.dropWhile_cons, if_pos blank]
      rfl
    rw [dropped, blanks_key spelled letter]
  refine ⟨inert_nil, inert_of_isBlank blank, inert_nil, ?_, ?_⟩
  · rw [behind]
    exact inert_of_key spelled headword rest
  · exact ⟨fun _ => isWord_eq_false_of_isBlank blank, fun _ => trivial⟩

/-- Blanks, also with a minus behind them. -/
def IsTrailing (tail : List Char) : Prop :=
  ∃ gap, (∀ c ∈ gap, isBlank c = true) ∧ (tail = gap ∨ tail = gap ++ ['-'])

theorem IsTrailing.blanks_eq {tail : List Char} (trailing : IsTrailing tail) :
    blanks tail = [] ∨ blanks tail = ['-'] := by
  obtain ⟨gap, blank, rfl | rfl⟩ := trailing
  · exact .inl (List.dropWhile_eq_nil_iff.2 blank)
  · exact .inr (blanks_append blank (by decide : isBlank '-' = false))

theorem IsTrailing.cases_of_mem {tail : List Char} (trailing : IsTrailing tail) :
    ∀ c ∈ tail, isBlank c = true ∨ c = '-' := by
  obtain ⟨gap, blank, rfl | rfl⟩ := trailing
  · exact fun c member => .inl (blank c member)
  · intro c member
    rcases List.mem_append.1 member with is_blank | is_dash
    · exact .inl (blank c is_blank)
    · exact .inr (List.mem_singleton.1 is_dash)

/-- A trailing text begins with no character of a kind that holds neither blanks nor a minus. -/
theorem IsTrailing.stops {tail : List Char} (trailing : IsTrailing tail) {kind : Char → Bool}
    (blanks_out : ∀ c, isBlank c = true → kind c = false) (dash_out : kind '-' = false) :
    Stops kind tail := by
  cases tail with
  | nil => trivial
  | cons c rest =>
      have head : isBlank c = true ∨ c = '-' := trailing.cases_of_mem c (by simp)
      rcases head with is_blank | rfl
      · exact blanks_out c is_blank
      · exact dash_out

theorem IsTrailing.stops_isWord {tail : List Char} (trailing : IsTrailing tail) : Stops isWord tail :=
  trailing.stops (fun _ => isWord_eq_false_of_isBlank) (by decide)

/-- The end of the text may be put in the place of a trailing text. -/
theorem IsTrailing.interchangeable {tail : List Char} (trailing : IsTrailing tail) :
    Interchangeable [] tail := by
  have inert_blanks : Inert (blanks tail) := by
    rcases trailing.blanks_eq with none | dash
    · rw [none]
      exact inert_nil
    · rw [dash]
      exact inert_dash
  have inert : Inert tail := by
    cases tail with
    | nil => exact inert_nil
    | cons c rest =>
        cases is_blank : isBlank c with
        | true => exact inert_of_isBlank is_blank
        | false =>
            rwa [blanks, List.dropWhile_cons, if_neg (by simp [is_blank])] at inert_blanks
  exact ⟨inert_nil, inert, inert_nil, inert_blanks,
    fun _ => trailing.stops_isWord, fun _ => trivial⟩

theorem ReadsAlike.eq_of_nil (keyed : Keyed pattern letter) {text tail : List Char}
    (alike : ReadsAlike pattern text [] tail) (nonempty : text ≠ []) (before : Option Char) :
    pattern before (text ++ tail) = pattern before text := by
  have here := alike text (List.suffix_refl _) nonempty before
  rw [List.append_nil] at here
  rcases here with ⟨same, -⟩ | ⟨found, -, matched, -, long, -⟩
  · exact same.symm
  · have inside := (keyed.extent matched).2
    omega

/-- Behind a text that is read alike in front of it, a tail in which a pattern begins nowhere adds no
match and takes none away. -/
theorem topFrom_append_tail (keyed : Keyed pattern letter) {text tail : List Char}
    (alike : ReadsAlike pattern text [] tail) (quiet : ∀ before, Quiet pattern before tail [])
    (depth position : Nat) {skip : Nat} (inside : skip ≤ text.length) (before : Option Char) :
    topFrom pattern depth position skip before (text ++ tail) =
      topFrom pattern depth position skip before text := by
  induction text generalizing depth position skip before with
  | nil =>
      obtain rfl : skip = 0 := Nat.le_zero.1 inside
      exact topFrom_eq_nil_of_clear keyed position 0 ((quiet before).clearThrough depth)
  | cons c rest ih =>
      cases skip with
      | succ left => exact ih alike.tail _ _ (Nat.le_of_succ_le_succ inside) _
      | zero =>
          have here := alike.eq_of_nil keyed (List.cons_ne_nil c rest) before
          rw [List.cons_append] at here ⊢
          rw [topFrom, topFrom, here]
          cases matched : pattern before (c :: rest) with
          | none => exact ih alike.tail _ _ (Nat.zero_le _) _
          | some found =>
              have long := (keyed.extent matched).2
              rw [List.length_cons] at long
              dsimp only
              rw [ih alike.tail _ _ (by omega) _]

/-- Trailing text does not matter to the clauses of a statement. -/
theorem topLevelHits_append_trailing (keyed : Keyed pattern letter) (reads : Local pattern)
    (text : List Char) {tail : List Char} (trailing : IsTrailing tail) :
    topLevelHits pattern (text ++ tail) = topLevelHits pattern text := by
  have alike := reads trailing.interchangeable (@edge_of_stops [] trivial text)
    (edge_of_stops trailing.stops_isWord text)
  rw [topLevelHits_eq_topFrom, topLevelHits_eq_topFrom]
  refine topFrom_append_tail keyed alike (fun before => ?_) 0 0 (Nat.zero_le _) none
  refine keyed.quiet_of_other (fun c member => ?_) before []
  rcases trailing.cases_of_mem c member with is_blank | rfl
  · exact keyed.fold_ne_of_isBlank is_blank
  · rintro rfl
    exact absurd keyed.isLetter (by decide)

theorem depthAfter_of_isWord {text : List Char} (words : ∀ c ∈ text, isWord c = true) (depth : Nat) :
    depthAfter depth text = depth := by
  refine depthAfter_of_flat depth fun c member => ?_
  have word := words c member
  constructor <;> (rintro rfl; revert word; decide)

theorem depthAfter_of_isBlank {text : List Char} (blank : ∀ c ∈ text, isBlank c = true)
    (depth : Nat) : depthAfter depth text = depth := by
  refine depthAfter_of_flat depth fun c member => ?_
  have is_blank := blank c member
  constructor <;> (rintro rfl; revert is_blank; decide)

theorem depthAfter_of_isCountChar {text : List Char} (counts : ∀ c ∈ text, isCountChar c = true)
    (depth : Nat) : depthAfter depth text = depth := by
  refine depthAfter_of_flat depth fun c member => ?_
  have is_count := counts c member
  constructor <;> (rintro rfl; revert is_count; decide)

theorem depthAfter_of_isDigit {text : List Char} (digits : ∀ c ∈ text, isDigit c = true)
    (depth : Nat) : depthAfter depth text = depth :=
  depthAfter_of_isWord (fun c member => isWord_of_isDigit (digits c member)) depth

theorem wordBegins_of_isWord {text : List Char} (nonempty : text ≠ [])
    (words : ∀ c ∈ text, isWord c = true) (before : Option Char) :
    wordBegins (lastBefore before text) = false := by
  rw [lastBefore_eq_getLast before nonempty]
  simp [wordBegins, words _ (List.getLast_mem nonempty)]

theorem wordBegins_of_isDigit {text : List Char} (isRun : IsRun isDigit text) (before : Option Char) :
    wordBegins (lastBefore before text) = false :=
  wordBegins_of_isWord isRun.1 (fun c member => isWord_of_isDigit (isRun.2 c member)) before

theorem wordBegins_of_isBlank {text : List Char} (isRun : IsRun isBlank text) (before : Option Char) :
    wordBegins (lastBefore before text) = true := by
  rw [lastBefore_eq_getLast before isRun.1]
  simp [wordBegins, isWord_eq_false_of_isBlank (isRun.2 _ (List.getLast_mem isRun.1))]

end QueryDesk.Sql
