/-
Module: QueryDesk.Proofs.Page.OwnTop
Purpose: The TOP of a SELECT is the one that stands directly behind it, or behind its DISTINCT or ALL. It
  is read up to a fitting count here, apart from how the text goes on, and the SELECTs that have no such
  TOP are a pattern of their own.
Imports: QueryDesk.Proofs.Page.Bounded, QueryDesk.Proofs.Sql.Narrowed
Main exports: topPlace, ownTop?, FittingTop, fittingTop_iff, fittingTop_written_iff, FittingTop.exchange,
  bareSelect, clear_bareSelect_iff
-/
import QueryDesk.Proofs.Page.Bounded
import QueryDesk.Proofs.Sql.Narrowed

namespace QueryDesk.Sql

open QueryDesk.Text QueryDesk.Number

variable {limit : Int} {part rest front back head count more x y : List Char}

/-- Where the TOP of a SELECT stands: behind blanks, and behind DISTINCT or ALL. -/
def topPlace (rest : List Char) : List Char :=
  blanks ((distinctOrAll? (blanks rest)).getD (blanks rest))

/-- The TOP of a SELECT. -/
def ownTop? (masked : List Char) (select : Hit) : Option Hit :=
  let place := topPlace (masked.drop select.stop)
  (topClause none place).map fun found => found.at (masked.length - place.length)

theorem distinctOrAll?_eq_or (text : List Char) :
    distinctOrAll? text = (wholeWord? "distinct".toList text).or (wholeWord? "all".toList text) := by
  rw [distinctOrAll?]
  cases wholeWord? "distinct".toList text <;> rfl

theorem Inert.distinctOrAll? (inert : Inert x) : distinctOrAll? x = none := by
  rw [distinctOrAll?_eq_or, inert.wholeWord? (by decide), inert.wholeWord? (by decide)]
  rfl

/-- The place behind a SELECT lies in the text, or in an end that no clause goes on with. -/
theorem topPlace_append (edge : Edge part x) (inert : Inert (blanks x)) :
    topPlace (part ++ x) = topPlace part ++ x ∨ topPlace part = [] ∧ topPlace (part ++ x) = blanks x := by
  have again : ∀ text : List Char, blanks (blanks text) = blanks text := fun text =>
    dropWhile_of_stops (stops_dropWhile text)
  rw [topPlace, topPlace]
  by_cases none_left : blanks part = []
  · have through : blanks (part ++ x) = blanks x := by
      rcases blanks_append_cases part x with inside | ⟨-, through⟩
      · rw [none_left, List.nil_append] at inside
        rw [← again, inside]
      · exact through
    refine .inr ⟨?_, ?_⟩
    · rw [none_left]
      rfl
    · rw [through, inert.distinctOrAll?, Option.getD_none, again]
  · have inside := (blanks_append_cases part x).resolve_right fun through => none_left through.1
    have edge' : Edge (blanks part) x := edge.of_suffix (List.dropWhile_suffix _)
    have agree : Agree (blanks part) [] x (distinctOrAll? (blanks part ++ []))
        (distinctOrAll? (blanks part ++ x)) := by
      rw [distinctOrAll?_eq_or, distinctOrAll?_eq_or]
      exact (agree_wholeWord? _ (by decide) none_left (edge_nil _) edge').or
        (agree_wholeWord? _ (by decide) none_left (edge_nil _) edge')
    rw [inside]
    rw [List.append_nil] at agree
    rcases agree with ⟨left, right⟩ | ⟨behind, -, left, right⟩
    · rw [left, right, Option.getD_none, Option.getD_none, ← inside, again, inside, again]
      exact .inl rfl
    · rw [left, right, Option.getD_some, Option.getD_some, List.append_nil]
      exact blanks_append_cases behind x

/-- The place behind a SELECT lies in the text if it ends with something that no clause goes on with. -/
theorem topPlace_append_of_stops (edge : Edge part x) (stops : Stops isBlank x) (inert : Inert x) :
    topPlace (part ++ x) = topPlace part ++ x := by
  have same : blanks x = x := dropWhile_of_stops stops
  rcases topPlace_append edge (same.symm ▸ inert) with inside | ⟨none_left, through⟩
  · exact inside
  · rw [through, none_left, same, List.nil_append]

/-- What stands between a SELECT and its TOP is words and blanks, and a word can begin behind it. -/
theorem topPlace_split (rest : List Char) :
    ∃ gap, rest = gap ++ topPlace rest ∧ (∀ c ∈ gap, isBlank c = true ∨ isWord c = true) ∧
      ∀ c more, topPlace rest = c :: more → isWord c = true → wordEnds rest = true →
        ∀ before, wordBegins (lastBefore before gap) = true := by
  obtain ⟨gap, blank, split, -⟩ := exists_blanks rest
  have not_ends : ∀ {c : Char} {more : List Char}, isWord c = true → wordEnds (c :: more) = true → False := by
    intro c more is_word ends
    rw [wordEnds, is_word] at ends
    cases ends
  cases word_read : distinctOrAll? (blanks rest) with
  | none =>
      have place : topPlace rest = blanks rest := by
        rw [topPlace, word_read, Option.getD_none]
        exact dropWhile_of_stops (stops_dropWhile rest)
      refine ⟨gap, by rw [place]; exact split, fun c member => .inl (blank c member), ?_⟩
      intro c more first is_word ends before
      cases gap with
      | nil =>
          rw [split, ← place, first] at ends
          exact (not_ends is_word ends).elim
      | cons d gap => exact wordBegins_of_isBlank ⟨by simp, blank⟩ before
  | some behind =>
      obtain ⟨word, whole, word_ends, fold⟩ := distinctOrAll?_eq_some word_read
      obtain ⟨gap', blank', split', -⟩ := exists_blanks behind
      have words : ∀ c ∈ word, isWord c = true := by
        rcases fold with fold | fold
        · exact fun c => isWord_of_mem_key fold (by decide)
        · exact fun c => isWord_of_mem_key fold (by decide)
      have place : topPlace rest = blanks behind := by
        rw [topPlace, word_read, Option.getD_some]
      refine ⟨gap ++ (word ++ gap'), ?_, ?_, ?_⟩
      · rw [place, List.append_assoc, List.append_assoc, ← split', ← whole, ← split]
      · intro c member
        simp only [List.mem_append] at member
        rcases member with early | middle | late
        · exact .inl (blank c early)
        · exact .inr (words c middle)
        · exact .inl (blank' c late)
      · intro c more first is_word ends before
        cases gap' with
        | nil =>
            rw [split', ← place, first] at word_ends
            exact (not_ends is_word word_ends).elim
        | cons d gap' =>
            rw [lastBefore_append, lastBefore_append]
            exact wordBegins_of_isBlank ⟨by simp, blank'⟩ _

/-- DISTINCT or ALL is read where it stands. -/
theorem distinctOrAll?_append {word : List Char} (ends : wordEnds rest = true)
    (fold : word.map foldKeyword = "distinct".toList ∨ word.map foldKeyword = "all".toList) :
    distinctOrAll? (word ++ rest) = some rest := by
  have whole : ∀ name : List Char, word.map foldKeyword = name → wholeWord? name (word ++ rest) = some rest :=
    fun name spelled => wholeWord?_eq_some_iff.2 ⟨keyword?_eq_some_iff.2 ⟨word, spelled, rfl⟩, ends⟩
  rw [distinctOrAll?_eq_or]
  rcases fold with fold | fold
  · rw [whole _ fold]
    rfl
  · cases read : wholeWord? "distinct".toList (word ++ rest) with
    | none => rw [Option.none_or, whole _ fold]
    | some behind =>
        obtain ⟨key, spelled, split⟩ := keyword?_eq_some_iff.1 (wholeWord?_eq_some_iff.1 read).1
        obtain ⟨c, more, rfl, first, -⟩ := exists_cons_of_map fold
        obtain ⟨d, more', rfl, first', -⟩ := exists_cons_of_map spelled
        rw [List.cons_append, List.cons_append, List.cons.injEq] at split
        rw [split.1, first'] at first
        exact absurd first (by decide)

/-- Behind a SELECT head and a blank stands the TOP of the SELECT. -/
theorem SelectRest.topPlace_eq (shape : SelectRest more) : topPlace (more ++ [' ']) = [] := by
  rcases shape with rfl | ⟨gap, word, rfl, isRun, fold⟩
  · decide
  · obtain ⟨c, behind, rfl, is_word⟩ : ∃ c behind, word = c :: behind ∧ isWord c = true := by
      rcases fold with fold | fold
      · exact isWord_of_key fold (by decide)
      · exact isWord_of_key fold (by decide)
    have skipped : blanks (gap ++ c :: behind ++ [' ']) = c :: behind ++ [' '] := by
      rw [List.append_assoc]
      exact blanks_append isRun.2 (isBlank_eq_false_of_isWord is_word)
    rw [topPlace, skipped, distinctOrAll?_append (by decide) fold, Option.getD_some]
    decide

theorem SelectRest.topPlace_written (shape : SelectRest more) (rest : List Char) :
    topPlace (more ++ (" TOP ".toList ++ rest)) = "TOP ".toList ++ rest := by
  have lead : " TOP ".toList = [' '] ++ "TOP ".toList := by decide
  have begins : wordBegins (lastBefore none (more ++ [' '])) = true := by
    rw [lastBefore_append]
    exact wordBegins_of_isBlank isRun_space _
  have stops : Stops isBlank ("TOP ".toList ++ rest) := (by decide : isBlank 'T' = false)
  rw [lead, List.append_assoc, ← List.append_assoc more, topPlace_append_of_stops
    (edge_of_wordBegins begins _) stops, shape.topPlace_eq, List.nil_append]
  exact inert_of_key (by decide : "TOP".toList.map foldKeyword = "top".toList) (by decide) _

/-- Of a TOP it matters what stands at its match. -/
theorem topFits_at_iff {found : Match} :
    TopFits limit (front ++ back) (found.at front.length) ↔ TopFits limit back (found.at 0) := by
  have behind : ∀ n, (front ++ back).drop (n + front.length) = back.drop n := fun n => by
    rw [Nat.add_comm, List.drop_length_add_append]
  have apart : (front ++ back).drop ((found.at front.length).start + 3) =
      back.drop ((found.at 0).start + 3) := by
    rw [Match.at, List.drop_length_add_append, Match.at, Nat.zero_add]
  rw [TopFits, TopFits, TopApart, TopApart, apart]
  simp only [Match.group?_at]
  cases found.groups[1]?.join with
  | none => simp
  | some count => simp [Span.shift, behind]

/-- The run that a count begins fits if the count does and nothing goes on with it. -/
theorem fits_run_iff (isRun : IsRun isDigit count) (stops : Stops isDigit rest) :
    Fits limit ((count ++ rest).takeWhile isRunChar) ↔ Fits limit count ∧ Stops isRunChar rest := by
  rw [takeWhile_append_of_digits isRun.2]
  constructor
  · rintro ⟨value, read, le⟩
    have stops_run : Stops isRunChar rest := by
      cases rest with
      | nil => trivial
      | cons c more =>
          cases is_run : isRunChar c with
          | false => exact is_run
          | true =>
              have digits := (IsCount.of_value read).2 c (by simp [is_run])
              exact (Stops.false_of_head stops digits).elim
    rw [takeWhile_of_stops stops_run, List.append_nil] at read
    exact ⟨⟨value, read, le⟩, stops_run⟩
  · rintro ⟨fits, stops_run⟩
    rwa [takeWhile_of_stops stops_run, List.append_nil]

/-- A TOP whose keyword is a word by itself has something between it and its count. -/
theorem TopHead.topApart_iff {opens : Bool} (isHead : TopHead opens head) (isRun : IsRun isDigit count)
    {found : Match} :
    TopApart (front ++ (head ++ (count ++ rest))) (found.at front.length) ↔ 3 < head.length := by
  obtain ⟨key, gap, gap', spelled, blank, -, rfl⟩ := isHead
  have size : key.length = 3 := by
    rw [← List.length_map foldKeyword, spelled]
    rfl
  cases opens with
  | true =>
      have stops : Stops isWord ((gap ++ '(' :: gap') ++ (count ++ rest)) := by
        cases gap with
        | nil => exact (by decide : isWord '(' = false)
        | cons c gap => exact isWord_eq_false_of_isBlank (blank c (by simp))
      rw [if_pos rfl, List.append_assoc key, QueryDesk.Sql.topApart_iff spelled]
      refine ⟨fun _ => ?_, fun _ => stops⟩
      simp only [List.length_append, List.length_cons]
      omega
  | false =>
      rw [if_neg Bool.false_ne_true, List.append_assoc key, QueryDesk.Sql.topApart_iff spelled,
        List.length_append, size]
      cases gap with
      | nil =>
          obtain ⟨c, more, rfl⟩ := List.exists_cons_of_ne_nil isRun.1
          have is_word := isWord_of_isDigit (isRun.2 c (by simp))
          exact ⟨fun stops => (Stops.false_of_head stops is_word).elim, fun long => absurd long (by simp)⟩
      | cons c gap =>
          refine ⟨fun _ => ?_, fun _ => isWord_eq_false_of_isBlank (blank c (by simp))⟩
          simp only [List.length_cons]
          omega

/-- Whether a TOP fits, read off its shape. -/
theorem TopHead.topFits_iff {opens : Bool} (isHead : TopHead opens head) (isRun : IsRun isDigit count)
    (stops : Stops isDigit rest) {size : Nat} {group : Option Span} :
    TopFits limit (front ++ (head ++ (count ++ rest)))
        (Match.at ⟨size, [group, some ⟨head.length, head.length + count.length⟩]⟩ front.length) ↔
      3 < head.length ∧ Fits limit count ∧ Stops isRunChar rest := by
  have run : ((front ++ (head ++ (count ++ rest))).drop (head.length + front.length)) = count ++ rest := by
    rw [Nat.add_comm, List.drop_length_add_append, List.drop_left]
  rw [TopFits, isHead.topApart_iff isRun, Match.group?_at]
  simp [Span.shift, run, fits_run_iff isRun stops]

/-- Whether a TOP escapes its clamped count, read off its shape. -/
theorem TopHead.topEscapes_iff {opens : Bool} (isHead : TopHead opens head) (isRun : IsRun isDigit count)
    {size : Nat} {group : Option Span} :
    TopEscapes (front ++ (head ++ (count ++ rest)))
        (Match.at ⟨size, [group, some ⟨head.length, head.length + count.length⟩]⟩ front.length) ↔
      ¬ (3 < head.length ∧ Stops isRunChar rest) := by
  have behind : ((front ++ (head ++ (count ++ rest))).drop (head.length + count.length + front.length)) =
      rest := by
    rw [Nat.add_comm, List.drop_length_add_append, ← List.append_assoc, ← List.length_append,
      List.drop_left]
  rw [TopEscapes, isHead.topApart_iff isRun, Match.group?_at]
  simp [Span.shift, behind, imp_iff_not_or]

/-- A text that begins with a TOP, by itself a word, whose count is a numeral not above the limit. -/
def FittingTop (limit : Int) (text : List Char) : Prop :=
  ∃ found ∈ topClause none text, TopFits limit text (found.at 0)

instance (limit : Int) (text : List Char) : Decidable (FittingTop limit text) :=
  inferInstanceAs (Decidable (∃ found ∈ topClause none text, _))

theorem stops_isDigit_of_stops_isRunChar (stops : Stops isRunChar rest) : Stops isDigit rest := by
  cases rest with
  | nil => trivial
  | cons c more =>
      exact Bool.eq_false_iff.2 fun digit => Stops.false_of_head stops (isRunChar_of_isDigit digit)

/-- A TOP that is matched fits as its shape says. -/
theorem TopHead.fittingTop_iff {opens : Bool} {after : List Char} (isHead : TopHead opens head)
    (isRun : IsRun isDigit count) (stops : Stops isDigit rest) (closes : topClose opens rest = some after) :
    FittingTop limit (head ++ (count ++ rest)) ↔
      3 < head.length ∧ Fits limit count ∧ Stops isRunChar rest := by
  obtain ⟨group, matched⟩ := @exists_topClause none _ _ _ _ _ rfl isHead isRun stops closes
  rw [FittingTop, matched]
  simp only [Option.mem_some_iff, exists_eq_left']
  exact @TopHead.topFits_iff limit rest [] _ _ _ isHead isRun stops _ _

theorem fittingTop_iff {text : List Char} :
    FittingTop limit text ↔ ∃ opens head count rest after, TopHead opens head ∧ 3 < head.length ∧
      text = head ++ (count ++ rest) ∧ IsRun isDigit count ∧ Fits limit count ∧ Stops isRunChar rest ∧
      topClose opens rest = some after := by
  constructor
  · intro fitting
    have ⟨found, matched, _⟩ := fitting
    obtain ⟨-, opens, head, count, rest, after, group, isHead, rfl, isRun, stops, closes, -⟩ :=
      topClause_eq_some matched
    obtain ⟨long, fits, stops_run⟩ := (isHead.fittingTop_iff isRun stops closes).1 fitting
    exact ⟨opens, head, count, rest, after, isHead, long, rfl, isRun, fits, stops_run, closes⟩
  · rintro ⟨opens, head, count, rest, after, isHead, long, rfl, isRun, fits, stops, closes⟩
    exact (isHead.fittingTop_iff isRun (stops_isDigit_of_stops_isRunChar stops) closes).2
      ⟨long, fits, stops⟩

/-- The TOP that is written fits if nothing goes on with its count. -/
theorem fittingTop_written_iff (positive : 1 ≤ limit) :
    FittingTop limit ("TOP ".toList ++ (numeral limit ++ rest)) ↔ Stops isRunChar rest := by
  have nonneg : 0 ≤ limit := by omega
  obtain ⟨digits, behind, rfl, all, stops⟩ := exists_digits rest
  have isRun := isRun_append_digits (isCount_numeral nonneg) all
  rw [← List.append_assoc (numeral limit), topHead_written.fittingTop_iff isRun stops rfl,
    and_iff_right (by decide)]
  cases digits with
  | nil =>
      rw [List.append_nil, List.nil_append, and_iff_right (fits_numeral nonneg)]
  | cons c digits =>
      refine iff_of_false (fun fits => ?_) fun stops =>
        Stops.false_of_head stops (isRunChar_of_isDigit (all c (by simp)))
      -- One more digit makes the numeral ten times the limit at least.
      obtain ⟨value, read, le⟩ := fits.1
      obtain ⟨whole, read', ge⟩ := le_digitsValue?_append (digitsValue?_numeral nonneg) (by simp) all
      rw [countValue?, Option.mem_def, read', Option.some.injEq] at read
      omega

theorem topClose_congr {opens : Bool} {tail after : List Char}
    (closes : topClose opens (tail ++ after) = some after) (after' : List Char) :
    topClose opens (tail ++ after') = some after' := by
  cases opens with
  | false =>
      have same : tail ++ after = after := Option.some.inj closes
      rw [List.append_left_eq_self.1 same, List.nil_append]
      rfl
  | true =>
      have whole : blanks (tail ++ after) = ')' :: after := char?_eq_some_iff.1 closes
      rcases blanks_append_cases tail after with inside | ⟨-, through⟩
      · rw [inside, ← List.singleton_append, List.append_cancel_right_eq] at whole
        rcases blanks_append_cases tail after' with inside' | ⟨none_left, -⟩
        · exact char?_eq_some_iff.2 (by rw [inside', whole]; rfl)
        · rw [none_left] at whole
          cases whole
      · have le := (List.dropWhile_suffix isBlank (l := after)).length_le
        rw [← blanks, ← through, whole, List.length_cons] at le
        omega

/-- A TOP that fits in a text does so however the text ends, if nothing goes on with its count. -/
theorem FittingTop.exchange (nonempty : part ≠ []) (ends : Interchangeable x y) (edge : Edge part x)
    (edge' : Edge part y) (apart : wordBegins (lastBefore none part) = true ∨ Stops isRunChar y)
    (fits : FittingTop limit (part ++ x)) : FittingTop limit (part ++ y) := by
  obtain ⟨opens, head, count, rest, after, isHead, long, split, isRun, fits, stops, closes⟩ :=
    fittingTop_iff.1 fits
  obtain ⟨tail, rfl, -⟩ := topClose_eq_some closes
  obtain ⟨group, matched⟩ := @exists_topClause none _ _ _ _ _ rfl isHead isRun
    (stops_isDigit_of_stops_isRunChar stops) closes
  rw [← split] at matched
  have inside := (within_topClause none nonempty ends edge edge').2 _ matched
  obtain ⟨after', rfl⟩ : ∃ after', after = after' ++ x := by
    have whole : after <:+ part ++ x := by
      rw [split]
      exact ⟨head ++ (count ++ tail), by simp⟩
    refine List.suffix_of_suffix_length_le (List.suffix_append part x) whole ?_ |>.imp fun _ => Eq.symm
    simp only [List.length_append] at inside
    have := whole.length_le
    simp only [List.length_append] at this
    omega
  have whole : part = head ++ (count ++ (tail ++ after')) := by
    refine List.append_cancel_right (split.trans ?_)
    simp
  rw [fittingTop_iff]
  refine ⟨opens, head, count, tail ++ (after' ++ y), after' ++ y, isHead, long, by rw [whole]; simp, isRun,
    fits, ?_, topClose_congr closes _⟩
  rw [← List.append_assoc] at stops ⊢
  cases behind : tail ++ after' with
  | cons c more =>
      rw [behind] at stops
      exact stops
  | nil =>
      refine apart.resolve_left ?_
      rw [whole, behind, List.append_nil, lastBefore_append, wordBegins_of_isDigit isRun]
      exact Bool.false_ne_true

/-! ### SELECTs without one

That every SELECT has a TOP that fits is said like the absence of a clause: the text is clear of the SELECTs
that have none. They are a pattern like the clauses are, so that the lemmas about clear texts hold for them,
too. -/

/-- A SELECT without a TOP that fits. -/
def bareSelect (limit : Int) : Pattern :=
  narrowed (wholeWord "select") fun text found =>
    !decide (FittingTop limit (topPlace (text.drop found.length)))

theorem keyed_selectWord : Keyed (wholeWord "select") 's' :=
  keyed_wholeWord (by decide) (by decide)

theorem solo_selectWord : Solo (wholeWord "select") :=
  @solo_wholeWord "select" 's' (by decide) (by decide)

theorem keyed_bareSelect (limit : Int) : Keyed (bareSelect limit) 's' :=
  keyed_selectWord.narrowed _

theorem topPlace_suffix (rest : List Char) : topPlace rest <:+ rest := by
  obtain ⟨gap, split, -⟩ := topPlace_split rest
  exact ⟨gap, split.symm⟩

/-- The TOP of a SELECT, where it stands in the text. -/
theorem ownTop?_at (front back : List Char) (found : Match) :
    ∃ before, front ++ back = before ++ topPlace (back.drop found.length) ∧
      ownTop? (front ++ back) (found.at front.length) =
        (topClause none (topPlace (back.drop found.length))).map fun top => top.at before.length := by
  obtain ⟨gap, split, -⟩ := topPlace_split (back.drop found.length)
  have whole : front ++ back = (front ++ (back.take found.length ++ gap)) ++
      topPlace (back.drop found.length) := by
    rw [List.append_assoc, List.append_assoc, ← split, List.take_append_drop]
  have behind : (front ++ back).drop (found.at front.length).stop = back.drop found.length := by
    rw [Match.at, List.drop_length_add_append]
  refine ⟨_, whole, ?_⟩
  rw [ownTop?, behind]
  have size := congrArg List.length whole
  rw [@List.length_append _ _ (topPlace _)] at size
  rw [size, Nat.add_sub_cancel]

theorem exists_ownTop_iff {found : Match} :
    (∃ own ∈ ownTop? (front ++ back) (found.at front.length), TopFits limit (front ++ back) own) ↔
      FittingTop limit (topPlace (back.drop found.length)) := by
  obtain ⟨before, whole, own⟩ := ownTop?_at front back found
  rw [own, whole, FittingTop]
  simp only [Option.mem_def, Option.map_eq_some_iff]
  constructor
  · rintro ⟨_, ⟨top, matched, rfl⟩, fits⟩
    exact ⟨top, matched, topFits_at_iff.1 fits⟩
  · rintro ⟨top, matched, fits⟩
    exact ⟨_, ⟨top, matched, rfl⟩, topFits_at_iff.2 fits⟩

/-- Every SELECT has a TOP that fits if the text is clear of those that have none. -/
theorem clear_bareSelect_iff {masked : List Char} :
    Clear (bareSelect limit) 0 none masked ↔
      ∀ select ∈ topLevelHits (wholeWord "select") masked,
        ∃ own ∈ ownTop? masked select, TopFits limit masked own := by
  refine solo_selectWord.clear_narrowed_iff keyed_selectWord fun front back found split _ => ?_
  rw [split, exists_ownTop_iff, Bool.not_eq_false', decide_eq_true_iff]

/-- A SELECT of which the TOP does not fit is one without a TOP, where there is none at all. -/
theorem clear_bareSelect_iff_of_no_top {depth : Nat} {before : Option Char} {text : List Char}
    (no_top : Clear topClause depth before text) :
    Clear (bareSelect limit) depth before text ↔ Clear (wholeWord "select") depth before text := by
  refine ⟨fun clear => ?_, fun clear => clear.narrowed _⟩
  rw [Clear, clearThrough_iff] at clear ⊢
  intro init c rest split flat
  have fits := clear init c rest split flat
  rw [List.append_nil, bareSelect, narrowed_eq_none_iff] at fits
  rw [List.append_nil]
  cases matched : wholeWord "select" (lastBefore before init) (c :: rest) with
  | none => rfl
  | some found =>
      have fitting := fits found matched
      rw [Bool.not_eq_false', decide_eq_true_iff] at fitting
      obtain ⟨-, key, behind, spelled, whole, ends, rfl⟩ := wholeWord_eq_some_iff.1 matched
      have words : ∀ d ∈ key, isWord d = true := fun d => isWord_of_mem_key spelled (by decide)
      have size : key.length = "select".toList.length := by rw [← spelled, List.length_map]
      rw [whole, ← size, List.drop_left] at fitting
      obtain ⟨gap, gap_split, gap_chars, begins⟩ := topPlace_split behind
      generalize topPlace behind = place at fitting gap_split begins
      obtain ⟨top, top_matched, -⟩ := fitting
      cases place with
      | nil => simp [keyed_topClause.nil] at top_matched
      | cons d more =>
          have begins := begins d more rfl (keyed_topClause.isWord_head top_matched) ends
          have gap_flat : ∀ depth, depthAfter depth gap = depth := fun depth =>
            depthAfter_of_flat depth fun e member => by
              rcases gap_chars e member with is_blank | is_word
              · constructor <;> (rintro rfl; revert is_blank; decide)
              · constructor <;> (rintro rfl; revert is_word; decide)
          rw [split, whole, gap_split, ← List.append_assoc init, ← List.append_assoc (init ++ key),
            clear_append, clear_cons] at no_top
          have here := no_top.2.1 (by
            rw [depthAfter_append, depthAfter_append, flat, depthAfter_of_isWord words, gap_flat])
          rw [lastBefore_append, @Keyed.context _ _ keyed_topClause _ none _ (begins _), top_matched] at here
          cases here

/-- No TOP begins in what trails a statement. -/
theorem not_fittingTop_of_stops {text : List Char} (stops : Stops isWord text) :
    ¬ FittingTop limit text := by
  rintro ⟨found, matched, -⟩
  cases text with
  | nil => simp [keyed_topClause.nil] at matched
  | cons c rest => exact Stops.false_of_head stops (keyed_topClause.isWord_head matched)

/-- Trailing text does not matter to the TOP of a SELECT. -/
theorem fittingTop_append_trailing {tail : List Char} (trailing : IsTrailing tail) (rest : List Char) :
    FittingTop limit (topPlace (rest ++ tail)) ↔ FittingTop limit (topPlace rest) := by
  have ends := trailing.interchangeable
  have edge : Edge rest tail := edge_of_stops trailing.stops_isWord rest
  have stops_run := stops_isRunChar_of_trailing trailing
  have blank_tail : Stops isWord (blanks tail) := by
    rcases trailing.blanks_eq with none_left | dash
    · rw [none_left]
      trivial
    · rw [dash]
      exact (by decide : isWord '-' = false)
  have none_fits : ¬ FittingTop limit [] := not_fittingTop_of_stops trivial
  rcases topPlace_append edge ends.behind' with inside | ⟨none_left, through⟩
  · rw [inside]
    by_cases none_left : topPlace rest = []
    · rw [none_left, List.nil_append]
      exact iff_of_false (not_fittingTop_of_stops trailing.stops_isWord) none_fits
    · have edge' : Edge (topPlace rest) tail := edge.of_suffix (topPlace_suffix rest)
      constructor
      · intro fits
        have kept := fits.exchange none_left ⟨ends.inert', ends.inert, ends.behind', ends.behind,
          ends.stops.symm⟩ edge' (edge_nil _) (.inr trivial)
        rwa [List.append_nil] at kept
      · intro fits
        rw [← List.append_nil (topPlace rest)] at fits
        exact fits.exchange none_left ends (edge_nil _) edge' (.inr stops_run)
  · rw [none_left, through]
    exact iff_of_false (not_fittingTop_of_stops blank_tail) none_fits

/-- Trailing text adds no SELECT without a TOP that fits, and takes none away. -/
theorem clear_bareSelect_append_trailing {tail : List Char} (trailing : IsTrailing tail)
    (masked : List Char) :
    Clear (bareSelect limit) 0 none (masked ++ tail) ↔ Clear (bareSelect limit) 0 none masked := by
  have quiet : ∀ before, Quiet (bareSelect limit) before tail [] := fun before =>
    (keyed_bareSelect limit).quiet_of_other (fun c member => by
      rcases trailing.cases_of_mem c member with is_blank | rfl
      · exact (keyed_bareSelect limit).fold_ne_of_isBlank is_blank
      · decide) before []
  have behind : Clear (bareSelect limit) (depthAfter 0 masked) (lastBefore none masked) tail :=
    (quiet _).clearThrough _
  rw [clear_append, and_iff_left behind, Clear]
  refine clearThrough_exchange (fun part _ nonempty before => ?_) 0 none
  have within := @within_wholeWord _ _ _ "select" (by decide) before nonempty
    (edge_of_stops trailing.stops_isWord part) (edge_nil part)
  rw [bareSelect, narrowed_eq_none_iff, narrowed_eq_none_iff, within.1]
  refine forall_congr' fun found => imp_congr_right fun matched => ?_
  have inside := within.2 found (within.1.trans matched)
  rw [List.drop_append_of_le_length inside, List.append_nil, Bool.not_eq_false', Bool.not_eq_false',
    decide_eq_true_iff, decide_eq_true_iff, fittingTop_append_trailing trailing]

end QueryDesk.Sql
