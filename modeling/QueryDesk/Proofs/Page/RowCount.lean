/-
Module: QueryDesk.Proofs.Page.RowCount
Purpose: Whether a statement returns at most so many rows: the last LIMIT or FETCH outside of all
  parentheses has a row count that is a numeral not above the limit. The row count is read as a whole run,
  wherever the match of the clause ends.
Imports: QueryDesk.Proofs.Page.Site
Main exports: Fits, limitRun, FetchFits, IsBounded, isBounded_of_limit, isBounded_of_fetch,
  isBounded_append_trailing
-/
import QueryDesk.Proofs.Page.Site

namespace QueryDesk.Sql

open QueryDesk.Text

variable {limit : Int} {masked front back : List Char} {found : Match}

/-- A character of a row count as a reader sees it: a letter, a digit, an underscore, a dot or a question
mark. -/
def isRunChar (c : Char) : Bool :=
  isWord c || c == '.' || c == '?'

/-- A numeral that is at most the limit. -/
def Fits (limit : Int) (run : List Char) : Prop :=
  ∃ value ∈ countValue? run, (value : Int) ≤ limit

instance (limit : Int) (run : List Char) : Decidable (Fits limit run) :=
  inferInstanceAs (Decidable (∃ value ∈ countValue? run, _))

/-- The run behind a comma, if what stands behind a count goes on with one. -/
def secondRun? (rest : List Char) : Option (List Char) :=
  (char? ',' (blanks (rest.dropWhile isRunChar))).map fun second =>
    (blanks second).takeWhile isRunChar

/-- The row count of a LIMIT: the second one of two counts, or the only one. -/
def limitRun (masked : List Char) (found : Hit) : List Char :=
  match found.group? 0 with
  | some count =>
    (secondRun? (masked.drop count.stop)).getD ((masked.drop count.start).takeWhile isRunChar)
  | none => []

/-- A FETCH whose row count is at most the limit. Without a number it fetches one row. -/
def FetchFits (limit : Int) (masked : List Char) (found : Hit) : Prop :=
  (∃ count ∈ found.group? 0, Fits limit ((masked.drop count.start).takeWhile isRunChar)) ∨
    found.group? 0 = none ∧ 1 ≤ limit

instance (limit : Int) (masked : List Char) (found : Hit) : Decidable (FetchFits limit masked found) :=
  inferInstanceAs (Decidable ((∃ count ∈ found.group? 0, _) ∨ _))

/-- A statement whose last LIMIT or FETCH outside of all parentheses has a row count that is a numeral
not above the limit. -/
def IsBounded (limit : Int) (masked : List Char) : Prop :=
  (∃ found ∈ lastTopLevel? limitClause masked,
      (∀ fetch ∈ lastTopLevel? fetchClause masked, fetch.start ≤ found.start) ∧
        Fits limit (limitRun masked found)) ∨
    ∃ fetch ∈ lastTopLevel? fetchClause masked,
      (∀ found ∈ lastTopLevel? limitClause masked, found.start < fetch.start) ∧
        FetchFits limit masked fetch

instance (limit : Int) (masked : List Char) : Decidable (IsBounded limit masked) :=
  inferInstanceAs (Decidable ((∃ found ∈ lastTopLevel? limitClause masked, _) ∨
    ∃ fetch ∈ lastTopLevel? fetchClause masked, _))

theorem fits_clampCount (nonneg : 0 ≤ limit) (count : List Char) : Fits limit (clampCount limit count) := by
  obtain ⟨value, read, fits⟩ := clampCount_spec nonneg count
  exact ⟨value, read, fits⟩

theorem isRunChar_of_isDigit {c : Char} (digit : isDigit c = true) : isRunChar c = true := by
  simp [isRunChar, isWord_of_isDigit digit]

theorem isRunChar_eq_false_of_isBlank {c : Char} (is_blank : isBlank c = true) : isRunChar c = false := by
  cases run : isRunChar c with
  | false => rfl
  | true =>
      simp only [isRunChar, Bool.or_eq_true, beq_iff_eq] at run
      rcases run with (word | rfl) | rfl
      · rw [isBlank_eq_false_of_isWord word] at is_blank
        cases is_blank
      · exact absurd is_blank (by decide)
      · exact absurd is_blank (by decide)

theorem takeWhile_of_stops {kind : Char → Bool} {text : List Char} (stops : Stops kind text) :
    text.takeWhile kind = [] := by
  cases text with
  | nil => rfl
  | cons c rest => rw [List.takeWhile_cons, if_neg (Bool.eq_false_iff.1 stops)]

/-- Of a FETCH it matters what stands at its match. -/
theorem fetchFits_at_iff :
    FetchFits limit (front ++ back) (found.at front.length) ↔ FetchFits limit back (found.at 0) := by
  have behind : ∀ n, (front ++ back).drop (n + front.length) = back.drop n := fun n => by
    rw [Nat.add_comm, List.drop_length_add_append]
  simp only [FetchFits, Match.group?_at]
  cases found.groups[0]?.join with
  | none => simp
  | some count => simp [Span.shift, behind]

/-- The last LIMIT governs if no FETCH begins behind it. -/
theorem isBounded_of_limit (last : LastAt limitClause front back found)
    (clear : Clear fetchClause 0 (lastBefore none front) back) :
    IsBounded limit (front ++ back) ↔ Fits limit (limitRun (front ++ back) (found.at front.length)) := by
  have here := (lastTopLevel?_eq_some_iff keyed_limitClause).2 ⟨front, back, found, rfl, last, rfl⟩
  rw [← last.depth] at clear
  have early := (solo_fetchClause.clear_iff keyed_fetchClause).1 clear
  have before : ∀ fetch ∈ lastTopLevel? fetchClause (front ++ back), fetch.start < front.length :=
    fun fetch member => early fetch (List.mem_of_getLast? member)
  rw [IsBounded, here]
  constructor
  · rintro (⟨_, ⟨⟩, -, fits⟩ | ⟨fetch, member, later, -⟩)
    · exact fits
    · have behind := later _ rfl
      have := before fetch member
      simp only [Match.at] at behind
      omega
  · exact fun fits => .inl ⟨_, rfl, fun fetch member => (before fetch member).le, fits⟩

/-- The last FETCH governs if every LIMIT begins before it. -/
theorem isBounded_of_fetch (last : LastAt fetchClause front back found)
    (before : ∀ hit ∈ lastTopLevel? limitClause (front ++ back), hit.start < front.length) :
    IsBounded limit (front ++ back) ↔ FetchFits limit back (found.at 0) := by
  have here := (lastTopLevel?_eq_some_iff keyed_fetchClause).2 ⟨front, back, found, rfl, last, rfl⟩
  rw [IsBounded, here, ← fetchFits_at_iff]
  constructor
  · rintro (⟨hit, member, later, -⟩ | ⟨_, ⟨⟩, -, fits⟩)
    · have behind := later _ rfl
      have := before hit member
      simp only [Match.at] at behind
      omega
    · exact fits
  · exact fun fits => .inr ⟨_, rfl, before, fits⟩

/-- The row count of a FETCH ends where its group does, for a blank follows. -/
theorem fetch_run_eq_slice {before : Option Char} {span : Span}
    (matched : fetchClause before back = some found) (group : found.groups[0]?.join = some span) :
    (back.drop span.start).takeWhile isRunChar = span.slice back ∧ span.stop ≤ found.length := by
  obtain ⟨-, head, tail, -, rfl, ⟨count, rest, after, rfl, isCount, -, closes, rfl⟩ | ⟨after, -, rfl⟩⟩ :=
    fetchClause_eq_some_iff.1 matched
  · cases group
    obtain ⟨gap, word, rfl, isRun, -⟩ := fetchClose_eq_some closes
    have stops : Stops isRunChar (gap ++ (word ++ after)) :=
      Stops.append isRun (fun _ => isRunChar_eq_false_of_isBlank) _
    constructor
    · rw [List.drop_left, slice_append, List.takeWhile_append_of_pos fun c member =>
        isRunChar_of_isDigit (isCount.2 c member), takeWhile_of_stops stops, List.append_nil]
    · simp only [List.length_append]
      omega
  · cases group

theorem dropWhile_append_of_stops {kind : Char → Bool} (text : List Char) {tail : List Char}
    (stops : Stops kind tail) : (text ++ tail).dropWhile kind = text.dropWhile kind ++ tail := by
  rw [List.dropWhile_append]
  split_ifs with empty
  · rw [List.isEmpty_iff.1 empty, List.nil_append, dropWhile_of_stops stops]
  · rfl

theorem takeWhile_append_of_stops {kind : Char → Bool} (text : List Char) {tail : List Char}
    (stops : Stops kind tail) : (text ++ tail).takeWhile kind = text.takeWhile kind := by
  rw [List.takeWhile_append]
  split_ifs with whole
  · rw [takeWhile_of_stops stops, List.append_nil]
    exact ((List.takeWhile_prefix kind).eq_of_length whole).symm
  · rfl

theorem stops_isRunChar_of_trailing {tail : List Char} (trailing : IsTrailing tail) :
    Stops isRunChar tail :=
  trailing.stops (fun _ => isRunChar_eq_false_of_isBlank) (by decide)

/-- Blanks are read up to the end of a text, or into what follows it. -/
theorem blanks_append_cases (text x : List Char) :
    blanks (text ++ x) = blanks text ++ x ∨ blanks text = [] ∧ blanks (text ++ x) = blanks x := by
  rw [blanks, blanks, blanks, List.dropWhile_append]
  split_ifs with empty
  · exact .inr ⟨List.isEmpty_iff.1 empty, rfl⟩
  · exact .inl rfl

/-- Trailing text does not matter to the run behind blanks. -/
theorem run_append_trailing (rest : List Char) {tail : List Char} (trailing : IsTrailing tail) :
    (blanks (rest ++ tail)).takeWhile isRunChar = (blanks rest).takeWhile isRunChar := by
  rcases blanks_append_cases rest tail with whole | ⟨none, whole⟩
  · rw [whole, takeWhile_append_of_stops _ (stops_isRunChar_of_trailing trailing)]
  · rw [none, whole]
    rcases trailing.blanks_eq with none | dash
    · rw [none]
    · rw [dash]
      decide

theorem secondRun?_append_trailing (text : List Char) {tail : List Char} (trailing : IsTrailing tail) :
    secondRun? (text ++ tail) = secondRun? text := by
  have ends := trailing.interchangeable
  rw [secondRun?, secondRun?, dropWhile_append_of_stops text (stops_isRunChar_of_trailing trailing)]
  rcases blanks_append_cases (text.dropWhile isRunChar) tail with whole | ⟨none, whole⟩
  · rw [whole]
    cases blanks (text.dropWhile isRunChar) with
    | nil =>
        rw [List.nil_append, ends.inert'.comma]
        rfl
    | cons c second =>
        rw [List.cons_append, char?, char?]
        split_ifs
        · rw [Option.map_some, Option.map_some, run_append_trailing second trailing]
        · rfl
  · rw [none, whole, ends.behind'.comma]
    rfl

/-- Trailing text does not matter to whether a statement is bounded. -/
theorem isBounded_append_trailing (masked : List Char) {tail : List Char} (trailing : IsTrailing tail) :
    IsBounded limit (masked ++ tail) ↔ IsBounded limit masked := by
  have stops := stops_isRunChar_of_trailing trailing
  have limits : lastTopLevel? limitClause (masked ++ tail) = lastTopLevel? limitClause masked := by
    rw [lastTopLevel?, topLevelHits_append_trailing keyed_limitClause local_limitClause _ trailing]
    rfl
  have fetches : lastTopLevel? fetchClause (masked ++ tail) = lastTopLevel? fetchClause masked := by
    rw [lastTopLevel?, topLevelHits_append_trailing keyed_fetchClause local_fetchClause _ trailing]
    rfl
  have run : ∀ n ≤ masked.length, ((masked ++ tail).drop n).takeWhile isRunChar =
      (masked.drop n).takeWhile isRunChar := by
    intro n inside
    rw [List.drop_append_of_le_length inside, takeWhile_append_of_stops _ stops]
  have limit_run : ∀ found ∈ lastTopLevel? limitClause masked,
      limitRun (masked ++ tail) found = limitRun masked found := by
    intro found last
    cases group : found.group? 0 with
    | none => simp only [limitRun, group]
    | some count =>
        obtain ⟨-, before, inside⟩ :=
          Placed.of_lastTopLevel? (placed_limitClause 0) keyed_limitClause last group
        simp only [limitRun, group]
        rw [List.drop_append_of_le_length inside, secondRun?_append_trailing _ trailing,
          run _ (by omega)]
  have fetch_fits : ∀ fetch ∈ lastTopLevel? fetchClause masked,
      (FetchFits limit (masked ++ tail) fetch ↔ FetchFits limit masked fetch) := by
    intro fetch last
    refine or_congr (exists_congr fun count => and_congr_right fun group => ?_) Iff.rfl
    obtain ⟨-, before, inside⟩ := Placed.of_lastTopLevel? placed_fetchClause keyed_fetchClause last group
    rw [run _ (by omega)]
  rw [IsBounded, IsBounded, limits, fetches]
  refine or_congr (exists_congr fun found => and_congr_right fun last => ?_)
    (exists_congr fun fetch => and_congr_right fun last => ?_)
  · rw [limit_run found last]
  · rw [fetch_fits fetch last]

end QueryDesk.Sql
