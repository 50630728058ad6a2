/-
Module: QueryDesk.Proofs.Page.Retoken
Purpose: What rewriting does to the tokens of a statement: a count behind the keyword of its clause becomes
  a numeral, and whole clauses are put between two tokens or at the end. All other tokens stay, if no
  edit writes a word next to a word.
Imports: QueryDesk.Proofs.Page.Effect, QueryDesk.Proofs.Page.Stability, QueryDesk.Proofs.Sql.Tokens
Main exports: IsClause, HeadTokens, Retokened, Edit.Glues, Glued, Effect.retokened, paginate_retokened
-/
import QueryDesk.Proofs.Page.Effect
import QueryDesk.Proofs.Page.Stability
import QueryDesk.Proofs.Sql.Tokens

namespace QueryDesk.Sql

open QueryDesk.Text

variable {lexis : Lexis} {dialect : Dialect} {limit offset : Int} {masked text : List Char}

/-- The tokens of a text that is written. -/
def clauseTokens (text : List Char) : List (List Cell) :=
  tokensOf (plainCells text)

/-- A clause that a plan adds. -/
inductive IsClause (limit offset : Int) : List Char → Prop where
  | offsetRows : IsClause limit offset (offsetRows offset)
  | limitBefore : IsClause limit offset ("LIMIT ".toList ++ (numeral limit ++ [' ']))
  | top : IsClause limit offset (" TOP ".toList ++ numeral limit)
  | limitBehind : IsClause limit offset
      (" LIMIT ".toList ++ (numeral limit ++ (" OFFSET ".toList ++ numeral offset)))
  | fetch (clauses : Clauses) : IsClause limit offset (fetchTail limit offset clauses)

/-- The tokens before a count: first the keyword of the clause, which is a token by itself. -/
structure HeadTokens (head : List (List Cell)) : Prop where
  isHead : CountHead (head.flatten.map Cell.shown)
  whole : ∃ key more, head = plainCells key :: more ∧
    (key.map foldKeyword = "limit".toList ∨ key.map foldKeyword = "top".toList ∨
      key.map foldKeyword = "fetch".toList)

/-- What rewriting may do to the tokens of a statement. -/
inductive Retokened (limit offset : Int) : List (List Cell) → List (List Cell) → Prop where
  | keep (tokens : List (List Cell)) : Retokened limit offset tokens tokens
  | insert {clause : List Char} (isClause : IsClause limit offset clause) (left right : List (List Cell)) :
      Retokened limit offset (left ++ right) (left ++ (clauseTokens clause ++ right))
  | clamp {head : List (List Cell)} {count tail : List Char} (isHead : HeadTokens head)
      (isRun : IsRun isCountChar count)
      (isTail : tail = [] ∨ 0 < offset ∧ tail = " OFFSET ".toList ++ numeral offset)
      (left right : List (List Cell)) :
      Retokened limit offset (left ++ (head ++ (clauseTokens count ++ right)))
        (left ++ (head ++ (plainCells (clampCount limit count) :: (clauseTokens tail ++ right))))
  | insertClamp {head : List (List Cell)} {count : List Char} (isHead : HeadTokens head)
      (isRun : IsRun isCountChar count) (left right : List (List Cell)) :
      Retokened limit offset (left ++ (head ++ (clauseTokens count ++ right)))
        (left ++ (clauseTokens (offsetRows offset) ++
          (head ++ (plainCells (clampCount limit count) :: right))))

/-- An edit that changes the text, and writes a word next to a word. -/
def Edit.Glues (masked : List Char) (edit : Edit) : Prop :=
  edit.text ≠ edit.span.slice masked ∧
    (MeetInWord (masked.take edit.span.start) edit.text ∨
      MeetInWord edit.text (masked.drop edit.span.stop))

instance (masked : List Char) (edit : Edit) : Decidable (edit.Glues masked) :=
  inferInstanceAs (Decidable (_ ∧ (_ ∨ _)))

variable {left right head new : List Cell}

theorem not_meet_of_last {left right : List Char} (last : ∀ c ∈ left.getLast?, isWord c = false) :
    ¬ MeetInWord left right := by
  rintro ⟨⟨d, member, word⟩, -⟩
  rw [last d member] at word
  cases word

theorem not_meet_of_stops {left right : List Char} (stops : Stops isWord right) :
    ¬ MeetInWord left right := by
  rintro ⟨-, d, member, word⟩
  cases right with
  | nil => cases member
  | cons c rest =>
      cases member
      rw [show isWord d = false from stops] at word
      cases word

theorem last_of_not_meet {left right : List Char} (apart : ¬ MeetInWord left right)
    (first : ∃ d ∈ right.head?, isWord d = true) : ∀ c ∈ left.getLast?, isWord c = false := by
  intro c member
  by_contra word
  rw [Bool.not_eq_false] at word
  exact apart ⟨⟨c, member, word⟩, first⟩

theorem stops_of_not_meet {left right : List Char} (apart : ¬ MeetInWord left right)
    (last : ∃ c ∈ left.getLast?, isWord c = true) : Stops isWord right := by
  cases right with
  | nil => trivial
  | cons d rest =>
      by_contra word
      rw [Stops, Bool.not_eq_false] at word
      exact apart ⟨last, d, rfl, word⟩

theorem Front.last {front : List Char} (place : Front front) : ∀ c ∈ front.getLast?, isWord c = false := by
  intro c member
  have nonempty : front ≠ [] := by
    rintro rfl
    cases member
  have begins := place.begins
  rw [lastBefore_eq_getLast none nonempty] at begins
  rw [List.getLast?_eq_some_getLast nonempty] at member
  cases member
  simpa [wordBegins] using begins

theorem exists_head_of_isDigit {digits : List Char} (isRun : IsRun isDigit digits) (rest : List Char) :
    ∃ d ∈ (digits ++ rest).head?, isWord d = true := by
  cases digits with
  | nil => exact absurd rfl isRun.1
  | cons d more => exact ⟨d, rfl, isWord_of_isDigit (isRun.2 d (by simp))⟩

theorem exists_last_of_isDigit {digits : List Char} (isRun : IsRun isDigit digits) (before : List Char) :
    ∃ c ∈ (before ++ digits).getLast?, isWord c = true := by
  obtain ⟨c, last, word⟩ := getLast?_of_isDigit isRun before
  exact ⟨c, last, word⟩

/-! ### One edit

The tokens of a text are those of its parts wherever no word goes on over the seam. An edit that glues no
words together has two such seams, so that one token is exchanged, or whole tokens come in between two
others. -/

/-- A clause that is put between two tokens. -/
theorem retokened_insert {clause : List Char} (isClause : IsClause limit offset clause)
    (starts : ∀ cell ∈ right.head?, cell.mark.continues = false)
    (apart : ¬ MeetInWord (left.map Cell.shown) (right.map Cell.shown))
    (before : ¬ MeetInWord (left.map Cell.shown) clause)
    (behind : ¬ MeetInWord clause (right.map Cell.shown)) :
    Retokened limit offset (tokensOf (left ++ right)) (tokensOf (left ++ (plainCells clause ++ right))) := by
  have inner : tokensOf (plainCells clause ++ right) = clauseTokens clause ++ tokensOf right :=
    tokensOf_append starts (by rwa [map_shown_plainCells])
  have outer : tokensOf (left ++ (plainCells clause ++ right)) =
      tokensOf left ++ tokensOf (plainCells clause ++ right) := by
    refine tokensOf_append ?_ ?_
    · cases clause with
      | nil => exact starts
      | cons c rest => exact starts_plainCells (c :: rest)
    · rw [List.map_append, map_shown_plainCells]
      cases clause with
      | nil => exact apart
      | cons c rest => exact before
  rw [tokensOf_append starts apart, outer, inner]
  exact .insert isClause _ _

/-- The head of a count begins with the keyword of its clause. -/
theorem CountHead.exists_key {head : List Char} (isHead : CountHead head) :
    ∃ key more, head = key ++ more ∧ (key.map foldKeyword = "limit".toList ∨
        key.map foldKeyword = "top".toList ∨ key.map foldKeyword = "fetch".toList) ∧
      Stops isWord more := by
  have blanks : ∀ gap rest : List Char, IsRun isBlank gap → Stops isWord (gap ++ rest) :=
    fun gap rest isRun => Stops.append isRun (fun _ => isWord_eq_false_of_isBlank) rest
  have limit : ∀ head rest, LimitHead head → ∃ key more, head ++ rest = key ++ more ∧
      key.map foldKeyword = "limit".toList ∧ Stops isWord more := by
    rintro head rest ⟨key, gap, rfl, spelled, isRun⟩
    exact ⟨key, gap ++ rest, List.append_assoc key gap rest, spelled, blanks gap rest isRun⟩
  cases isHead with
  | limit isHead =>
      obtain ⟨key, more, split, spelled, stops⟩ := limit _ [] isHead
      exact ⟨key, more, by rw [← split, List.append_nil], .inl spelled, stops⟩
  | second isHead _ _ _ =>
      obtain ⟨key, more, split, spelled, stops⟩ := limit _ _ isHead
      exact ⟨key, more, split, .inl spelled, stops⟩
  | @top opens _ isHead =>
      obtain ⟨key, gap, gap', spelled, blank, -, rfl⟩ := isHead
      have stops : ∀ rest, Stops isWord rest → Stops isWord (gap ++ rest) := by
        intro rest stops
        cases gap with
        | nil => exact stops
        | cons c more => exact isWord_eq_false_of_isBlank (blank c (by simp))
      cases opens with
      | false =>
          have here := stops [] trivial
          rw [List.append_nil] at here
          exact ⟨key, gap, rfl, .inr (.inl spelled), here⟩
      | true =>
          exact ⟨key, gap ++ '(' :: gap', rfl, .inr (.inl spelled), stops _ (by decide : isWord '(' = false)⟩
  | fetch isHead =>
      obtain ⟨key, gap, word, gap', rfl, spelled, isRun, -⟩ := isHead
      exact ⟨key, _, rfl, .inr (.inr spelled), blanks gap _ isRun⟩

theorem CountHead.exists_word {head : List Char} (isHead : CountHead head) :
    ∃ c more, head = c :: more ∧ isWord c = true := by
  obtain ⟨key, more, rfl, spelled, -⟩ := isHead.exists_key
  rcases spelled with spelled | spelled | spelled
  all_goals
    obtain ⟨c, rest, rfl, word⟩ := isWord_of_key spelled (by decide)
    exact ⟨c, rest ++ more, rfl, word⟩

/-- The tokens of a head begin with that of its keyword. -/
theorem headTokens (isHead : CountHead (head.map Cell.shown)) (chain : head.IsChain Outside) :
    HeadTokens (tokensOf head) := by
  refine ⟨by rwa [tokensOf, List.flatten_splitBy], ?_⟩
  obtain ⟨key, more, split, spelled, stops⟩ := isHead.exists_key
  obtain ⟨keyCells, rest, rfl, shown, rfl⟩ := List.map_eq_append_iff.1 split
  have words : IsRun isWord key := by
    rcases spelled with spelled | spelled | spelled
    all_goals
      refine ⟨?_, fun c => isWord_of_mem_key spelled (by decide)⟩
      rintro rfl
      cases spelled
  have plain : keyCells = plainCells key := by
    rw [← shown]
    refine eq_plainCells fun c member => ?_
    rw [shown] at member
    exact isBlank_eq_false_of_isWord (words.2 c member)
  have starts : ∀ cell ∈ rest.head?, cell.mark.continues = false := by
    refine starts_behind_solid chain ?_
    rw [shown, List.getLast?_eq_some_getLast words.1]
    exact ⟨_, rfl, isBlank_eq_false_of_isWord (words.2 _ (List.getLast_mem words.1))⟩
  refine ⟨key, tokensOf rest, ?_, spelled⟩
  rw [tokensOf_append starts (not_meet_of_stops stops), plain, tokensOf_word words]
  rfl

/-- A count stands behind its head, and nothing goes on with it. -/
structure CountPlace (left head right : List Cell) : Prop where
  isHead : CountHead (head.map Cell.shown)
  before : ∀ c ∈ (left.map Cell.shown).getLast?, isWord c = false
  last : ∀ c ∈ (head.map Cell.shown).getLast?, isWord c = false
  starts : ∀ cell ∈ right.head?, cell.mark.continues = false
  stops : Stops isWord (right.map Cell.shown)

/-- The tokens of a text with a count. -/
theorem CountPlace.tokensOf_count (place : CountPlace left head right) {count : List Char}
    (nonempty : count ≠ []) :
    tokensOf (left ++ (head ++ (plainCells count ++ right))) =
      tokensOf left ++ (tokensOf head ++ (clauseTokens count ++ tokensOf right)) := by
  have behind : tokensOf (plainCells count ++ right) = clauseTokens count ++ tokensOf right :=
    tokensOf_append place.starts (not_meet_of_stops place.stops)
  have at_count : tokensOf (head ++ (plainCells count ++ right)) =
      tokensOf head ++ tokensOf (plainCells count ++ right) := by
    refine tokensOf_append ?_ (not_meet_of_last place.last)
    cases count with
    | nil => exact absurd rfl nonempty
    | cons c rest => exact starts_plainCells (c :: rest)
  have at_head : tokensOf (left ++ (head ++ (plainCells count ++ right))) =
      tokensOf left ++ tokensOf (head ++ (plainCells count ++ right)) := by
    refine tokensOf_append (starts_of_solid ?_) (not_meet_of_last place.before)
    obtain ⟨c, more, split, word⟩ := place.isHead.exists_word
    rw [List.map_append, split]
    rintro d ⟨⟩
    exact isBlank_eq_false_of_isWord word
  rw [at_head, at_count, behind]

/-- Whether a count behind a head is a token of its own, read off an edit of the count that glues
nothing. -/
theorem countPlace_of_not_glues {count : List Cell} {tail : List Char} (nonneg : 0 ≤ limit)
    (place : Front (left.map Cell.shown)) (isHead : CountHead (head.map Cell.shown))
    (isRun : IsRun isCountChar (count.map Cell.shown))
    (chain : (left ++ (head ++ (count ++ right))).IsChain Outside)
    (ends : ∃ c ∈ (clampCount limit (count.map Cell.shown) ++ tail).getLast?, isWord c = true)
    (before : ¬ MeetInWord ((left ++ head).map Cell.shown) (clampCount limit (count.map Cell.shown) ++ tail))
    (behind : ¬ MeetInWord (clampCount limit (count.map Cell.shown) ++ tail) (right.map Cell.shown)) :
    CountPlace left head right := by
  have digits : IsRun isDigit (clampCount limit (count.map Cell.shown)) := isCount_clampCount nonneg _
  obtain ⟨c, more, split, -⟩ := isHead.exists_word
  refine ⟨isHead, place.last, ?_, ?_, stops_of_not_meet behind ends⟩
  · have last := last_of_not_meet before (exists_head_of_isDigit digits tail)
    rwa [List.map_append, List.getLast?_append_of_ne_nil _ (by rw [split]; exact List.cons_ne_nil _ _)] at last
  · rw [← List.append_assoc, ← List.append_assoc] at chain
    refine starts_behind_solid chain ?_
    rw [List.map_append, List.getLast?_append_of_ne_nil _ isRun.1, List.getLast?_eq_some_getLast isRun.1]
    exact ⟨_, rfl, isBlank_eq_false_of_isCountChar (isRun.2 _ (List.getLast_mem isRun.1))⟩

/-- The tokens of a text with a count in which a tail was written behind it. -/
theorem CountPlace.tokensOf_tail (place : CountPlace left head right) {count tail : List Char}
    (isRun : IsRun isDigit count)
    (isTail : tail = [] ∨ 0 < offset ∧ tail = " OFFSET ".toList ++ numeral offset) :
    tokensOf (left ++ (head ++ (plainCells (count ++ tail) ++ right))) =
      tokensOf left ++ (tokensOf head ++ (plainCells count :: (clauseTokens tail ++ tokensOf right))) := by
  have word : clauseTokens count = [plainCells count] :=
    tokensOf_word ⟨isRun.1, fun c member => isWord_of_isDigit (isRun.2 c member)⟩
  have split : plainCells (count ++ tail) ++ right = plainCells count ++ (plainCells tail ++ right) := by
    rw [plainCells, List.map_append, List.append_assoc]
    rfl
  have behind : CountPlace left head (plainCells tail ++ right) := by
    refine ⟨place.isHead, place.before, place.last, ?_, ?_⟩
    · cases tail with
      | nil => exact place.starts
      | cons c rest => exact starts_plainCells (c :: rest)
    · rw [List.map_append, map_shown_plainCells]
      rcases isTail with rfl | ⟨-, rfl⟩
      · exact place.stops
      · exact (by decide : isWord ' ' = false)
  have tokens : tokensOf (plainCells tail ++ right) = clauseTokens tail ++ tokensOf right :=
    tokensOf_append place.starts (by
      rw [map_shown_plainCells]
      exact not_meet_of_stops place.stops)
  rw [split, behind.tokensOf_count isRun.1, word, tokens]
  rfl

/-- A count that is clamped, with or without an offset behind it. -/
theorem CountPlace.retokened (place : CountPlace left head right) (nonneg : 0 ≤ limit) {count tail : List Char}
    (chain : head.IsChain Outside) (isRun : IsRun isCountChar count)
    (isTail : tail = [] ∨ 0 < offset ∧ tail = " OFFSET ".toList ++ numeral offset) :
    Retokened limit offset (tokensOf (left ++ (head ++ (plainCells count ++ right))))
      (tokensOf (left ++ (head ++ (plainCells (clampCount limit count ++ tail) ++ right)))) := by
  rw [place.tokensOf_count isRun.1, place.tokensOf_tail (isCount_clampCount nonneg count) isTail]
  exact .clamp (headTokens place.isHead chain) isRun isTail _ _

theorem last_of_blank {text trail : List Char} (split : text = trail ++ [' ']) :
    ∀ c ∈ text.getLast?, isWord c = false := by
  subst split
  intro c member
  rw [List.getLast?_concat] at member
  cases member
  decide

theorem last_offsetRows (offset : Int) : ∀ c ∈ (offsetRows offset).getLast?, isWord c = false := by
  have trail : " ROWS ".toList = " ROWS".toList ++ [' '] := by decide
  unfold offsetRows
  generalize numeral offset = value
  exact last_of_blank (by rw [trail, List.append_assoc _ _ [' ']])

/-- A count that is clamped, with an offset put before its clause. -/
theorem CountPlace.retokened_lead (place : CountPlace left head right) (nonneg : 0 ≤ limit)
    {count : List Char} (chain : head.IsChain Outside) (isRun : IsRun isCountChar count) :
    Retokened limit offset (tokensOf (left ++ (head ++ (plainCells count ++ right))))
      (tokensOf ((left ++ plainCells (offsetRows offset)) ++
        (head ++ (plainCells (clampCount limit count) ++ right)))) := by
  have lead := last_offsetRows offset
  have some_lead : offsetRows offset ≠ [] := by
    rw [offsetRows_eq]
    exact List.cons_ne_nil _ _
  have moved : CountPlace (left ++ plainCells (offsetRows offset)) head right := by
    refine ⟨place.isHead, ?_, place.last, place.starts, place.stops⟩
    rw [List.map_append, map_shown_plainCells, List.getLast?_append_of_ne_nil _ some_lead]
    exact lead
  have tokens : tokensOf (left ++ plainCells (offsetRows offset)) =
      tokensOf left ++ clauseTokens (offsetRows offset) :=
    tokensOf_append (starts_plainCells _) (not_meet_of_last place.before)
  have written := @CountPlace.tokensOf_tail 0 _ _ _ moved (clampCount limit count) []
    (isCount_clampCount nonneg count) (.inl rfl)
  rw [List.append_nil] at written
  rw [place.tokensOf_count isRun.1, written, tokens, List.append_assoc]
  exact .insertClamp (headTokens place.isHead chain) isRun _ _

theorem Edit.applyCells_insertAt (left right : List Cell) (text : List Char) {position : Nat}
    (place : position = left.length) :
    Edit.applyCells 0 (left ++ right) [Edit.insertAt position text] = left ++ (plainCells text ++ right) := by
  subst place
  simp [Edit.applyCells, Edit.insertAt]

theorem Edit.applyCells_insertAt_end (cells : List Cell) (text : List Char) {position : Nat}
    (place : position = cells.length) :
    Edit.applyCells 0 cells [Edit.insertAt position text] = cells ++ plainCells text := by
  have applied := Edit.applyCells_insertAt cells [] text place
  rwa [List.append_nil, List.append_nil] at applied

theorem Edit.applyCells_single (left old right : List Cell) (text : List Char) {position size : Nat}
    (place : position = left.length) (length : size = old.length) :
    Edit.applyCells 0 (left ++ (old ++ right)) [⟨⟨position, position + size⟩, text⟩] =
      left ++ (plainCells text ++ right) := by
  subst place length
  have behind : (left ++ (old ++ right)).drop (left.length + old.length) = right := by
    rw [← List.append_assoc, ← List.length_append, List.drop_left]
  simp [Edit.applyCells, behind]

theorem Edit.applyCells_pair (left head old right : List Cell) (text new : List Char)
    {position place size : Nat} (first : position = left.length) (second : place = (left ++ head).length)
    (length : size = old.length) :
    Edit.applyCells 0 (left ++ (head ++ (old ++ right)))
        [Edit.insertAt position text, ⟨⟨place, place + size⟩, new⟩] =
      (left ++ plainCells text) ++ (head ++ (plainCells new ++ right)) := by
  subst first second length
  have before : (left ++ head).length - left.length = head.length := by simp
  have behind : (left ++ head).length + old.length - left.length = (head ++ old).length := by
    simp only [List.length_append]
    omega
  simp only [Edit.applyCells, Edit.insertAt, Nat.sub_zero, List.take_left, List.drop_left, before, behind,
    List.append_assoc]
  rw [← List.append_assoc head old, List.drop_left]

/-- A clause that is put before a word. -/
theorem Front.retokened (place : Front (left.map Cell.shown))
    (word : ∃ c more, right.map Cell.shown = c :: more ∧ isWord c = true) {clause : List Char}
    (isClause : IsClause limit offset clause) (ends : ∀ c ∈ clause.getLast?, isWord c = false) :
    Retokened limit offset (tokensOf (left ++ right)) (tokensOf (left ++ (plainCells clause ++ right))) := by
  obtain ⟨c, more, split, word⟩ := word
  refine retokened_insert isClause (starts_of_solid ?_) (not_meet_of_last place.last)
    (not_meet_of_last place.last) (not_meet_of_last ends)
  rw [split]
  rintro d ⟨⟩
  exact isBlank_eq_false_of_isWord word

/-- A clause that is put at the end. -/
theorem retokened_end {clause : List Char} (isClause : IsClause limit offset clause)
    (stops : Stops isWord clause) (cells : List Cell) :
    Retokened limit offset (tokensOf cells) (tokensOf (cells ++ plainCells clause)) := by
  have stops_nil : Stops isWord [] := trivial
  have inserted := @retokened_insert limit offset cells [] clause isClause nofun
    (not_meet_of_stops stops_nil) (not_meet_of_stops stops) (not_meet_of_stops stops_nil)
  rwa [List.append_nil, List.append_nil] at inserted

/-- The clamp of a count, unless it glues words together. -/
theorem retokened_clamp {count : List Cell} {tail : List Char} (nonneg : 0 ≤ limit)
    (place : Front (left.map Cell.shown)) (isHead : CountHead (head.map Cell.shown))
    (isRun : IsRun isCountChar (count.map Cell.shown))
    (isTail : tail = [] ∨ 0 < offset ∧ tail = " OFFSET ".toList ++ numeral offset)
    (chain : (left ++ (head ++ (count ++ right))).IsChain Outside)
    (apart : clampCount limit (count.map Cell.shown) ++ tail = count.map Cell.shown ∨
      ¬ MeetInWord ((left ++ head).map Cell.shown) (clampCount limit (count.map Cell.shown) ++ tail) ∧
        ¬ MeetInWord (clampCount limit (count.map Cell.shown) ++ tail) (right.map Cell.shown)) :
    Retokened limit offset (tokensOf (left ++ (head ++ (count ++ right))))
      (tokensOf (left ++ (head ++
        (plainCells (clampCount limit (count.map Cell.shown) ++ tail) ++ right)))) := by
  have plain : count = plainCells (count.map Cell.shown) :=
    eq_plainCells fun c member => isBlank_eq_false_of_isCountChar (isRun.2 c member)
  rcases apart with same | ⟨before, behind⟩
  · rw [same, ← plain]
    exact .keep _
  · have ends : ∃ c ∈ (clampCount limit (count.map Cell.shown) ++ tail).getLast?, isWord c = true := by
      rcases isTail with rfl | ⟨positive, rfl⟩
      · rw [List.append_nil]
        exact exists_last_of_isDigit (isCount_clampCount nonneg _) []
      · rw [← List.append_assoc]
        exact exists_last_of_isDigit (isCount_numeral (by omega)) _
    have counted := countPlace_of_not_glues nonneg place isHead isRun chain ends before behind
    have head_chain := (List.isChain_append.1 (List.isChain_append.1 chain).2.1).1
    have clamped := counted.retokened nonneg head_chain isRun isTail
    rwa [← plain] at clamped

/-- The clamp of a count with an offset put before its clause, unless it glues words together. -/
theorem retokened_lead_clamp {count : List Cell} (nonneg : 0 ≤ limit)
    (place : Front (left.map Cell.shown)) (isHead : CountHead (head.map Cell.shown))
    (isRun : IsRun isCountChar (count.map Cell.shown))
    (chain : (left ++ (head ++ (count ++ right))).IsChain Outside)
    (apart : clampCount limit (count.map Cell.shown) = count.map Cell.shown ∨
      ¬ MeetInWord ((left ++ head).map Cell.shown) (clampCount limit (count.map Cell.shown)) ∧
        ¬ MeetInWord (clampCount limit (count.map Cell.shown)) (right.map Cell.shown)) :
    Retokened limit offset (tokensOf (left ++ (head ++ (count ++ right))))
      (tokensOf ((left ++ plainCells (offsetRows offset)) ++
        (head ++ (plainCells (clampCount limit (count.map Cell.shown)) ++ right)))) := by
  have plain : count = plainCells (count.map Cell.shown) :=
    eq_plainCells fun c member => isBlank_eq_false_of_isCountChar (isRun.2 c member)
  rcases apart with same | ⟨before, behind⟩
  · rw [same, ← plain, List.append_assoc]
    refine place.retokened ?_ .offsetRows (last_offsetRows offset)
    obtain ⟨c, more, split, word⟩ := isHead.exists_word
    exact ⟨c, _, by rw [List.map_append, split]; rfl, word⟩
  · have counted := @countPlace_of_not_glues limit left right head count [] nonneg place isHead isRun chain
    rw [List.append_nil] at counted
    have head_chain := (List.isChain_append.1 (List.isChain_append.1 chain).2.1).1
    have clamped := @CountPlace.retokened_lead limit offset _ _ _ (counted
      (exists_last_of_isDigit (isCount_clampCount nonneg _) []) before behind) nonneg _ head_chain isRun
    rwa [← plain] at clamped

/-- A SELECT head ends in a word. -/
theorem SelectRest.exists_last {key more : List Char} (isRest : SelectRest more)
    (spelled : key.map foldKeyword = "select".toList) (front : List Char) :
    ∃ c ∈ (front ++ (key ++ more)).getLast?, isWord c = true := by
  have last : ∀ (word : List Char) (front : List Char), IsRun isWord word →
      ∃ c ∈ (front ++ word).getLast?, isWord c = true := by
    intro word front isRun
    rw [List.getLast?_append_of_ne_nil _ isRun.1, List.getLast?_eq_some_getLast isRun.1]
    exact ⟨_, rfl, isRun.2 _ (List.getLast_mem isRun.1)⟩
  have run : ∀ {key word : List Char}, key.map foldKeyword = word → word.all isKeywordLetter = true →
      word ≠ [] → IsRun isWord key := by
    rintro key word spelled letters nonempty
    refine ⟨?_, fun c => isWord_of_mem_key spelled letters⟩
    rintro rfl
    exact nonempty spelled.symm
  rcases isRest with rfl | ⟨gap, word, rfl, -, fold | fold⟩
  · rw [List.append_nil]
    exact last key front (run spelled (by decide) (by decide))
  · rw [← List.append_assoc, ← List.append_assoc]
    exact last word _ (run fold (by decide) (by decide))
  · rw [← List.append_assoc, ← List.append_assoc]
    exact last word _ (run fold (by decide) (by decide))

theorem stops_fetchTail (limit offset : Int) (clauses : Clauses) :
    Stops isWord (fetchTail limit offset clauses) := by
  obtain ⟨order, between, split, order_cases, between_cases⟩ := serverTail_cases offset clauses
  rw [fetchTail_eq, split]
  generalize numeral limit = value
  rcases order_cases with rfl | rfl
  · rcases between_cases with rfl | rfl
    · exact (by decide : isWord ' ' = false)
    · exact (by decide : isWord ' ' = false)
  · exact (by decide : isWord ' ' = false)

/-- An edit that changes the text and glues nothing meets no word on either side. -/
theorem apart_of_not_glues {old new front back : List Char} {position size : Nat}
    (kept : ¬ Edit.Glues (front ++ (old ++ back)) ⟨⟨position, position + size⟩, new⟩)
    (place : position = front.length) (length : size = old.length) :
    new = old ∨ ¬ MeetInWord front new ∧ ¬ MeetInWord new back := by
  subst place length
  by_cases same : new = old
  · exact .inl same
  · have taken : (front ++ (old ++ back)).take front.length = front := List.take_left
    have dropped : (front ++ (old ++ back)).drop (front.length + old.length) = back := by
      rw [← List.append_assoc, ← List.length_append, List.drop_left]
    rw [Edit.Glues, slice_append] at kept
    simp only [taken, dropped] at kept
    exact .inr ⟨fun meet => kept ⟨same, .inl meet⟩, fun meet => kept ⟨same, .inr meet⟩⟩

/-- What is put somewhere and glues nothing meets no word there. -/
theorem apart_of_not_glues_insert {new front back : List Char} (filled : new ≠ [])
    (kept : ¬ Edit.Glues (front ++ back) (Edit.insertAt front.length new)) :
    ¬ MeetInWord front new ∧ ¬ MeetInWord new back :=
  (@apart_of_not_glues [] new front back front.length 0 kept rfl rfl).resolve_left filled

/-- Whatever a plan does to a statement, it does to its tokens what rewriting may do. -/
theorem Effect.retokened {cells : List Cell} {edits : List Edit} (effect : Effect limit offset masked edits)
    (shown : cells.map Cell.shown = masked) (chain : cells.IsChain Outside) (nonneg : 0 ≤ limit)
    (kept : ∀ edit ∈ edits, ¬ edit.Glues masked) :
    Retokened limit offset (tokensOf cells) (tokensOf (Edit.applyCells 0 cells edits)) := by
  cases effect with
  | keep => exact .keep _
  | @clamp front key count place isHead isRun tail rest isTail =>
      obtain ⟨left, behind, rfl, rfl, shown_behind⟩ := List.map_eq_append_iff.1 shown
      obtain ⟨head, behind, rfl, rfl, shown_count⟩ := List.map_eq_append_iff.1 shown_behind
      obtain ⟨old, right, rfl, rfl, rfl⟩ := List.map_eq_append_iff.1 shown_count
      have edit := kept _ (List.mem_singleton_self _)
      rw [← List.append_assoc, ← List.map_append] at edit
      have apart := apart_of_not_glues edit rfl rfl
      rw [← List.append_assoc left, ← List.map_append, Edit.applyCells_single _ old right _
        (by rw [List.length_map]) (by rw [List.length_map]), List.append_assoc, List.append_assoc]
      exact retokened_clamp nonneg place isHead isRun isTail chain apart
  | @lead front key place isHead rest positive =>
      obtain ⟨left, right, rfl, rfl, shown_right⟩ := List.map_eq_append_iff.1 shown
      rw [Edit.applyCells_insertAt left right _ (by rw [List.length_map])]
      obtain ⟨c, more, rfl, word⟩ := (CountHead.fetch isHead).exists_word
      exact place.retokened ⟨c, more ++ rest, shown_right, word⟩ .offsetRows (last_offsetRows offset)
  | @leadClamp front key count place isHead isRun rest positive =>
      obtain ⟨left, behind, rfl, rfl, shown_behind⟩ := List.map_eq_append_iff.1 shown
      obtain ⟨head, behind, rfl, rfl, shown_count⟩ := List.map_eq_append_iff.1 shown_behind
      obtain ⟨old, right, rfl, rfl, rfl⟩ := List.map_eq_append_iff.1 shown_count
      have edit := kept _ (List.mem_cons_of_mem _ (List.mem_singleton_self _))
      rw [← List.append_assoc, ← List.map_append] at edit
      have apart := apart_of_not_glues edit rfl rfl
      rw [← List.map_append, Edit.applyCells_pair left head old right _ _ (by rw [List.length_map])
        (by rw [List.length_map]) (by rw [List.length_map])]
      exact retokened_lead_clamp nonneg place (.fetch isHead) isRun chain apart
  | @limitBefore front key place spelled rest =>
      obtain ⟨left, right, rfl, rfl, shown_right⟩ := List.map_eq_append_iff.1 shown
      rw [Edit.applyCells_insertAt left right _ (by rw [List.length_map])]
      obtain ⟨c, more, rfl, word⟩ := isWord_of_key spelled (by decide)
      exact place.retokened ⟨c, more ++ rest, shown_right, word⟩ .limitBefore
        (last_of_blank (List.append_assoc _ _ _).symm)
  | @topBehind front key more place spelled isRest rest =>
      rw [← List.append_assoc key, ← List.append_assoc front] at shown
      obtain ⟨left, right, rfl, shown_left, rfl⟩ := List.map_eq_append_iff.1 shown
      have size : (front ++ key ++ more).length = left.length := by
        rw [List.append_assoc, ← shown_left, List.length_map]
      have last := isRest.exists_last spelled front
      rw [← shown_left] at last
      have isRun : IsRun isDigit (numeral limit) := isCount_numeral nonneg
      have edit := kept _ (List.mem_singleton_self _)
      rw [← List.append_assoc key, ← List.append_assoc front, List.append_assoc front key] at edit
      have filled : " TOP ".toList ++ numeral limit ≠ [] := List.cons_ne_nil _ _
      obtain ⟨-, glued⟩ := apart_of_not_glues_insert filled edit
      have stops := stops_of_not_meet glued (exists_last_of_isDigit isRun _)
      rw [Edit.applyCells_insertAt left right _ size]
      refine retokened_insert .top (starts_behind_solid chain ?_) (not_meet_of_stops stops)
        (not_meet_of_stops (by decide : isWord ' ' = false)) glued
      obtain ⟨c, member, word⟩ := last
      exact ⟨c, member, isBlank_eq_false_of_isWord word⟩
  | limitBehind =>
      rw [Edit.applyCells_insertAt_end cells _ (by rw [← shown, List.length_map])]
      exact retokened_end .limitBehind (by decide : isWord ' ' = false) cells
  | fetchBehind _ clauses =>
      rw [Edit.applyCells_insertAt_end cells _ (by rw [← shown, List.length_map])]
      exact retokened_end (.fetch clauses) (stops_fetchTail limit offset clauses) cells

/-! ### Rewritten queries

The cells of the bounded statement are those of the statement with the edits of its plan, and what an effect
does to cells it does to tokens. -/

/-- The plan for a text has an edit that glues words together. -/
def Glued (dialect : Dialect) (limit offset : Int) (text : List Char) : Prop :=
  ∃ edit ∈ planOf dialect limit offset text, edit.Glues (statementMask (Lexis.ofDialect dialect) text)

instance (dialect : Dialect) (limit offset : Int) (text : List Char) :
    Decidable (Glued dialect limit offset text) :=
  inferInstanceAs (Decidable (∃ edit ∈ planOf dialect limit offset text, _))

/-- Before the trailer of a bounded text stands its bounded statement. -/
theorem statementText_boundText (closes : (Lexis.ofDialect dialect).closes text = true) (nonneg : 0 ≤ limit)
    (offset_nonneg : 0 ≤ offset) (touched : ¬ Untouched dialect text)
    (seamless : Seamless dialect limit offset text) :
    statementText (Lexis.ofDialect dialect) (boundText dialect limit offset text) =
      bounded dialect limit offset text := by
  have reread := reread_bounded closes nonneg offset_nonneg seamless.tagless
  have extent := (reread.extent (trailer_hidden closes) seamless.apart).1
  rw [statementText, boundText_eq touched, extent, List.take_left]

theorem boundText_retokened (closes : (Lexis.ofDialect dialect).closes text = true) (nonneg : 0 ≤ limit)
    (offset_nonneg : 0 ≤ offset) (seamless : ¬ Untouched dialect text → Seamless dialect limit offset text)
    (kept : ¬ Untouched dialect text → ¬ Glued dialect limit offset text) :
    Retokened limit offset
      ((Lexis.ofDialect dialect).tokens (statementText (Lexis.ofDialect dialect) text))
      ((Lexis.ofDialect dialect).tokens
        (statementText (Lexis.ofDialect dialect) (boundText dialect limit offset text))) := by
  by_cases touched : Untouched dialect text
  · rw [boundText_of_untouched touched]
    exact .keep _
  · have mask := (statement_closed closes).2.1
    have spliceable := spliceable_planOf closes nonneg offset_nonneg (seamless touched).tagless
    rw [statementText_boundText closes nonneg offset_nonneg touched (seamless touched), bounded,
      Lexis.tokens, Lexis.tokens, Edit.applyAll, spliceable.cells_applyFrom]
    refine (effect_plan dialect limit offset _).retokened ?_ (Lexis.isChain_cells _ _) nonneg ?_
    · rw [Lexis.map_shown_cells, mask]
    · exact fun edit member glues => kept touched ⟨edit, member, glues⟩

/-- A query is rewritten token by token: a count behind the keyword of its clause becomes a numeral, and
whole clauses are added. -/
theorem paginate_retokened (dialect : Dialect) (policy : PagePolicy) (limit offset : Option Int)
    {sql : String} (closed : LexicallyClosed (Lexis.ofDialect dialect) sql.toList)
    (seamless : ¬ Untouched dialect sql.toList →
      Seamless dialect (policy.clamp limit) (directiveOf policy limit offset).offset sql.toList)
    (kept : ¬ Untouched dialect sql.toList →
      ¬ Glued dialect (policy.clamp limit) (directiveOf policy limit offset).offset sql.toList) :
    Retokened (policy.clamp limit) (directiveOf policy limit offset).offset
      ((Lexis.ofDialect dialect).tokens (statementText (Lexis.ofDialect dialect) sql.toList))
      ((Lexis.ofDialect dialect).tokens (statementText (Lexis.ofDialect dialect)
        (paginate dialect policy limit offset sql).sql.toList)) := by
  rw [paginate, String.toList_ofList]
  exact boundText_retokened closed.closes (Int.le_of_lt (one_le_clamp policy limit))
    (directiveOf_offset_nonneg policy limit offset) seamless kept

/-- An offset is put before a FETCH whose count is clamped; a literal and a comment are kept. -/
theorem paginate_retokened_of_fetch :
    (LexicallyClosed (Lexis.ofDialect .postgres)
        "SELECT ';' FETCH FIRST 99 ROWS ONLY; --".toList ∧
      Seamless .postgres 50 20 "SELECT ';' FETCH FIRST 99 ROWS ONLY; --".toList ∧
      ¬ Glued .postgres 50 20 "SELECT ';' FETCH FIRST 99 ROWS ONLY; --".toList) ∧
    Retokened 50 20
      ((Lexis.ofDialect .postgres).tokens (statementText (Lexis.ofDialect .postgres)
        "SELECT ';' FETCH FIRST 99 ROWS ONLY; --".toList))
      ((Lexis.ofDialect .postgres).tokens (statementText (Lexis.ofDialect .postgres)
        (paginate .postgres .standard (some 50) (some 20)
          "SELECT ';' FETCH FIRST 99 ROWS ONLY; --").sql.toList)) := by
  have closed : LexicallyClosed (Lexis.ofDialect .postgres)
      "SELECT ';' FETCH FIRST 99 ROWS ONLY; --".toList :=
    ⟨by decide +kernel, by decide +kernel⟩
  have seamless : Seamless .postgres 50 20
      "SELECT ';' FETCH FIRST 99 ROWS ONLY; --".toList :=
    ⟨by decide +kernel, by decide +kernel⟩
  have kept : ¬ Glued .postgres 50 20
      "SELECT ';' FETCH FIRST 99 ROWS ONLY; --".toList := by decide +kernel
  exact ⟨⟨closed, seamless, kept⟩,
    paginate_retokened .postgres .standard (some 50) (some 20) closed (fun _ => seamless) fun _ => kept⟩

/-- Tokens are kept, or become more, or one of them is the keyword of a count. -/
theorem Retokened.cases_length {before after : List (List Cell)}
    (retokened : Retokened limit offset before after) :
    before = after ∨ before.length < after.length ∨
      ∃ token ∈ before, (token.map Cell.shown).map foldKeyword ∈
        ["limit".toList, "top".toList, "fetch".toList] := by
  have keyword : ∀ {head : List (List Cell)} (left right : List (List Cell)), HeadTokens head →
      ∃ token ∈ left ++ (head ++ right), (token.map Cell.shown).map foldKeyword ∈
        ["limit".toList, "top".toList, "fetch".toList] := by
    rintro head left right ⟨-, key, more, rfl, spelled⟩
    refine ⟨plainCells key, by simp, ?_⟩
    rw [map_shown_plainCells]
    simpa using spelled
  cases retokened with
  | keep => exact .inl rfl
  | @insert clause _ left right =>
      cases written : clauseTokens clause with
      | nil => exact .inl rfl
      | cons token more =>
          refine .inr (.inl ?_)
          simp only [List.length_append, List.length_cons]
          omega
  | clamp isHead _ _ left right => exact .inr (.inr (keyword _ _ isHead))
  | insertClamp isHead _ left right => exact .inr (.inr (keyword _ _ isHead))

/-- A name that begins with TOP and ends in digits is cut. -/
theorem paginate_topName_not_retokened :
    LexicallyClosed (Lexis.ofDialect .postgres) "SELECT top500 FROM t".toList ∧
      paginate .postgres .standard (some 50) (some 0) "SELECT top500 FROM t" =
        ⟨"SELECT top50 FROM t", ⟨50, 0, true⟩⟩ ∧
      ¬ Retokened 50 0
        ((Lexis.ofDialect .postgres).tokens (statementText (Lexis.ofDialect .postgres)
          "SELECT top500 FROM t".toList))
        ((Lexis.ofDialect .postgres).tokens (statementText (Lexis.ofDialect .postgres)
          (paginate .postgres .standard (some 50) (some 0) "SELECT top500 FROM t").sql.toList)) := by
  refine ⟨⟨by decide +kernel, by decide +kernel⟩, by decide +kernel, fun retokened => ?_⟩
  have possible := retokened.cases_length
  revert possible
  decide +kernel

end QueryDesk.Sql
