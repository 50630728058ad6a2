/-
Module: QueryDesk.Proofs.Sql.Splice
Purpose: Places at which a text can be cut and spliced without a change to how the rest is read. A
  text is closed if the machine stands outside of all tokens behind it. What is read of a text are its
  cells, the characters with their marks, and a mask is a picture of them. A text of calm characters
  (words, blanks, parentheses) reads as itself.
Imports: QueryDesk.Proofs.Sql.Lexing
Main exports: Lexis.Closed, Cell, Lexis.cells, plainCells, isCalm, Lexis.cells_calm_append,
  Lexis.joins_eq_false, Lexis.hideFrom_append_of_closed, Lexis.cells_append_of_seam,
  Lexis.cells_take_drop_of_seam
-/
import QueryDesk.Proofs.Sql.Lexing

namespace QueryDesk.Sql

open QueryDesk.Text

variable {lexis : Lexis}

/-- A text behind which the machine stands outside of all tokens. -/
def Lexis.Closed (lexis : Lexis) (text : List Char) : Prop :=
  lexis.modeAfter .plain text = .plain

/-- A character of a text with what it belongs to. -/
structure Cell where
  mark : Mark
  char : Char
deriving Repr, DecidableEq

/-- The characters of a text with their marks. -/
def Lexis.cells (lexis : Lexis) (text : List Char) : List Cell :=
  List.zipWith Cell.mk (lexis.marks text) text

/-- The cells of a text that is read as it stands. -/
def plainCells (text : List Char) : List Cell :=
  text.map (Cell.mk .plain)

/-- The character of a cell, blanked if its mark is hidden. -/
def Cell.hiddenBy (hidden : Mark → Bool) (cell : Cell) : Char :=
  if hidden cell.mark then blank cell.char else cell.char

theorem Lexis.hideFrom_eq_map (hidden : Mark → Bool) (text : List Char) :
    lexis.hideFrom hidden .plain text = (lexis.cells text).map (Cell.hiddenBy hidden) := by
  rw [hideFrom_eq_hide, cells, List.map_zipWith]
  rfl

theorem map_hiddenBy_plainCells {hidden : Mark → Bool} (shown : hidden .plain = false) (text : List Char) :
    (plainCells text).map (Cell.hiddenBy hidden) = text := by
  rw [plainCells, List.map_map]
  exact List.map_id'' (fun _ => if_neg (Bool.eq_false_iff.1 shown)) text

@[simp]
theorem Lexis.length_cells (lexis : Lexis) (text : List Char) : (lexis.cells text).length = text.length := by
  simp [cells, marks]

/-- A character that begins no token, whatever follows it. -/
def isCalm (c : Char) : Bool :=
  !(c == '-' || c == '#' || c == '/' || isDelimiter c)

/-- A calm character is plain outside of all tokens. -/
theorem Lexis.stepPlain_of_calm (lexis : Lexis) {c : Char} (calm : isCalm c = true) (rest : List Char) :
    lexis.stepPlain c rest = (.plain, .plain) := by
  simp only [isCalm, isDelimiter, Bool.not_eq_true', Bool.or_eq_false_iff, beq_eq_false_iff_ne] at calm
  obtain ⟨⟨⟨dash, hash⟩, slash⟩, ⟨⟨mark, opening⟩, _⟩, dollar⟩ := calm
  refine stepPlain_of_plain (stepPlain_eq_plain_iff.2 ⟨?_, ?_, ?_, ?_⟩)
  · simp [dash, hash]
  · simp [slash]
  · simp [dollarTag?_eq_none_of_ne rest dollar]
  · have quote : (c == '\x27' || c == '\x22' || c == '\x60') = false := mark
    simp [closing?, quote, opening]

/-- Word characters are calm. -/
theorem isCalm_of_isWord {c : Char} (word : isWord c = true) : isCalm c = true := by
  simp only [isCalm, isDelimiter, isQuoteMark, Bool.not_eq_true', Bool.or_eq_false_iff,
    beq_eq_false_iff_ne]
  refine ⟨⟨⟨?_, ?_⟩, ?_⟩, ⟨⟨⟨⟨?_, ?_⟩, ?_⟩, ?_⟩, ?_⟩, ?_⟩ <;>
    (rintro rfl; revert word; decide)

/-- Blanks are calm. -/
theorem isCalm_of_isBlank {c : Char} (blank : isBlank c = true) : isCalm c = true := by
  simp only [isCalm, isDelimiter, isQuoteMark, Bool.not_eq_true', Bool.or_eq_false_iff,
    beq_eq_false_iff_ne]
  refine ⟨⟨⟨?_, ?_⟩, ?_⟩, ⟨⟨⟨⟨?_, ?_⟩, ?_⟩, ?_⟩, ?_⟩, ?_⟩ <;>
    (rintro rfl; revert blank; decide)

/-- A text of calm characters is read as itself. -/
theorem Lexis.cells_calm_append {text : List Char} (calm : ∀ c ∈ text, isCalm c = true)
    (after : List Char) : lexis.cells (text ++ after) = plainCells text ++ lexis.cells after := by
  induction text with
  | nil => rfl
  | cons c rest ih =>
      have head := lexis.stepPlain_of_calm (calm c (by simp)) (rest ++ after)
      have later := ih fun d member => calm d (by simp [member])
      rw [cells, marks] at later ⊢
      simp only [List.cons_append, marksFrom, step, head, List.zipWith_cons_cons, later]
      rfl

theorem Lexis.hideFrom_calm_append {hidden : Mark → Bool} (shown : hidden .plain = false)
    {text : List Char} (calm : ∀ c ∈ text, isCalm c = true) (after : List Char) :
    lexis.hideFrom hidden .plain (text ++ after) = text ++ lexis.hideFrom hidden .plain after := by
  rw [hideFrom_eq_map, hideFrom_eq_map, cells_calm_append calm, List.map_append,
    map_hiddenBy_plainCells shown]

/-- Behind a text of calm characters the machine is where it was. -/
theorem Lexis.modeAfter_calm_append {text : List Char} (calm : ∀ c ∈ text, isCalm c = true)
    (after : List Char) : lexis.modeAfter .plain (text ++ after) = lexis.modeAfter .plain after := by
  induction text with
  | nil => rfl
  | cons c rest ih =>
      have head := lexis.stepPlain_of_calm (calm c (by simp)) (rest ++ after)
      simp only [List.cons_append, modeAfter, step, head]
      exact ih fun x member => calm x (by simp [member])

/-- A name that does not go on to a dollar sign is no dollar tag. -/
theorem dollarTag?_eq_none_of_stop {name after : List Char} (all : name.all isNameChar = true)
    (stop : ∀ d more, after = d :: more → isNameChar d = false ∧ d ≠ '$') :
    dollarTag? ('$' :: (name ++ after)) = none := by
  cases found : dollarTag? ('$' :: (name ++ after)) with
  | none => rfl
  | some tag =>
      obtain ⟨rest, same, rfl, starts⟩ := eq_of_dollarTag? found
      cases same
      have whole : (name ++ after).takeWhile isNameChar = name := by
        rw [List.takeWhile_append_of_pos (List.all_eq_true.1 all)]
        cases after with
        | nil => simp
        | cons d more => simp [(stop d more rfl).1]
      rw [whole, List.cons_prefix_cons, List.prefix_append_right_inj] at starts
      obtain ⟨more, same⟩ := starts.2
      exact absurd rfl (stop '$' more same.symm).2

/-- Whether a character and the one behind it open a comment or double a quote together. -/
def meets (c d : Char) : Bool :=
  (c == '-' && d == '-') || (c == '/' && d == '*') || (isQuoteMark c && d == c)

/-- Nothing joins with a text if the two characters at the seam do not meet and if the text completes no
dollar tag. -/
theorem Lexis.joins_eq_false {mode : Mode} {front seen after : List Char}
    (apart : ∀ c ∈ front.getLast?, ∀ d ∈ after.head?, meets c d = false)
    (tagless : lexis.dollarQuotes = true → ∀ before name, front = before ++ '$' :: name →
      lexis.modeThrough mode before ('$' :: (name ++ seen)) = .plain →
      name.all isNameChar = true → dollarTag? ('$' :: (name ++ after)) = none) :
    lexis.joins mode front seen after = false := by
  induction front generalizing mode with
  | nil => rfl
  | cons c rest ih =>
      have apart_later : ∀ d ∈ rest.getLast?, ∀ e ∈ after.head?, meets d e = false := by
        intro d last
        cases rest with
        | nil => cases last
        | cons e more => exact apart d (by rwa [List.getLast?_cons_cons])
      have later := @ih (lexis.step mode c (rest ++ seen)).2 apart_later
        fun quotes before name same outside =>
          tagless quotes (c :: before) name (by simp [same]) (by
            rw [same] at outside
            simpa [modeThrough] using outside)
      simp only [joins, later, Bool.or_false]
      have near : (rest.isEmpty && ((c == '-' && after.head? == some '-') ||
          (c == '/' && after.head? == some '*') || (isQuoteMark c && after.head? == some c))) =
            false := by
        cases rest with
        | cons e more => rfl
        | nil =>
            cases after with
            | nil => simp
            | cons d more =>
                have here := apart c (by simp) d (by simp)
                simpa [meets] using here
      have far : (lexis.dollarQuotes && mode == .plain && c == '$' && rest.all isNameChar &&
          (dollarTag? (c :: (rest ++ after))).isSome) = false := by
        by_cases dollar : c = '$'
        · subst dollar
          by_cases outside : mode = .plain
          · subst outside
            cases quotes : lexis.dollarQuotes with
            | false => simp
            | true =>
                cases all : rest.all isNameChar with
                | false => simp
                | true => simp [tagless quotes [] rest rfl rfl all]
          · simp [outside]
        · simp [dollar]
      simp only [joinsAt, near, far, Bool.or_false]

/-- A calm character other than a star meets no character before it. -/
theorem meets_eq_false_of_calm (c : Char) {d : Char} (calm : isCalm d = true) (star : d ≠ '*') :
    meets c d = false := by
  simp only [isCalm, isDelimiter, Bool.not_eq_true', Bool.or_eq_false_iff, beq_eq_false_iff_ne] at calm
  have other : isQuoteMark c = true → d ≠ c := by
    rintro mark rfl
    simp [mark] at calm
  cases mark : isQuoteMark c with
  | false => simp [meets, calm.1.1.1, star, mark]
  | true => simp [meets, calm.1.1.1, star, other mark]

/-- Nothing joins with the end of a text. -/
theorem Lexis.joins_nil (lexis : Lexis) (mode : Mode) (front seen : List Char) :
    lexis.joins mode front seen [] = false :=
  joins_eq_false (by simp) fun _ _ _ _ _ all =>
    dollarTag?_eq_none_of_stop all (by simp)

/-! ### Splicing at closed places

Where the machine stands outside of all tokens, what is behind is read as if it stood alone. What is before
is read with the rest in view, and so it may be cut off only if it does not join what comes in its place. -/

/-- A part behind which the machine stands outside of all tokens is closed, also by itself. -/
theorem Lexis.closed_of_seam {front after : List Char}
    (outside : lexis.modeThrough .plain front after = .plain) : lexis.Closed front := by
  have alone := (through_congr (Mode.sound_plain _) outside (lexis.joins_nil _ front _)).2
  rwa [modeThrough_nil] at alone

/-- A closed part is read as if nothing followed it, unless it joins what follows. -/
theorem Lexis.hideFrom_append_of_closed {front after : List Char} (closed : lexis.Closed front)
    (apart : lexis.joins .plain front [] after = false) (hidden : Mark → Bool) :
    lexis.hideFrom hidden .plain (front ++ after) =
      lexis.hideFrom hidden .plain front ++ lexis.hideFrom hidden .plain after := by
  have outside : lexis.modeThrough .plain front [] = .plain := by rwa [modeThrough_nil]
  obtain ⟨marks, mode⟩ := through_congr (Mode.sound_plain _) outside apart
  simp only [hideFrom_eq_hide, marksFrom_append, marks, mode, marksThrough_nil]
  exact hide_append (length_marksFrom _ _)

/-- A text is read in two parts where the machine stands outside of all tokens. -/
theorem Lexis.cells_append_of_seam {front after : List Char}
    (outside : lexis.modeThrough .plain front after = .plain) :
    lexis.cells (front ++ after) = lexis.cells front ++ lexis.cells after := by
  have same := (through_congr (Mode.sound_plain _) outside (lexis.joins_nil _ front _)).1
  rw [cells, marks, marksFrom_append, outside, ← same, marksThrough_nil,
    List.zipWith_append (length_marksFrom _ _)]
  rfl

theorem Lexis.hideFrom_append_of_seam {front after : List Char}
    (outside : lexis.modeThrough .plain front after = .plain) (hidden : Mark → Bool) :
    lexis.hideFrom hidden .plain (front ++ after) =
      lexis.hideFrom hidden .plain front ++ lexis.hideFrom hidden .plain after := by
  simp only [hideFrom_eq_map, cells_append_of_seam outside, List.map_append]

/-- The cells on the two sides of such a place are those of the parts. -/
theorem Lexis.cells_take_drop_of_seam {text : List Char} {n : Nat}
    (outside : lexis.modeThrough .plain (text.take n) (text.drop n) = .plain) :
    (lexis.cells text).take n = lexis.cells (text.take n) ∧
      (lexis.cells text).drop n = lexis.cells (text.drop n) := by
  have whole := cells_append_of_seam outside
  rw [List.take_append_drop] at whole
  rcases Nat.le_total n text.length with inside | beyond
  · rw [whole]
    have size : (lexis.cells (text.take n)).length = n := by simp [inside]
    exact ⟨List.take_left' size, List.drop_left' size⟩
  · have none : text.drop n = [] := List.drop_eq_nil_of_le beyond
    rw [none, List.take_of_length_le beyond, List.take_of_length_le (by simpa using beyond),
      List.drop_eq_nil_of_le (by simpa using beyond)]
    exact ⟨rfl, rfl⟩

end QueryDesk.Sql
