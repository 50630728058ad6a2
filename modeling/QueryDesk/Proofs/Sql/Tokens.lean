/-
Module: QueryDesk.Proofs.Sql.Tokens
Purpose: The tokens of a text: words, quoted tokens, comments, and all other characters one by one. A token
  is a maximal run of characters that belong together, so that the tokens of a text in two parts are
  those of the parts wherever no word goes on from the one part to the other.
Imports: QueryDesk.Proofs.Sql.Reading, QueryDesk.Proofs.Sql.Cut, Mathlib.Data.List.SplitBy
Main exports: Cell.shown, Cell.joins, tokensOf, Lexis.tokens, Outside, Lexis.isChain_cells, MeetInWord,
  tokensOf_append, tokensOf_word
-/
import QueryDesk.Proofs.Sql.Reading
import QueryDesk.Proofs.Sql.Cut
import Mathlib.Data.List.SplitBy

namespace QueryDesk.Sql

open QueryDesk.Text

variable {lexis : Lexis}

/-- The character that the mask of a text shows. -/
def Cell.shown (cell : Cell) : Char :=
  if !cell.mark.isPlain then blank cell.char else cell.char

@[simp]
theorem map_shown_plainCells (text : List Char) : (plainCells text).map Cell.shown = text :=
  @map_hiddenBy_plainCells (fun mark => !mark.isPlain) rfl text

theorem Lexis.map_shown_cells (lexis : Lexis) (text : List Char) :
    (lexis.cells text).map Cell.shown = lexis.mask text :=
  (hideFrom_eq_map (fun mark => !mark.isPlain) text).symm

/-- A character that the mask shows and that is no blank is plain. -/
theorem Cell.eq_of_shown {cell : Cell} (solid : isBlank cell.shown = false) :
    cell = ⟨.plain, cell.shown⟩ := by
  obtain ⟨mark, c⟩ := cell
  cases mark with
  | plain => rfl
  | quoteStart | quote | commentStart | comment =>
      have hidden : isBlank (blank c) = false := solid
      rw [isBlank_blank] at hidden
      cases hidden

/-- Cells of which the mask shows a text without blanks are that text. -/
theorem eq_plainCells {cells : List Cell} (solid : ∀ c ∈ cells.map Cell.shown, isBlank c = false) :
    cells = plainCells (cells.map Cell.shown) := by
  induction cells with
  | nil => rfl
  | cons cell rest ih =>
      have here := Cell.eq_of_shown (solid cell.shown (by simp))
      have later := ih fun c member => solid c (by simp [member])
      rw [List.map_cons, plainCells, List.map_cons, ← here]
      exact congrArg _ later

/-- Whether a character goes on with the quoted token or the comment before it. -/
def Mark.continues : Mark → Bool
  | .quote => true
  | .comment => true
  | _ => false

/-- Behind a plain character no token goes on. -/
def Outside (left right : Cell) : Prop :=
  left.mark = .plain → right.mark.continues = false

theorem Lexis.stepPlain_continues (lexis : Lexis) (c : Char) (rest : List Char) :
    (lexis.stepPlain c rest).1.continues = false := by
  rw [stepPlain]
  split
  · rfl
  · split
    · rfl
    · split
      · rfl
      · split <;> rfl

/-- After a plain character the machine stands outside of all tokens. -/
theorem Lexis.step_of_plain {mode : Mode} {c : Char} {rest : List Char}
    (plain : (lexis.step mode c rest).1 = .plain) : (lexis.step mode c rest).2 = .plain := by
  cases mode with
  | plain =>
      revert plain
      rw [step, stepPlain]
      -- Whatever opens a comment or a quotation is marked as such.
      split
      · intro marked
        cases marked
      · split
        · intro marked
          cases marked
        · split
          · intro marked
            cases marked
          · split
            · intro marked
              cases marked
            · exact fun _ => rfl
  | lineComment =>
      rw [step] at plain ⊢
      split_ifs at plain ⊢
      rfl
  | blockOpening | blockClosing | escaped => cases plain
  | blockComment | tagged =>
      rw [step] at plain
      split_ifs at plain
  | quoted closing =>
      rw [step, stepQuoted] at plain
      split_ifs at plain
  | tagOpening left | tagClosing left =>
      cases left <;> cases plain

theorem Lexis.isChain_cells (lexis : Lexis) (text : List Char) : (lexis.cells text).IsChain Outside := by
  have general : ∀ mode : Mode,
      (List.zipWith Cell.mk (lexis.marksFrom mode text) text).IsChain Outside ∧
        (mode = .plain → ∀ cell ∈ (List.zipWith Cell.mk (lexis.marksFrom mode text) text).head?,
          cell.mark.continues = false) := by
    induction text with
    | nil => exact fun _ => ⟨.nil, fun _ => nofun⟩
    | cons c rest ih =>
        intro mode
        obtain ⟨chain, first⟩ := ih (lexis.step mode c rest).2
        refine ⟨List.isChain_cons.2 ⟨fun next member plain => ?_, chain⟩, ?_⟩
        · exact first (step_of_plain plain) next member
        · rintro rfl cell ⟨⟩
          exact lexis.stepPlain_continues c rest
  exact (general .plain).1

/-! ### Tokens

Tokens are runs of cells, told by two cells next to each other. So the tokens of a text in two parts depend
on the cells at the seam only. -/

/-- A character of a word. -/
def Cell.isWord (cell : Cell) : Bool :=
  cell.mark.isPlain && Text.isWord cell.char

/-- Whether two characters next to each other belong to one token. -/
def Cell.joins (left right : Cell) : Bool :=
  right.mark.continues || (left.isWord && right.isWord)

/-- The maximal runs of characters that belong together: words, quoted tokens, comments, and all other
characters one by one. -/
def tokensOf (cells : List Cell) : List (List Cell) :=
  cells.splitBy Cell.joins

/-- The tokens of a text. -/
def Lexis.tokens (lexis : Lexis) (text : List Char) : List (List Cell) :=
  tokensOf (lexis.cells text)

theorem Cell.isWord_eq (cell : Cell) : cell.isWord = Text.isWord cell.shown := by
  obtain ⟨mark, c⟩ := cell
  cases mark with
  | plain => rfl
  | quoteStart | quote | commentStart | comment =>
      exact (isWord_eq_false_of_isBlank (isBlank_blank c)).symm

/-- A word goes on from one text to the next one. -/
def MeetInWord (left right : List Char) : Prop :=
  (∃ c ∈ left.getLast?, isWord c = true) ∧ ∃ d ∈ right.head?, isWord d = true

-- The instances are named, for the characters could be searched through as well.
instance (left right : List Char) : Decidable (MeetInWord left right) :=
  @instDecidableAnd _ _ (Option.decidableExistsMem left.getLast?) (Option.decidableExistsMem right.head?)

/-- The tokens of two parts, if neither a token nor a word goes on from the first part to the second. -/
theorem tokensOf_append {left right : List Cell} (starts : ∀ cell ∈ right.head?, cell.mark.continues = false)
    (apart : ¬ MeetInWord (left.map Cell.shown) (right.map Cell.shown)) :
    tokensOf (left ++ right) = tokensOf left ++ tokensOf right := by
  refine List.splitBy_append fun x last y first => ?_
  rw [Cell.joins, starts y first, Bool.false_or, Cell.isWord_eq, Cell.isWord_eq]
  by_contra words
  rw [Bool.not_eq_false, Bool.and_eq_true] at words
  refine apart ⟨⟨x.shown, ?_, words.1⟩, y.shown, ?_, words.2⟩
  · rw [List.getLast?_map, Option.mem_def, Option.mem_def.1 last]
    rfl
  · rw [List.head?_map, Option.mem_def, Option.mem_def.1 first]
    rfl

/-- A word is one token. -/
theorem tokensOf_word {word : List Char} (isRun : IsRun isWord word) :
    tokensOf (plainCells word) = [plainCells word] := by
  refine List.splitBy_of_isChain (by simpa [plainCells] using isRun.1) ?_
  obtain ⟨nonempty, all⟩ := isRun
  clear nonempty
  induction word with
  | nil => exact .nil
  | cons c rest ih =>
      refine List.isChain_cons.2 ⟨fun next member => ?_, ih fun d inside => all d (by simp [inside])⟩
      cases rest with
      | nil => cases member
      | cons d more =>
          cases member
          simp [Cell.joins, Cell.isWord, Mark.isPlain, all c, all d]

theorem starts_plainCells (text : List Char) :
    ∀ cell ∈ (plainCells text).head?, cell.mark.continues = false := by
  cases text with
  | nil => exact nofun
  | cons c rest =>
      rintro cell ⟨⟩
      rfl

/-- What begins with a character that the mask shows begins with a token. -/
theorem starts_of_solid {cells : List Cell} (solid : ∀ c ∈ (cells.map Cell.shown).head?, isBlank c = false) :
    ∀ cell ∈ cells.head?, cell.mark.continues = false := by
  cases cells with
  | nil => exact nofun
  | cons first rest =>
      rintro cell ⟨⟩
      rw [Cell.eq_of_shown (solid first.shown rfl)]
      rfl

/-- Behind a character that the mask shows a token begins. -/
theorem starts_behind_solid {left right : List Cell} (chain : (left ++ right).IsChain Outside)
    (solid : ∃ c ∈ (left.map Cell.shown).getLast?, isBlank c = false) :
    ∀ cell ∈ right.head?, cell.mark.continues = false := by
  intro cell first
  obtain ⟨c, member, solid⟩ := solid
  rw [List.getLast?_map, Option.mem_def, Option.map_eq_some_iff] at member
  obtain ⟨last, final, rfl⟩ := member
  have outside := (List.isChain_append.1 chain).2.2 last final cell first
  exact outside (by rw [Cell.eq_of_shown solid])

end QueryDesk.Sql
