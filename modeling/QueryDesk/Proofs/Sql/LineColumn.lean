/-
Module: QueryDesk.Proofs.Sql.LineColumn
Purpose: Lines and columns, and the offsets that they stand for. A line begins behind the newlines of the lines
  before it, so that an offset lies in one line, in one column of it, and these two stand for the offset.
  A column beyond the end of its line goes on into the lines after it, up to the end of the text.
Imports: QueryDesk.Sql.Surface, QueryDesk.Proofs.Text.Splitting
Main exports: lineAt, columnAt, splitAtChar_eq_splitOn, exists_line, lineStart_count, offsetOf?_eq_some_iff,
  offsetOf?_places
-/
import Mathlib.Data.List.DropRight
import QueryDesk.Sql.Surface
import QueryDesk.Proofs.Text.Splitting

namespace QueryDesk.Sql

open QueryDesk.Text

/-- The line of an offset: one more than the newlines before it. -/
def lineAt (text : List Char) (offset : Nat) : Nat :=
  (text.take offset).count '\n' + 1

/-- The column of an offset: one more than the characters between it and the last newline before it, or
the start of the text. -/
def columnAt (text : List Char) (offset : Nat) : Nat :=
  ((text.take offset).rtakeWhile (· != '\n')).length + 1

theorem splitAtChar_eq_splitOn (separator : Char) (text : List Char) :
    splitAtChar separator text = text.splitOn separator := by
  induction text with
  | nil => rfl
  | cons c rest ih =>
      rw [List.splitOn_eq_splitOnP] at ih ⊢
      rw [List.splitOnP_cons_eq_if_modifyHead, ← ih]
      by_cases same : c = separator
      · subst same
        rw [splitAtChar_cons_self, if_pos (beq_self_eq_true c)]
      · obtain ⟨piece, pieces, split, onward⟩ := splitAtChar_cons_of_ne same rest
        rw [onward, split, if_neg (by simpa using same)]
        rfl

@[simp]
theorem lineStart_zero (lines : List (List Char)) : lineStart lines 0 = 0 := rfl

@[simp]
theorem lineStart_cons_succ (line : List Char) (lines : List (List Char)) (before : Nat) :
    lineStart (line :: lines) (before + 1) = line.length + 1 + lineStart lines before := rfl

/-- The lines of a text end with their newlines where the next line begins. -/
theorem lineStart_append_length (lines more : List (List Char)) :
    lineStart (lines ++ more) lines.length = lines.flatten.length + lines.length := by
  induction lines with
  | nil => rfl
  | cons line lines ih =>
      rw [List.cons_append, List.length_cons, lineStart_cons_succ, ih, List.flatten_cons,
        List.length_append]
      omega

/-- A line stands where the lines before it end, and has no newline itself. -/
theorem exists_line {text line : List Char} {before : Nat}
    (here : (splitAtChar '\n' text)[before]? = some line) :
    ∃ front back, text = front ++ line ++ back ∧
      front.length = lineStart (splitAtChar '\n' text) before ∧ front.count '\n' = before ∧
      '\n' ∉ line := by
  induction text generalizing before line with
  | nil =>
      cases before with
      | zero =>
          obtain rfl := Option.some.inj here
          exact ⟨[], [], rfl, rfl, rfl, List.not_mem_nil⟩
      | succ before => cases here
  | cons c rest ih =>
      by_cases same : c = '\n'
      · subst same
        rw [splitAtChar_cons_self] at here ⊢
        cases before with
        | zero =>
            obtain rfl := Option.some.inj here
            exact ⟨[], '\n' :: rest, rfl, rfl, rfl, List.not_mem_nil⟩
        | succ before =>
            obtain ⟨front, back, whole, start, count, clean⟩ := ih here
            refine ⟨'\n' :: front, back, by rw [whole]; rfl, ?_, ?_, clean⟩
            · rw [List.length_cons, start, lineStart_cons_succ]
              exact Nat.add_comm _ _
            · rw [List.count_cons_self, count]
      · obtain ⟨piece, pieces, split, onward⟩ := splitAtChar_cons_of_ne same rest
        rw [split] at ih
        rw [onward] at here ⊢
        cases before with
        | zero =>
            obtain rfl := Option.some.inj here
            obtain ⟨front, back, whole, start, -, clean⟩ := @ih piece 0 rfl
            obtain rfl := List.eq_nil_of_length_eq_zero start
            refine ⟨[], back, by rw [whole]; rfl, rfl, rfl, ?_⟩
            exact fun member => (List.mem_cons.1 member).elim (fun first => same first.symm) clean
        | succ before =>
            obtain ⟨front, back, whole, start, count, clean⟩ := @ih line (before + 1) here
            refine ⟨c :: front, back, by rw [whole]; rfl, ?_, ?_, clean⟩
            · rw [List.length_cons, start, lineStart_cons_succ, lineStart_cons_succ, List.length_cons]
              omega
            · rw [List.count_cons_of_ne same, count]

/-- A line that is there lies within the text. -/
theorem lineStart_add_length_le {text line : List Char} {before : Nat}
    (here : (splitAtChar '\n' text)[before]? = some line) :
    lineStart (splitAtChar '\n' text) before + line.length ≤ text.length := by
  obtain ⟨front, back, whole, start, -⟩ := exists_line here
  have size := congrArg List.length whole
  rw [List.length_append, List.length_append, start] at size
  omega

/-- A line begins after the newline of the line before it. -/
theorem lineStart_succ {lines : List (List Char)} {line : List Char} {before : Nat}
    (here : lines[before]? = some line) :
    lineStart lines (before + 1) = lineStart lines before + line.length + 1 := by
  induction lines generalizing before with
  | nil => cases here
  | cons first lines ih =>
      cases before with
      | zero =>
          obtain rfl := Option.some.inj here
          rw [lineStart_cons_succ, lineStart_zero, lineStart_zero]
          omega
      | succ before =>
          rw [lineStart_cons_succ, ih here, lineStart_cons_succ]
          omega

/-- Behind so many newlines the line begins that was begun last. -/
theorem lineStart_count (before after : List Char) :
    lineStart (splitAtChar '\n' (before ++ after)) (before.count '\n') +
      (before.rtakeWhile (· != '\n')).length = before.length := by
  have whole := @List.rdropWhile_append_rtakeWhile Char (· != '\n') before
  have clean : '\n' ∉ before.rtakeWhile (· != '\n') := fun member => by
    simpa using List.mem_rtakeWhile_imp member
  generalize before.rtakeWhile (· != '\n') = tail at *
  rcases List.eq_nil_or_concat (before.rdropWhile (· != '\n')) with none | ⟨front, last, some_line⟩
  · rw [none, List.nil_append] at whole
    subst whole
    rw [List.count_eq_zero.2 clean, lineStart_zero, Nat.zero_add]
  · have ends : last = '\n' := by
      have := List.rdropWhile_last_not (· != '\n') before (by rw [some_line]; simp)
      simpa [some_line] using this
    subst ends
    rw [some_line, List.concat_eq_append, List.append_assoc, List.singleton_append] at whole
    subst whole
    have count : (front ++ '\n' :: tail).count '\n' = (splitAtChar '\n' front).length := by
      rw [List.count_append, List.count_cons_self, List.count_eq_zero.2 clean, length_splitAtChar]
    rw [count, List.append_assoc, List.cons_append, splitAtChar_append, lineStart_append_length,
      flatten_splitAtChar, length_splitAtChar, List.length_append, List.length_cons]
    have others : (front.filter (· != '\n')).length + front.count '\n' = front.length := by
      rw [← List.countP_eq_length_filter, List.count, List.length_eq_countP_add_countP (· != '\n')]
      congr 1
      exact List.countP_congr fun c _ => by simp
    omega

/-! ### Offsets of places

The beginnings of the lines rise, and an offset lies behind the last of them that is not beyond it. So lines
and columns can be told from the number and the place of the newlines before an offset. -/

/-- A place has an offset when the line is there: so many characters behind its beginning, but not beyond
the end of the text. -/
theorem offsetOf?_eq_some_iff {text : List Char} {line column : Int} {offset : Nat} :
    offsetOf? text line column = some offset ↔ ∃ before ahead : Nat,
      line = before + 1 ∧ column = ahead + 1 ∧ before < (splitAtChar '\n' text).length ∧
      offset = min (lineStart (splitAtChar '\n' text) before + ahead) text.length := by
  rw [offsetOf?]
  split
  next outside =>
    simp only [Bool.or_eq_true, decide_eq_true_eq] at outside
    refine iff_of_false nofun ?_
    rintro ⟨before, ahead, rfl, rfl, inside, -⟩
    omega
  next inside =>
    simp only [Bool.or_eq_true, decide_eq_true_eq] at inside
    constructor
    · intro found
      refine ⟨(line - 1).toNat, (column - 1).toNat, by omega, by omega, by omega, ?_⟩
      exact (Option.some.inj found).symm
    · rintro ⟨before, ahead, rfl, rfl, -, rfl⟩
      rw [Int.add_sub_cancel, Int.add_sub_cancel, Int.toNat_natCast, Int.toNat_natCast]

theorem offsetOf?_eq_none_iff {text : List Char} {line column : Int} :
    offsetOf? text line column = none ↔
      line < 1 ∨ column < 1 ∨ (splitAtChar '\n' text).length < line := by
  rw [offsetOf?]
  split
  next outside => simpa [or_assoc] using outside
  next inside => simpa [or_assoc] using inside

/-- The line and the column of an offset stand for it. -/
theorem offsetOf?_lineAt_columnAt {text : List Char} {offset : Nat} (inside : offset ≤ text.length) :
    offsetOf? text (lineAt text offset) (columnAt text offset) = some offset := by
  have start := lineStart_count (text.take offset) (text.drop offset)
  rw [List.take_append_drop, List.length_take_of_le inside] at start
  refine offsetOf?_eq_some_iff.2 ⟨_, _, rfl, rfl, ?_, ?_⟩
  · have := (List.take_sublist offset text).count_le '\n'
    rw [length_splitAtChar]
    omega
  · rw [start]
    omega

/-- Places and offsets. The line and the column of an offset stand for it. A place has no offset exactly when
there is no such line or the column is not positive. Otherwise its offset is in the text or at its end; it
does not go back when the column grows, and each line begins behind the one before it; and in a column
that is not beyond its line's newline it has the newlines of the lines before it, and no others, before
it. -/
theorem offsetOf?_places (text : List Char) :
    (∀ offset ≤ text.length,
      offsetOf? text (lineAt text offset) (columnAt text offset) = some offset) ∧
    (∀ line column : Int, offsetOf? text line column = none ↔
      line < 1 ∨ column < 1 ∨ (text.splitOn '\n').length < line) ∧
    ∀ (line column : Int) (offset : Nat), offsetOf? text line column = some offset →
      offset ≤ text.length ∧
      (∀ further ≥ column, ∃ later ≥ offset, offsetOf? text line further = some later) ∧
      (∀ next, column = 1 → offsetOf? text (line + 1) 1 = some next → offset < next) ∧
      (∀ found, (text.splitOn '\n')[(line - 1).toNat]? = some found → column ≤ found.length + 1 →
        ((text.take offset).count '\n' : Int) = line - 1) := by
  refine ⟨fun offset => offsetOf?_lineAt_columnAt, fun line column => ?_, ?_⟩
  · rw [offsetOf?_eq_none_iff, splitAtChar_eq_splitOn]
  intro line column offset here
  obtain ⟨before, ahead, rfl, rfl, inside, rfl⟩ := offsetOf?_eq_some_iff.1 here
  obtain ⟨piece, piece_at⟩ : ∃ piece, (splitAtChar '\n' text)[before]? = some piece :=
    ⟨_, List.getElem?_eq_getElem inside⟩
  have within := lineStart_add_length_le piece_at
  refine ⟨Nat.min_le_right _ _, fun further more => ?_, fun next first onward => ?_, ?_⟩
  · refine ⟨_, ?_, offsetOf?_eq_some_iff.2
      ⟨before, (further - 1).toNat, rfl, by omega, inside, rfl⟩⟩
    omega
  · obtain ⟨before', ahead', same, same', inside', rfl⟩ := offsetOf?_eq_some_iff.1 onward
    obtain rfl : before' = before + 1 := by omega
    obtain ⟨rfl, rfl⟩ : ahead = 0 ∧ ahead' = 0 := by omega
    have start := lineStart_succ piece_at
    have within' := lineStart_add_length_le (List.getElem?_eq_getElem inside')
    omega
  · intro found found_at short
    rw [← splitAtChar_eq_splitOn, Int.add_sub_cancel, Int.toNat_natCast, piece_at] at found_at
    obtain rfl := Option.some.inj found_at
    obtain ⟨front, back, whole, start, count, clean⟩ := exists_line piece_at
    have ahead_le : ahead ≤ piece.length := by omega
    have offset_eq : min (lineStart (splitAtChar '\n' text) before + ahead) text.length =
        front.length + ahead := by omega
    have clean' : '\n' ∉ piece.take ahead := fun member => clean (List.mem_of_mem_take member)
    rw [offset_eq, whole, List.append_assoc, List.take_length_add_append, List.count_append, count,
      List.take_append_of_le_length ahead_le, List.count_eq_zero.2 clean']
    omega

/-- A text whose second line is empty. -/
def spacedLines : List Char := ['a', '\n', '\n', 'b', 'c']

/-- The b stands in the third line. The second line begins with its own newline, and a column behind that
goes on into the third one. -/
theorem offsetOf?_places_of_empty_line :
    3 ≤ spacedLines.length ∧ lineAt spacedLines 3 = 3 ∧ columnAt spacedLines 3 = 1 ∧
      offsetOf? spacedLines 3 1 = some 3 ∧
      offsetOf? spacedLines 2 1 = some 2 ∧
      (∃ later ≥ 2, offsetOf? spacedLines 2 2 = some later) ∧
      ((spacedLines.take 2).count '\n' : Int) = 2 - 1 := by
  obtain ⟨inverse, -, places⟩ := offsetOf?_places spacedLines
  have second : offsetOf? spacedLines 2 1 = some 2 := by decide
  obtain ⟨-, grows, -, newlines⟩ := places 2 1 2 second
  exact ⟨by decide, by decide, by decide, inverse 3 (by decide), second, grows 2 (by decide),
    newlines [] (by decide) (by decide)⟩

end QueryDesk.Sql
