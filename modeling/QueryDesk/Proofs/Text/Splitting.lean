/-
Module: QueryDesk.Proofs.Text.Splitting
Purpose: Texts split at a separator. The pieces of two texts with the separator between them are those of
  the first and those of the second; together the pieces hold every character but the separators, and
  there is one piece more than there are separators.
Imports: QueryDesk.Text.CharClass
Main exports: splitAtChar_ne_nil, splitAtChar_append, splitAtChar_of_not_mem, flatten_splitAtChar,
  length_splitAtChar
-/
import QueryDesk.Text.CharClass

namespace QueryDesk

open QueryDesk.Text

variable {separator : Char}

theorem splitAtChar_ne_nil (separator : Char) (text : List Char) : splitAtChar separator text ≠ [] := by
  cases text with
  | nil => exact List.cons_ne_nil _ _
  | cons c rest =>
      rw [splitAtChar]
      split
      · exact List.cons_ne_nil _ _
      · split <;> exact List.cons_ne_nil _ _

theorem splitAtChar_cons_self (separator : Char) (rest : List Char) :
    splitAtChar separator (separator :: rest) = [] :: splitAtChar separator rest := by
  rw [splitAtChar, if_pos (beq_self_eq_true separator)]

/-- Another character belongs to the first piece of the rest. -/
theorem splitAtChar_cons_of_ne {c : Char} (other : c ≠ separator) (rest : List Char) :
    ∃ piece pieces, splitAtChar separator rest = piece :: pieces ∧
      splitAtChar separator (c :: rest) = (c :: piece) :: pieces := by
  obtain ⟨piece, pieces, split⟩ := List.exists_cons_of_ne_nil (splitAtChar_ne_nil separator rest)
  refine ⟨piece, pieces, split, ?_⟩
  rw [splitAtChar, if_neg (by simpa using other), split]

/-- Two texts with the separator between them have the pieces of the first and those of the second. -/
theorem splitAtChar_append (front back : List Char) :
    splitAtChar separator (front ++ separator :: back) =
      splitAtChar separator front ++ splitAtChar separator back := by
  induction front with
  | nil => exact splitAtChar_cons_self separator back
  | cons c rest ih =>
      by_cases same : c = separator
      · subst same
        rw [List.cons_append, splitAtChar_cons_self, splitAtChar_cons_self, ih]
        rfl
      · obtain ⟨piece, pieces, split, onward⟩ := splitAtChar_cons_of_ne same rest
        obtain ⟨piece', pieces', split', onward'⟩ :=
          splitAtChar_cons_of_ne same (rest ++ separator :: back)
        rw [ih, split, List.cons_append] at split'
        obtain ⟨rfl, rfl⟩ := List.cons.inj split'
        rw [List.cons_append, onward', onward]
        rfl

theorem splitAtChar_of_not_mem {text : List Char} (absent : separator ∉ text) :
    splitAtChar separator text = [text] := by
  induction text with
  | nil => rfl
  | cons c rest ih =>
      rw [List.mem_cons, not_or] at absent
      obtain ⟨piece, pieces, split, onward⟩ := splitAtChar_cons_of_ne (Ne.symm absent.1) rest
      rw [ih absent.2] at split
      obtain ⟨rfl, rfl⟩ := List.cons.inj split
      exact onward

/-- The pieces hold every character but the separators. -/
theorem flatten_splitAtChar (text : List Char) :
    (splitAtChar separator text).flatten = text.filter (· != separator) := by
  induction text with
  | nil => rfl
  | cons c rest ih =>
      by_cases same : c = separator
      · subst same
        rw [splitAtChar_cons_self, List.filter_cons_of_neg (by simp), ← ih]
        rfl
      · obtain ⟨piece, pieces, split, onward⟩ := splitAtChar_cons_of_ne same rest
        rw [onward, List.filter_cons_of_pos (by simpa using same), ← ih, split]
        rfl

/-- A text has one piece more than it has separators. -/
theorem length_splitAtChar (separator : Char) (text : List Char) :
    (splitAtChar separator text).length = text.count separator + 1 := by
  induction text with
  | nil => rfl
  | cons c rest ih =>
      by_cases same : c = separator
      · subst same
        rw [splitAtChar_cons_self, List.length_cons, ih, List.count_cons_self]
      · obtain ⟨piece, pieces, split, onward⟩ := splitAtChar_cons_of_ne same rest
        rw [onward, List.count_cons_of_ne same, ← ih, split]
        rfl

end QueryDesk
