/-
Module: QueryDesk.Proofs.Sql.Departure
Purpose: Where the rules of a dialect depart from the rules that all dialects share. Some dialects begin
  comments with a number sign, names with a bracket or strings with a dollar tag, and in some a
  backslash keeps the mark behind it from closing its quotes. A text in which none of this happens is
  marked alike by both: the two machines stay in step (`InStep`), one of them at most a character
  behind an escape.
Imports: QueryDesk.Proofs.Sql.Lexing
Main exports: Lexis.departsAt, Lexis.departs, Lexis.InStep, Lexis.marks_eq_of_not_departs,
  Lexis.mask_eq_of_not_departs
-/
import QueryDesk.Proofs.Sql.Lexing

namespace QueryDesk.Sql

variable {lexis : Lexis}

/-- Whether a rule that not all dialects share decides what a character does. -/
def Lexis.departsAt (lexis : Lexis) (mode : Mode) (c : Char) (rest : List Char) : Bool :=
  match mode with
  | .plain =>
    (lexis.hashComments && c == '#') || (lexis.bracketIdentifiers && c == '[') ||
      (lexis.dollarQuotes && (dollarTag? (c :: rest)).isSome)
  | .quoted closing => lexis.backslashEscapes && c == '\\' && rest.head? == some closing
  | _ => false

/-- Whether such a rule decides anything in a text that is read from a mode. -/
def Lexis.departsFrom (lexis : Lexis) (mode : Mode) : List Char → Bool
  | [] => false
  | c :: rest =>
    lexis.departsAt mode c rest || lexis.departsFrom (lexis.step mode c rest).2 rest

/-- Whether such a rule decides anything in a text. -/
def Lexis.departs (lexis : Lexis) (text : List Char) : Bool :=
  lexis.departsFrom .plain text

/-- A machine and the one with the shared rules, before the same text: they stand alike, or the first
one has just read a backslash and the next character is no mark that could close the quotes. -/
inductive Lexis.InStep : Mode → Mode → List Char → Prop where
  | same (mode : Mode) (text : List Char) : InStep mode mode text
  | behind (closing : Char) (text : List Char) (apart : text.head? ≠ some closing) :
    InStep (.escaped closing) (.quoted closing) text

/-- Outside of all tokens only the rules that are not shared make a difference. -/
theorem Lexis.stepPlain_eq_of_not_departs {c : Char} {rest : List Char}
    (shared : lexis.departsAt .plain c rest = false) :
    lexis.stepPlain c rest = ({} : Lexis).stepPlain c rest := by
  simp only [departsAt, Bool.or_eq_false_iff] at shared
  obtain ⟨⟨hash, bracket⟩, dollar⟩ := shared
  have untagged : (if lexis.dollarQuotes then dollarTag? (c :: rest) else none) = none := by
    cases quotes : lexis.dollarQuotes <;> simp_all
  have closing : lexis.closing? c = ({} : Lexis).closing? c := by
    simp [closing?, bracket]
  simp [stepPlain, hash, untagged, closing]

/-- Two machines in step mark a character alike and stay in step, unless a rule that is not shared
decides what it does. -/
theorem Lexis.InStep.step {mode shared : Mode} {c : Char} {rest : List Char}
    (inStep : InStep mode shared (c :: rest)) (sound : mode.Sound (c :: rest))
    (alike : lexis.departsAt mode c rest = false) :
    (lexis.step mode c rest).1 = (({} : Lexis).step shared c rest).1 ∧
      InStep (lexis.step mode c rest).2 (({} : Lexis).step shared c rest).2 rest := by
  cases inStep with
  | same =>
      cases mode with
      | plain =>
          rw [Lexis.step, Lexis.step, stepPlain_eq_of_not_departs alike]
          exact ⟨rfl, .same _ rest⟩
      | quoted closing =>
          have slash : closing ≠ '\\' := by
            rintro rfl
            rcases sound with mark | bracket
            · cases mark
            · cases bracket
          -- A backslash puts the first machine one character behind; the second reads on.
          by_cases escape : (lexis.backslashEscapes && closing != ']' && c == '\\') = true
          · simp only [Bool.and_eq_true, bne_iff_ne, beq_iff_eq] at escape
            obtain ⟨⟨escapes, bracket⟩, rfl⟩ := escape
            have apart : rest.head? ≠ some closing := by
              simpa [departsAt, escapes] using alike
            have here : lexis.stepQuoted closing '\\' rest = (.quote, .escaped closing) := by
              simp [stepQuoted, escapes, bracket]
            have there : ({} : Lexis).stepQuoted closing '\\' rest = (.quote, .quoted closing) := by
              simp [stepQuoted, slash.symm]
            rw [Lexis.step, Lexis.step, here, there]
            exact ⟨rfl, .behind closing rest apart⟩
          · have here : lexis.stepQuoted closing c rest = ({} : Lexis).stepQuoted closing c rest := by
              simp only [stepQuoted, escape, Bool.false_and, Bool.false_eq_true, if_false]
            rw [Lexis.step, Lexis.step, here]
            exact ⟨rfl, .same _ rest⟩
      | tagOpening left tag => cases left <;> exact ⟨rfl, .same _ rest⟩
      | tagClosing left => cases left <;> exact ⟨rfl, .same _ rest⟩
      | lineComment | blockOpening | blockComment | blockClosing | escaped | tagged =>
          exact ⟨rfl, .same _ rest⟩
  | behind closing _ apart =>
      have other : c ≠ closing := by simpa using apart
      have there : ({} : Lexis).stepQuoted closing c rest = (.quote, .quoted closing) := by
        simp [stepQuoted, other]
      rw [Lexis.step, Lexis.step, there]
      exact ⟨rfl, .same _ rest⟩

/-- Two machines in step mark a text alike in which no rule decides anything that is not shared. -/
theorem Lexis.InStep.marksFrom_eq {mode shared : Mode} {text : List Char}
    (inStep : InStep mode shared text) (sound : mode.Sound text)
    (alike : lexis.departsFrom mode text = false) :
    lexis.marksFrom mode text = ({} : Lexis).marksFrom shared text := by
  induction text generalizing mode shared with
  | nil => rfl
  | cons c rest ih =>
      rw [departsFrom, Bool.or_eq_false_iff] at alike
      obtain ⟨same, onward⟩ := inStep.step sound alike.1
      rw [marksFrom, marksFrom, same, ih onward (step_sound sound) alike.2]

/-- A text in which only the shared rules decide anything has the marks of the shared rules. -/
theorem Lexis.marks_eq_of_not_departs {text : List Char} (alike : lexis.departs text = false) :
    lexis.marks text = ({} : Lexis).marks text :=
  (InStep.same .plain text).marksFrom_eq (Mode.sound_plain text) alike

/-- Such a text has the mask of the shared rules. -/
theorem Lexis.mask_eq_of_not_departs {text : List Char} (alike : lexis.departs text = false) :
    lexis.mask text = ({} : Lexis).mask text := by
  have same : lexis.marksFrom .plain text = ({} : Lexis).marksFrom .plain text :=
    marks_eq_of_not_departs alike
  rw [Lexis.mask, Lexis.mask, hideFrom_eq_hide, hideFrom_eq_hide, same]

end QueryDesk.Sql
