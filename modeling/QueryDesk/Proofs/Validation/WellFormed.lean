/-
Module: QueryDesk.Proofs.Validation.WellFormed
Purpose: Reports on submitted texts are well formed, whatever the parser answers. A report has one error
  or none, and is valid when it has none; an error says something, in one line if it comes from the
  parser; an offset is given exactly for a place in the text; and only a text with statements has
  anything else in its report. A report is missing only where a number in the parser's words is too long
  to be read, or where read-only mode has to judge a command that cannot be written.
Imports: QueryDesk.Proofs.Text.CharClass, QueryDesk.Proofs.Text.Splitting,
  QueryDesk.Validation.Statements
Main exports: offsetOf?_isSome_iff, Refusal.message_speaks, Refusal.message_oneLine, Refusal.Unreadable,
  Unjudged, SqlError.Placed, ValidationReport.WellFormed, validate_wellFormed
-/
import QueryDesk.Proofs.Text.CharClass
import QueryDesk.Proofs.Text.Splitting
import QueryDesk.Validation.Statements

namespace QueryDesk

open QueryDesk.Text QueryDesk.Number QueryDesk.Grammar QueryDesk.Sql

/-- Whether a text has such a line, and the column is positive. -/
def IsPlace (text : List Char) (line column : Int) : Prop :=
  1 ≤ line ∧ line ≤ text.count '\n' + 1 ∧ 1 ≤ column

theorem offsetOf?_isSome_iff {text : List Char} {line column : Int} :
    (offsetOf? text line column).isSome = true ↔ IsPlace text line column := by
  rw [offsetOf?, length_splitAtChar, IsPlace]
  split
  next outside =>
    simp only [Bool.or_eq_true, decide_eq_true_eq] at outside
    refine iff_of_false (by simp) ?_
    omega
  next inside =>
    simp only [Bool.or_eq_true, decide_eq_true_eq] at inside
    refine iff_of_true rfl ?_
    omega

theorem offsetOf?_le {text : List Char} {line column : Int} {offset : Nat}
    (found : offsetOf? text line column = some offset) : offset ≤ text.length := by
  unfold offsetOf? at found
  dsimp only at found
  split at found
  · cases found
  · rw [← Option.some.inj found]
    exact Nat.min_le_right _ _

/-- An error whose offset is given exactly when its line and column are a place in the text. The offset
then lies in the text or at its end. -/
structure SqlError.Placed (text : List Char) (error : SqlError) : Prop where
  offset_iff : error.offset.isSome = true ↔
    ∃ line column, error.line = some line ∧ error.column = some column ∧ IsPlace text line column
  inside : ∀ offset ∈ error.offset, 0 ≤ offset ∧ offset ≤ text.length

theorem SqlError.placed_unplaced (text : List Char) (message : String) :
    SqlError.Placed text { message := message } where
  offset_iff := by simp
  inside := by simp

theorem SqlError.placed_offsetAt? (sql message : String) (line column : Option Int) :
    SqlError.Placed sql.toList
      { message := message, line := line, column := column
        offset := Validation.offsetAt? sql line column } where
  offset_iff := by
    cases line with
    | none => simp [Validation.offsetAt?]
    | some line =>
      cases column with
      | none => simp [Validation.offsetAt?]
      | some column => simp [Validation.offsetAt?, offsetOf?_isSome_iff]
  inside := by
    intro offset found
    cases line with
    | none => cases found
    | some line =>
      cases column with
      | none => cases found
      | some column =>
        obtain ⟨place, here, rfl⟩ := Option.map_eq_some_iff.1 (Option.mem_def.1 found)
        exact ⟨Int.natCast_nonneg place, Int.ofNat_le.2 (offsetOf?_le here)⟩

/-- Whether a text has a character that is not blank. -/
def Speaks (text : String) : Prop :=
  ∃ c ∈ text.toList, isBlank c = false

/-- Whether a text has no line breaks. -/
def IsOneLine (text : String) : Prop :=
  ∀ c ∈ text.toList, isLineBreak c = false

instance (text : String) : Decidable (IsOneLine text) :=
  List.decidableBAll (fun c => isLineBreak c = false) text.toList

theorem speaks_append {front : String} (speaks : Speaks front) (rest : String) :
    Speaks (front ++ rest) := by
  obtain ⟨c, member, seen⟩ := speaks
  exact ⟨c, by simp [member], seen⟩

theorem mem_of_mem_trim {text : List Char} {c : Char} (member : c ∈ trim text) : c ∈ text := by
  rw [trim, trimEnd_eq_rdropWhile, trimStart] at member
  exact (List.dropWhile_suffix isBlank).subset ((List.rdropWhile_prefix isBlank _).subset member)

/-- What is left of a text when its blanks are trimmed does not end in a blank. -/
theorem exists_of_trim_ne_nil {text : List Char} (some_left : trim text ≠ []) :
    ∃ c ∈ trim text, isBlank c = false := by
  rw [trim, trimEnd_eq_rdropWhile] at some_left ⊢
  exact ⟨_, List.getLast_mem some_left, by simpa using List.rdropWhile_last_not isBlank _ some_left⟩

/-- A text with no blank at either end is left as it is. -/
theorem trim_of_ends {text : List Char} (some_text : text ≠ [])
    (first : isBlank (text.head some_text) = false) (last : isBlank (text.getLast some_text) = false) :
    trim text = text := by
  have start : trimStart text = text := by
    cases text with
    | nil => rfl
    | cons c rest => exact List.dropWhile_cons_of_neg (by simpa using first)
  rw [trim, start, trimEnd_eq_rdropWhile, List.rdropWhile_eq_self_iff]
  exact fun _ => by simpa using last

namespace Grammar

theorem RefusalKind.name_speaks (kind : RefusalKind) : Speaks kind.name := by
  cases kind <;> exact ⟨_, List.mem_cons_self, by decide⟩

theorem RefusalKind.name_oneLine (kind : RefusalKind) : IsOneLine kind.name := by
  cases kind <;> decide

/-- A refusal always says something, if only its name. -/
theorem Refusal.message_speaks (refusal : Refusal) : Speaks refusal.message := by
  unfold message
  split
  next => exact refusal.kind.name_speaks
  next some_left =>
    obtain ⟨c, member, seen⟩ := exists_of_trim_ne_nil some_left
    exact ⟨c, by rwa [String.toList_ofList], seen⟩

/-- The words of a refusal are cut off at the first line break. -/
theorem Refusal.message_oneLine (refusal : Refusal) : IsOneLine refusal.message := by
  unfold message
  split
  next => exact refusal.kind.name_oneLine
  next =>
    intro c member
    rw [String.toList_ofList] at member
    have inside := List.mem_takeWhile_imp (mem_of_mem_trim member)
    simpa using inside

/-! ### Refusals

A refusal names a place by numbers of its own, or else in its words, where it is read behind the name of the
coordinate. The report on a refusal is missing if that number is too long, and in no other case. -/

/-- Whether a refusal has a number in its words, for something that it does not point at, that is too long
to be read. -/
def Refusal.Overlong (refusal : Refusal) (words : List String) (pointed : Option Int) : Prop :=
  ∃ numeral, refusal.numeral? words pointed = some numeral ∧ numeralLimit < numeral.length

/-- A refusal whose line or column is too long to be read. -/
def Refusal.Unreadable (refusal : Refusal) : Prop :=
  refusal.Overlong ["line"] refusal.line ∨ refusal.Overlong ["column", "col"] refusal.column

theorem Refusal.coordinate_cases (refusal : Refusal) (words : List String) (pointed : Option Int) :
    (refusal.Overlong words pointed ∧ ∃ failure, refusal.coordinate words pointed = .error failure) ∨
      (¬ refusal.Overlong words pointed ∧ ∃ place, refusal.coordinate words pointed = .ok place) := by
  unfold Overlong coordinate
  cases refusal.numeral? words pointed with
  | none => exact .inr ⟨by simp, pointed, rfl⟩
  | some numeral =>
    by_cases long : numeralLimit < numeral.length
    · have failed : ∃ failure, readNumeral numeral = .error failure := ⟨_, if_pos long⟩
      obtain ⟨failure, failed⟩ := failed
      exact .inl ⟨⟨numeral, rfl, long⟩, failure, by simp only [failed]; rfl⟩
    · have read : readNumeral numeral = .ok ((digitsValue? numeral).getD 0) := if_neg long
      refine .inr ⟨?_, _, by simp only [read]; rfl⟩
      rintro ⟨other, same, tooLong⟩
      cases same
      exact long tooLong

theorem dropColors_of_not_mem {text : List Char} (plain : '\x1b' ∉ text) : dropColors text = text := by
  unfold dropColors
  induction text with
  | nil => rfl
  | cons c rest ih =>
    rw [List.mem_cons, not_or] at plain
    have no_escape : colorEscape? (c :: rest) = none := by
      unfold colorEscape?
      split
      next same =>
        cases same
        exact absurd rfl plain.1
      next => rfl
    rw [dropColorsAfter, no_escape]
    exact congrArg _ (ih plain.2)

theorem numeralBehind_of_found {words : List String} {before : Option Char} {c : Char}
    {rest numeral : List Char} (starts : wordBegins before = true)
    (found : words.findSome? (labelledNumeral? (c :: rest)) = some numeral) :
    numeralBehind words before (c :: rest) = some numeral := by
  rw [numeralBehind, if_pos starts, found]

/-- The number in the words of a refusal that names nothing but a line. -/
theorem numeralBehind_line {digits : List Char} (all : ∀ c ∈ digits, isDigit c = true)
    (some_digits : digits ≠ []) : numeralBehind ["line"] none ("line ".toList ++ digits) = some digits := by
  have no_blank : blanks digits = digits := by
    cases digits with
    | nil => rfl
    | cons c rest =>
      have seen := isBlank_eq_false_of_isDigit (all c List.mem_cons_self)
      exact List.dropWhile_cons_of_neg (by simp [seen])
  have no_colon : char? ':' digits = none := by
    cases digits with
    | nil => rfl
    | cons c rest =>
      refine if_neg fun same => ?_
      rw [beq_iff_eq.1 same] at all
      exact absurd (all ':' List.mem_cons_self) (by decide)
  have labelled : labelledNumeral? ("line ".toList ++ digits) "line" = some digits := by
    have behind : keyword? "line".toList ("line ".toList ++ digits) = some (' ' :: digits) := rfl
    have past : blanks (' ' :: digits) = digits := no_blank
    rw [labelledNumeral?, behind, Option.bind_some, past]
    dsimp only
    rw [no_colon, Option.getD_none, no_blank, List.takeWhile_eq_self_iff.2 all]
    exact if_neg (by simpa using some_digits)
  refine numeralBehind_of_found rfl ?_
  change List.findSome? (labelledNumeral? ("line ".toList ++ digits)) ["line"] = some digits
  rw [List.findSome?_cons, labelled]

/-- A parser may name a line that is too long to be read. -/
theorem Refusal.unreadable_of_long_line {refusal : Refusal} {digits : List Char}
    (words : refusal.text.toList = "line ".toList ++ digits) (unpointed : refusal.line = none)
    (all : ∀ c ∈ digits, isDigit c = true) (long : numeralLimit < digits.length) :
    refusal.Unreadable := by
  have some_digits : digits ≠ [] := List.ne_nil_of_length_pos (Nat.zero_lt_of_lt long)
  have no_escape : '\x1b' ∉ "line ".toList ++ digits := by
    rw [List.mem_append, not_or]
    exact ⟨by decide, fun member => absurd (all _ member) (by decide)⟩
  have last : isBlank (("line ".toList ++ digits).getLast (by simp)) = false := by
    rw [List.getLast_append_of_ne_nil _ some_digits]
    exact isBlank_eq_false_of_isDigit (all _ (List.getLast_mem some_digits))
  have plain : refusal.plainText = "line ".toList ++ digits := by
    rw [plainText, words, dropColors_of_not_mem no_escape]
    exact trim_of_ends (by simp) rfl last
  have searched : refusal.numeral? ["line"] refusal.line =
      numeralBehind ["line"] none refusal.plainText := by
    rw [unpointed]
    rfl
  refine .inl ⟨digits, ?_, long⟩
  rw [searched, plain]
  exact numeralBehind_line all some_digits

end Grammar

namespace Validation

/-- The report on a refused text has one error with its place, or a number in the words is too long. -/
theorem refusedReport_cases (sql : String) (refusal : Refusal) :
    (refusal.Unreadable ∧ ∃ failure, refusedReport sql refusal = .error failure) ∨
      (¬ refusal.Unreadable ∧ ∃ line column, refusedReport sql refusal = .ok
        { isValid := false
          errors := [{ message := refusal.message, line := line, column := column
                       offset := offsetAt? sql line column }] }) := by
  unfold Refusal.Unreadable refusedReport Refusal.lineOf Refusal.columnOf
  rcases refusal.coordinate_cases ["line"] refusal.line with ⟨long, failure, failed⟩ | ⟨short, line, read⟩
  · exact .inl ⟨.inl long, failure, by rw [failed]; rfl⟩
  · rw [read]
    rcases refusal.coordinate_cases ["column", "col"] refusal.column with
      ⟨long, failure, failed⟩ | ⟨short', column, read'⟩
    · exact .inl ⟨.inr long, failure, by rw [failed]; rfl⟩
    · exact .inr ⟨by simp [short, short'], line, column, by rw [read']; rfl⟩

/-- Statements that read-only mode cannot judge: it comes to a command that cannot be written, and forbids
no statement before it. -/
def Unjudged (statements : List Tree) : Prop :=
  ∃ front command rest, statements = front ++ command :: rest ∧
    (∀ earlier ∈ front, forbiddenStatement? earlier = .ok none) ∧
    command.kind = .command ∧ command.info.written = none

theorem forbiddenType_speaks (name : String) : Speaks (forbiddenType name) :=
  speaks_append (speaks_append (speaks_append ⟨'S', by decide, by decide⟩ _) _) _

theorem forbiddenBody?_speaks (statement : Tree) :
    ∀ words ∈ forbiddenBody? statement, Speaks words := by
  intro words found
  obtain ⟨body, -, rfl⟩ := Option.map_eq_some_iff.1 (Option.mem_def.1 found)
  exact speaks_append (speaks_append (speaks_append ⟨'C', by decide, by decide⟩ _) _) _

/-- What read-only mode says about one statement. -/
theorem forbiddenStatement?_cases (statement : Tree) :
    (∃ failure, forbiddenStatement? statement = .error failure ∧
      statement.kind = .command ∧ statement.info.written = none) ∨
    (∃ reason, forbiddenStatement? statement = .ok reason ∧ (∀ words ∈ reason, Speaks words) ∧
      ¬ (statement.kind = .command ∧ statement.info.written = none)) := by
  unfold forbiddenStatement?
  split
  next changes =>
    refine .inr ⟨_, rfl, ?_, ?_⟩
    · rintro words ⟨⟩
      exact forbiddenType_speaks _
    · rintro ⟨command, -⟩
      rw [command] at changes
      cases changes
  next =>
    split
    next command =>
      have is_command : statement.kind = .command := beq_iff_eq.1 command
      split
      next unwritten => exact .inl ⟨_, rfl, is_command, unwritten⟩
      next text written =>
        refine .inr ?_
        split
        next => exact ⟨_, rfl, forbiddenBody?_speaks statement, by simp [written]⟩
        next =>
          refine ⟨_, rfl, ?_, by simp [written]⟩
          rintro words ⟨⟩
          exact forbiddenType_speaks _
    next no_command =>
      refine .inr ⟨_, rfl, forbiddenBody?_speaks statement, ?_⟩
      rintro ⟨command, -⟩
      rw [command] at no_command
      exact no_command rfl

/-- A statement that can be judged is passed only if it is not forbidden. -/
theorem unjudged_cons_iff {statement : Tree} {rest : List Tree} {reason : Option String}
    (judged : forbiddenStatement? statement = .ok reason)
    (writable : ¬ (statement.kind = .command ∧ statement.info.written = none)) :
    Unjudged (statement :: rest) ↔ reason = none ∧ Unjudged rest := by
  constructor
  · rintro ⟨front, command, behind, split, before, is_command, unwritten⟩
    cases front with
    | nil =>
      cases split
      exact absurd ⟨is_command, unwritten⟩ writable
    | cons first front =>
      obtain ⟨rfl, after⟩ := List.cons.inj split
      obtain ⟨passed, before⟩ := List.forall_mem_cons.1 before
      rw [judged] at passed
      exact ⟨Except.ok.inj passed, front, command, behind, after, before, is_command, unwritten⟩
  · rintro ⟨rfl, front, command, behind, rfl, before, unwritten⟩
    exact ⟨statement :: front, command, behind, rfl, List.forall_mem_cons.2 ⟨judged, before⟩, unwritten⟩

theorem forbidden?_cases (statements : List Tree) :
    (Unjudged statements ∧ ∃ failure, forbidden? statements = .error failure) ∨
      (¬ Unjudged statements ∧
        ∃ reason, forbidden? statements = .ok reason ∧ ∀ words ∈ reason, Speaks words) := by
  induction statements with
  | nil =>
    refine .inr ⟨?_, none, rfl, by simp⟩
    rintro ⟨front, command, rest, split, -⟩
    simp at split
  | cons statement rest ih =>
    rw [forbidden?]
    rcases forbiddenStatement?_cases statement with
      ⟨failure, failed, command, unwritten⟩ | ⟨reason, judged, speaks, writable⟩
    · rw [failed]
      exact .inl ⟨⟨[], statement, rest, rfl, by simp, command, unwritten⟩, failure, rfl⟩
    · rw [unjudged_cons_iff judged writable, judged]
      cases reason with
      | some words => exact .inr ⟨by simp, some words, rfl, speaks⟩
      | none =>
        simp only [true_and]
        exact ih

end Validation

/-! ### Reports

A text is blank or without statements, it is refused, or it has statements. The report is put together anew
in each case, with one error at most, and it is missing in the last two for one reason each. -/

/-- The statements that a parser found in a text that it did not refuse. -/
def foundTrees : Except Refusal (List (Option Tree)) → List Tree
  | .ok statements => statements.filterMap id
  | .error _ => []

/-- A well-formed report on a text, with what its parser answered. -/
structure ValidationReport.WellFormed (sql : String) (outcome : Except Refusal (List (Option Tree)))
    (report : ValidationReport) : Prop where
  invalid_iff : report.isValid = false ↔ report.errors ≠ []
  one_error : report.errors.length ≤ 1
  speaks : ∀ error ∈ report.errors, Speaks error.message
  oneLine : (∃ refusal, outcome = .error refusal) → ∀ error ∈ report.errors, IsOneLine error.message
  placed : ∀ error ∈ report.errors, error.Placed sql.toList
  bare : isBlankText sql.toList = true ∨ foundTrees outcome = [] →
    report.isValid = false ∧ report.warnings = [] ∧ report.syntaxTrees = none ∧
      report.formatted = none ∧ report.parameters = [] ∧ report.statementCount = 0
  counted : isBlankText sql.toList = false → foundTrees outcome ≠ [] →
    report.syntaxTrees = some (foundTrees outcome) ∧
      report.statementCount = (foundTrees outcome).length ∧ 1 ≤ report.statementCount

namespace Validation

variable {sql : String} {outcome : Except Refusal (List (Option Tree))}

/-- A report of nothing but one error is well formed for a text without statements. -/
theorem wellFormed_of_error {error : SqlError} (speaks : Speaks error.message)
    (oneLine : IsOneLine error.message) (placed : error.Placed sql.toList)
    (bare : isBlankText sql.toList = true ∨ foundTrees outcome = []) :
    ValidationReport.WellFormed sql outcome { isValid := false, errors := [error] } where
  invalid_iff := by simp
  one_error := Nat.le_refl 1
  speaks := by simpa using speaks
  oneLine := fun _ => by simpa using oneLine
  placed := by simpa using placed
  bare := fun _ => ⟨rfl, rfl, rfl, rfl, rfl, rfl⟩
  counted := by
    intro seen some_found
    rcases bare with blank | none_found
    · rw [blank] at seen
      cases seen
    · exact absurd none_found some_found

theorem wellFormed_ofMessage {message : String} (speaks : Speaks message) (oneLine : IsOneLine message)
    (bare : isBlankText sql.toList = true ∨ foundTrees outcome = []) :
    (ValidationReport.ofMessage message).WellFormed sql outcome :=
  wellFormed_of_error speaks oneLine (SqlError.placed_unplaced _ _) bare

/-- The report on statements is missing only where read-only mode cannot judge them. -/
theorem reportOn_cases (dialect : Dialect) (readOnly : Bool) (sql : String) (statements : List Tree) :
    ((readOnly = true ∧ Unjudged statements) ∧
      ∃ failure, reportOn dialect readOnly sql statements = .error failure) ∨
    (¬ (readOnly = true ∧ Unjudged statements) ∧
      ∃ report, reportOn dialect readOnly sql statements = .ok report ∧
        ∃ reason : Option String, (∀ words ∈ reason, Speaks words) ∧
          report.isValid = reason.isNone ∧
          report.errors = reason.toList.map (fun message => { message := message }) ∧
          report.syntaxTrees = some statements ∧ report.statementCount = statements.length) := by
  cases readOnly with
  | false =>
    refine .inr ⟨by simp, _, rfl, none, by simp, ?_⟩
    exact ⟨rfl, rfl, rfl, rfl⟩
  | true =>
    rcases forbidden?_cases statements with ⟨unjudged, failure, failed⟩ | ⟨judged, reason, found, speaks⟩
    · refine .inl ⟨⟨rfl, unjudged⟩, failure, ?_⟩
      rw [reportOn, if_pos rfl, failed]
      rfl
    · refine .inr ⟨by simp [judged], ?_⟩
      rw [reportOn, if_pos rfl, found]
      refine ⟨_, rfl, reason, speaks, ?_⟩
      exact ⟨rfl, rfl, rfl, rfl⟩

theorem wellFormed_of_reason {report : ValidationReport} {reason : Option String}
    (speaks : ∀ words ∈ reason, Speaks words) (valid : report.isValid = reason.isNone)
    (errors : report.errors = reason.toList.map fun message => { message := message })
    (trees : report.syntaxTrees = some (foundTrees outcome))
    (count : report.statementCount = (foundTrees outcome).length)
    (seen : isBlankText sql.toList = false) (some_found : foundTrees outcome ≠ []) :
    report.WellFormed sql outcome where
  invalid_iff := by cases reason <;> simp [valid, errors]
  one_error := by cases reason <;> simp [errors]
  speaks := by cases reason <;> simp_all
  oneLine := by
    rintro ⟨refusal, rfl⟩
    exact absurd rfl some_found
  placed := by
    intro error member
    rw [errors] at member
    obtain ⟨words, -, rfl⟩ := List.mem_map.1 member
    exact SqlError.placed_unplaced _ words
  bare := by
    rintro (blank | none_found)
    · rw [seen] at blank
      cases blank
    · exact absurd none_found some_found
  counted := fun _ _ => ⟨trees, count, by
    have one := List.length_pos_iff.2 some_found
    omega⟩

/-- A text on which there is no report: a number in the words of the refusal is too long to be read, or
read-only mode comes to a command that cannot be written before it comes to a statement that it forbids. -/
def Unreported (readOnly : Bool) (sql : String) (outcome : Except Refusal (List (Option Tree))) : Prop :=
  isBlankText sql.toList = false ∧
    ((∃ refusal, outcome = .error refusal ∧ refusal.Unreadable) ∨
      (readOnly = true ∧ Unjudged (foundTrees outcome)))

/-- A refused text has a report on the refusal, unless a number in its words is too long to be read. -/
theorem validate_refusal_cases (dialect : Dialect) (readOnly : Bool) (seen : isBlankText sql.toList = false)
    (refusal : Refusal) :
    (refusal.Unreadable ∧
      ∃ failure, validate dialect readOnly sql (.error (.refused refusal)) = .error failure) ∨
    (¬ refusal.Unreadable ∧
      ∃ report, validate dialect readOnly sql (.error (.refused refusal)) = .ok report ∧
        report.WellFormed sql (.error refusal)) := by
  have answer : validate dialect readOnly sql (.error (.refused refusal)) = refusedReport sql refusal :=
    if_neg (by simp [seen])
  rw [answer]
  rcases refusedReport_cases sql refusal with unread | ⟨read, line, column, found⟩
  · exact .inl unread
  · exact .inr ⟨read, _, found, wellFormed_of_error refusal.message_speaks refusal.message_oneLine
      (SqlError.placed_offsetAt? sql _ line column) (.inr rfl)⟩

theorem not_unjudged_nil : ¬ Unjudged [] := by
  rintro ⟨front, command, rest, split, -⟩
  simp at split

/-- What a parser found in a text has a report, unless read-only mode cannot judge it. -/
theorem validate_statements_cases (dialect : Dialect) (readOnly : Bool)
    (seen : isBlankText sql.toList = false) (statements : List (Option Tree)) :
    ((readOnly = true ∧ Unjudged (foundTrees (.ok statements))) ∧
      ∃ failure, validate dialect readOnly sql (.ok statements) = .error failure) ∨
    (¬ (readOnly = true ∧ Unjudged (foundTrees (.ok statements))) ∧
      ∃ report, validate dialect readOnly sql (.ok statements) = .ok report ∧
        report.WellFormed sql (.ok statements)) := by
  have filled : ¬ isBlankText sql.toList = true := by simp [seen]
  have present : statementsOf (.ok statements) = .ok (foundTrees (.ok statements)) := rfl
  cases found : foundTrees (.ok statements) with
  | nil =>
    have answer : validate dialect readOnly sql (.ok statements) =
        .ok (.ofMessage "No valid SQL statement found") := by
      rw [validate, if_neg filled, present, found]
    exact .inr ⟨fun unjudged => not_unjudged_nil unjudged.2, _, answer,
      wellFormed_ofMessage ⟨'N', by decide, by decide⟩ (by decide) (.inr found)⟩
  | cons first rest =>
    have answer : validate dialect readOnly sql (.ok statements) =
        reportOn dialect readOnly sql (first :: rest) := by
      rw [validate, if_neg filled, present, found]
    rw [answer]
    rcases reportOn_cases dialect readOnly sql (first :: rest) with
      unjudged | ⟨judged, report, here, reason, speaks, valid, errors, kept, count⟩
    · exact .inl unjudged
    · exact .inr ⟨judged, report, here, wellFormed_of_reason speaks valid errors (found ▸ kept)
        (found ▸ count) seen (by simp [found])⟩

theorem validate_cases (dialect : Dialect) (readOnly : Bool) (sql : String)
    (outcome : Except Refusal (List (Option Tree))) :
    (Unreported readOnly sql outcome ∧
      ∃ failure, validate dialect readOnly sql (outcome.mapError .refused) = .error failure) ∨
    (¬ Unreported readOnly sql outcome ∧
      ∃ report, validate dialect readOnly sql (outcome.mapError .refused) = .ok report ∧
        report.WellFormed sql outcome) := by
  unfold Unreported
  cases seen : isBlankText sql.toList with
  | true =>
    refine .inr ⟨by simp, _, by rw [validate, if_pos seen], ?_⟩
    exact wellFormed_ofMessage ⟨'S', by decide, by decide⟩ (by decide) (.inl seen)
  | false =>
    rw [and_iff_right rfl]
    cases outcome with
    | error refusal =>
      have unread_iff : (∃ other, (Except.error refusal : Except Refusal (List (Option Tree))) = .error other ∧
          other.Unreadable) ∨ (readOnly = true ∧ Unjudged (foundTrees (.error refusal))) ↔
          refusal.Unreadable := by
        rw [or_iff_left fun unjudged => not_unjudged_nil unjudged.2]
        simp
      rw [unread_iff]
      exact validate_refusal_cases dialect readOnly seen refusal
    | ok statements =>
      have no_refusal : ¬ ∃ refusal, (Except.ok statements : Except Refusal _) = .error refusal ∧
          refusal.Unreadable := by
        rintro ⟨refusal, ⟨⟩, -⟩
      rw [or_iff_right no_refusal]
      exact validate_statements_cases dialect readOnly seen statements

theorem not_report_of_unreported {dialect : Dialect} {readOnly : Bool} {sql : String}
    {outcome : Except Refusal (List (Option Tree))} (unreported : Unreported readOnly sql outcome) :
    ¬ ∃ report, validate dialect readOnly sql (outcome.mapError .refused) = .ok report := by
  rintro ⟨report, found⟩
  rcases validate_cases dialect readOnly sql outcome with ⟨-, failure, failed⟩ | ⟨reported, -⟩
  · rw [failed] at found
    cases found
  · exact reported unreported

/-- A parser that works answers with statements or with a refusal of the text. Its answer makes a
well-formed report on the text, whatever the statements, the words of the refusal and the place that it
points at. There is no report exactly where a number in these words is too long to be read, or where
read-only mode comes to a command that cannot be written before it comes to a statement that it forbids. -/
theorem validate_wellFormed (dialect : Dialect) (readOnly : Bool) (sql : String)
    (outcome : Except Refusal (List (Option Tree))) :
    (∀ report, validate dialect readOnly sql (outcome.mapError .refused) = .ok report →
      report.WellFormed sql outcome) ∧
    ((∃ failure, validate dialect readOnly sql (outcome.mapError .refused) = .error failure) ↔
      Unreported readOnly sql outcome) := by
  rcases validate_cases dialect readOnly sql outcome with
    ⟨unreported, failure, failed⟩ | ⟨reported, report, found, wellFormed⟩
  · refine ⟨fun report found => ?_, iff_of_true ⟨failure, failed⟩ unreported⟩
    rw [failed] at found
    cases found
  · refine ⟨fun other same => ?_, iff_of_false ?_ reported⟩
    · rw [found] at same
      exact Except.ok.inj same ▸ wellFormed
    · rintro ⟨failure, failed⟩
      rw [found] at failed
      cases failed

/-- A refusal that points at the third column of the second line. -/
def placedRefusal : Refusal :=
  { kind := .parse, text := "Expecting )\n  FROM", line := some 2, column := some 3 }

/-- The report on a text that is refused so has the first line of the words, and the offset of the place. -/
theorem validate_wellFormed_of_place :
    ∃ report, validate .postgres false "SELECT a\nFROM"
        ((Except.error placedRefusal).mapError ParserFault.refused) = .ok report ∧
      report.WellFormed "SELECT a\nFROM" (.error placedRefusal) ∧
      report.errors =
        [{ message := "Expecting )", line := some 2, column := some 3, offset := some 11 }] := by
  refine ⟨_, rfl, ?_, by decide⟩
  exact (validate_wellFormed .postgres false "SELECT a\nFROM" (.error placedRefusal)).1 _ rfl

/-- A refusal in which the line is written with 4301 digits. -/
def longRefusal : Refusal :=
  { kind := .parse, text := String.ofList ("line ".toList ++ List.replicate 4301 '1') }

/-- There is no report on a text that is refused with this line. -/
theorem validate_unreported :
    ¬ ∃ report, validate .postgres false "SELECT 1"
      ((Except.error longRefusal).mapError ParserFault.refused) = .ok report := by
  have long : longRefusal.Unreadable := by
    refine Refusal.unreadable_of_long_line String.toList_ofList rfl (fun c member => ?_) ?_
    · rw [List.eq_of_mem_replicate member]
      decide
    · rw [List.length_replicate]
      decide
  exact not_report_of_unreported ⟨by decide, .inl ⟨longRefusal, rfl, long⟩⟩

end Validation

end QueryDesk
