/-
Module: QueryDesk.Proofs.Page.Trailer
Purpose: The mask of a bounded text in the dialects that have no dollar tags. A minus at the end of the
  statement becomes part of a line comment that is kept directly behind it. The mask of the whole text
  lacks that minus then, and is otherwise that of the statement with blanks behind it.
Imports: QueryDesk.Proofs.Page.Stability, QueryDesk.Proofs.Sql.Relexing
Main exports: Lexis.modeThrough_congr_of_head, mask_boundText_of_untagged
-/
import QueryDesk.Proofs.Page.Stability
import QueryDesk.Proofs.Sql.Relexing

namespace QueryDesk.Sql

open QueryDesk.Text

variable {lexis : Lexis} {dialect : Dialect} {limit offset : Int} {text : List Char}

/-! ### Reading without dollar tags

Only a dollar sign makes the machine look further ahead than at the next character. Without dollar tags a
text is read alike before any two texts that begin with the same character. -/

/-- A mode that looks for no dollar tag. -/
def Mode.Untagged : Mode → Prop
  | .tagOpening _ _ => False
  | .tagged _ => False
  | _ => True

theorem Mode.untagged_plain : Mode.plain.Untagged := trivial

theorem Lexis.step_untagged (quotes : lexis.dollarQuotes = false) {mode : Mode} (untagged : mode.Untagged)
    (c : Char) (rest : List Char) : (lexis.step mode c rest).2.Untagged := by
  cases mode with
  | plain =>
      simp only [step, stepPlain, quotes, Bool.false_eq_true, if_false]
      split_ifs
      · trivial
      · trivial
      · cases lexis.closing? c <;> trivial
  | lineComment =>
      simp only [step]
      split_ifs <;> trivial
  | blockOpening => trivial
  | blockComment =>
      simp only [step]
      split_ifs <;> trivial
  | blockClosing => trivial
  | quoted closing =>
      rcases lexis.stepQuoted_cases closing c rest with same | same | ⟨-, same⟩ <;>
        (simp only [step, same]; trivial)
  | escaped closing => trivial
  | tagOpening left tag => exact untagged.elim
  | tagged tag => exact untagged.elim
  | tagClosing left => cases left <;> trivial

/-- Without dollar tags a step looks at the next character only. -/
theorem Lexis.step_congr_of_head (quotes : lexis.dollarQuotes = false) {mode : Mode}
    (untagged : mode.Untagged) {c : Char} {rest rest' : List Char} (same : rest'.head? = rest.head?) :
    lexis.step mode c rest' = lexis.step mode c rest := by
  cases mode with
  | plain =>
      refine stepPlain_eq_of_heads (fun _ => by rw [same]) (fun _ => by rw [same]) fun _ tags => ?_
      rw [quotes] at tags
      cases tags
  | lineComment => rfl
  | blockOpening => rfl
  | blockComment => simp only [step, same]
  | blockClosing => rfl
  | quoted closing => simp only [step, stepQuoted, same]
  | escaped closing => rfl
  | tagOpening left tag => exact untagged.elim
  | tagged tag => exact untagged.elim
  | tagClosing left => cases left <;> rfl

/-- Without dollar tags a text is read alike before two texts that begin with the same character. -/
theorem Lexis.modeThrough_congr_of_head (quotes : lexis.dollarQuotes = false) {mode : Mode}
    (untagged : mode.Untagged) (front : List Char) {after after' : List Char}
    (same : after'.head? = after.head?) :
    lexis.modeThrough mode front after' = lexis.modeThrough mode front after := by
  induction front generalizing mode with
  | nil => rfl
  | cons c rest ih =>
      have heads : (rest ++ after').head? = (rest ++ after).head? := by
        cases rest with
        | nil => exact same
        | cons d more => rfl
      rw [modeThrough, modeThrough, step_congr_of_head quotes untagged heads]
      exact ih (step_untagged quotes untagged c _)

/-- A minus at the end of a text that is read as no comment stands outside of all tokens. -/
theorem Lexis.eq_plain_of_dash {mode : Mode} (sound : mode.Sound ['-'])
    (closed : (lexis.step mode '-' []).2 = .plain)
    (shown : (lexis.step mode '-' []).1.isComment = false) : mode = .plain := by
  cases mode with
  | plain => rfl
  | lineComment => cases closed
  | blockOpening => cases closed
  | blockComment => cases closed
  | blockClosing => cases shown
  | quoted closing =>
      rcases lexis.stepQuoted_cases closing '-' [] with same | same | ⟨rfl, -⟩
      · rw [step, same] at closed
        cases closed
      · rw [step, same] at closed
        cases closed
      · rcases sound with mark | bracket
        · exact absurd mark (by decide)
        · exact absurd bracket (by decide)
  | escaped closing => cases closed
  | tagOpening left tag => cases left <;> cases closed
  | tagged tag =>
      rw [step] at closed
      split_ifs at closed
  | tagClosing left =>
      cases left with
      | zero =>
          have ends : ['-'][0]? = some '$' := sound
          exact absurd ends (by decide)
      | succ left => cases closed

/-- Where no tag is quoted none can be completed. -/
theorem tagFree_of_untagged (quotes : (Lexis.ofDialect dialect).dollarQuotes = false) :
    TagFree dialect limit offset text := fun _ _ completes =>
  absurd completes.1 (by rw [quotes]; decide)

/-- A statement that ends with a minus, with a comment directly behind it: the mask lacks the minus. -/
theorem Reread.mask_of_dash (quotes : lexis.dollarQuotes = false) {front masked after : List Char}
    (reread : Reread lexis (front ++ ['-']) masked)
    (hidden : ∀ c ∈ lexis.commentMask ('-' :: after), isBlank c = true) :
    ∃ statement blanks, masked = statement ++ ['-'] ∧
      lexis.mask (front ++ '-' :: '-' :: after) = statement ++ blanks ∧ ∀ c ∈ blanks, isBlank c = true := by
  have second : after.head? = some '-' := by
    rcases head_of_hidden hidden with is_blank | ⟨-, second⟩ | other | other
    · exact absurd is_blank (by decide)
    · exact second
    · exact absurd other (by decide)
    · exact absurd other (by decide)
  obtain ⟨more, rfl⟩ := List.head?_eq_some_iff.1 second
  have outside : lexis.modeThrough .plain front ['-'] = .plain := by
    have closed := reread.closed
    have last := reread.last
    rw [Lexis.Closed, Lexis.modeAfter_append] at closed
    rw [Lexis.commentMask, Lexis.hideFrom_eq_hide, Lexis.marksFrom_append, hide_append (by simp)] at last
    refine Lexis.eq_plain_of_dash (Lexis.modeThrough_sound (Mode.sound_plain _)) closed ?_
    by_contra comment
    have blanked := last ' ' (by simp [hide, Lexis.marksFrom, comment, blank])
    exact absurd blanked (by decide)
  have same : lexis.modeThrough .plain front ('-' :: '-' :: '-' :: more) =
      lexis.modeThrough .plain front ['-'] :=
    Lexis.modeThrough_congr_of_head quotes Mode.untagged_plain front rfl
  have mask := Lexis.hideFrom_append_of_seam outside fun mark => !mark.isPlain
  have mask' := Lexis.hideFrom_append_of_seam (same.trans outside) fun mark => !mark.isPlain
  refine ⟨lexis.mask front, lexis.mask ('-' :: '-' :: '-' :: more), ?_, mask', ?_⟩
  · rw [← reread.mask, Lexis.mask, mask]
    simp [Lexis.mask, Lexis.hideFrom, Lexis.step, Lexis.stepPlain, quotes, Lexis.closing?, Mark.isPlain]
  · have one_more : lexis.mask ('-' :: '-' :: '-' :: more) = ' ' :: lexis.mask ('-' :: '-' :: more) := rfl
    rw [one_more]
    have behind := mask_of_commentMask (fun _ is_blank => is_blank) hidden
    intro c member
    rcases List.mem_cons.1 member with rfl | later
    · decide
    · exact behind c later

/-- The mask of a bounded text is that of its bounded statement with nothing but blanks behind it, but for
a minus at the end of the statement. -/
theorem mask_boundText_of_untagged (quotes : (Lexis.ofDialect dialect).dollarQuotes = false)
    (closes : (Lexis.ofDialect dialect).closes text = true) (nonneg : 0 ≤ limit) (offset_nonneg : 0 ≤ offset)
    (touched : ¬ Untouched dialect text) :
    ∃ statement tail blanks, boundedMask dialect limit offset text = statement ++ tail ∧
      (tail = [] ∨ tail = ['-']) ∧
      (Lexis.ofDialect dialect).mask (boundText dialect limit offset text) = statement ++ blanks ∧
      ∀ c ∈ blanks, isBlank c = true := by
  have tagless : TagFree dialect limit offset text := tagFree_of_untagged quotes
  by_cases joins : DashJoins dialect limit offset text
  · obtain ⟨front, last⟩ := List.getLast?_eq_some_iff.1 joins.1
    obtain ⟨more, first⟩ := List.head?_eq_some_iff.1 joins.2
    have hidden := trailer_hidden closes
    have reread := reread_bounded closes nonneg offset_nonneg tagless
    rw [last] at reread
    rw [first] at hidden
    obtain ⟨statement, blanks, split, mask, blank⟩ := reread.mask_of_dash quotes hidden
    refine ⟨statement, ['-'], blanks, split, .inr rfl, ?_, blank⟩
    rw [boundText_eq touched, last, first, List.append_assoc]
    exact mask
  · obtain ⟨blanks, mask, blank⟩ := mask_boundText closes nonneg offset_nonneg touched ⟨tagless, joins⟩
    exact ⟨_, [], blanks, (List.append_nil _).symm, .inl rfl, mask, blank⟩

end QueryDesk.Sql
