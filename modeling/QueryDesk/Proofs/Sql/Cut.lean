/-
Module: QueryDesk.Proofs.Sql.Cut
Purpose: Where the content of a text ends. What stands behind the last character that is neither
  idle (a blank, or a blank or semicolon) nor part of a comment holds no quoted token, and if every
  quoted token of the text is closed, the machine stands outside of all tokens at that place. A live
  character of the mask is a place of the same kind.
Imports: QueryDesk.Proofs.Sql.Splice
Main exports: Idle, Lexis.delimiter_of_leaves, Lexis.outside_of_content, Lexis.outside_of_live
-/
import QueryDesk.Proofs.Sql.Splice

namespace QueryDesk.Sql

open QueryDesk.Text

variable {lexis : Lexis}

/-- A class of characters that a statement does not end with: it holds what comments are blanked to,
and no delimiter of a quoted token. -/
structure Idle (idle : Char → Bool) : Prop where
  delimiter : ∀ c, isDelimiter c = true → idle c = false
  blank : ∀ c, idle (blank c) = true

/-- A hidden character is a blank. -/
theorem isBlank_blank (c : Char) : isBlank (blank c) = true := by
  unfold blank
  split <;> decide

/-- A character that closes a statement: a blank or a semicolon. -/
def isTerminator (c : Char) : Bool :=
  c == ';' || isBlank c

/-- Delimiters are neither blanks nor semicolons. -/
theorem idle_terminator : Idle isTerminator where
  delimiter := by
    intro c delimiter
    simp only [isDelimiter, isQuoteMark, Bool.or_eq_true, beq_iff_eq] at delimiter
    rcases delimiter with ((((rfl | rfl) | rfl) | rfl) | rfl) | rfl <;> decide
  blank := by
    intro c
    simp [isTerminator, isBlank_blank]

/-- Delimiters are no blanks. -/
theorem idle_isBlank : Idle isBlank where
  delimiter := by
    intro c delimiter
    have none := idle_terminator.delimiter c delimiter
    simp only [isTerminator, Bool.or_eq_false_iff] at none
    exact none.2
  blank := isBlank_blank

/-- Inside of a quoted token every character belongs to it. -/
theorem Lexis.mark_of_isQuoted {mode : Mode} (quoted : mode.isQuoted = true) (c : Char)
    (rest : List Char) : (lexis.step mode c rest).1 = .quote := by
  cases mode with
  | quoted closing =>
      rcases lexis.stepQuoted_cases closing c rest with same | same | ⟨-, same⟩ <;>
        simp only [step, same]
  | escaped closing => rfl
  | tagOpening left tag => cases left <;> rfl
  | tagged tag =>
      simp only [step]
      split_ifs <;> rfl
  | tagClosing left => cases left <;> rfl
  | plain | lineComment | blockOpening | blockComment | blockClosing => cases quoted

/-- A quoted token ends with a delimiter. -/
theorem Lexis.delimiter_of_leaves {mode : Mode} {c : Char} {rest : List Char}
    (sound : mode.Sound (c :: rest)) (quoted : mode.isQuoted = true)
    (leaves : (lexis.step mode c rest).2.isQuoted = false) : isDelimiter c = true := by
  cases mode with
  | quoted closing =>
      rcases lexis.stepQuoted_cases closing c rest with same | same | ⟨ends, same⟩ <;>
        simp only [step, same] at leaves
      · cases leaves
      · cases leaves
      · subst ends
        rcases sound with mark | rfl
        · simp [isDelimiter, mark]
        · decide
  | escaped closing => cases leaves
  | tagOpening left tag => cases left <;> cases leaves
  | tagged tag =>
      simp only [step] at leaves
      split_ifs at leaves <;> cases leaves
  | tagClosing left =>
      cases left with
      | zero =>
          have dollar : c = '$' := by simpa [Mode.Sound] using sound
          subst dollar
          decide
      | succ left => cases leaves
  | plain | lineComment | blockOpening | blockComment | blockClosing => cases quoted

/-- What a step outside of quoted tokens can do: enter one by a delimiter, step inside of a comment,
or read a plain character. -/
theorem Lexis.step_cases_of_free {mode : Mode} (free : mode.isQuoted = false) (c : Char)
    (rest : List Char) :
    ((lexis.step mode c rest).1 = .quoteStart ∧ isDelimiter c = true) ∨
      ((lexis.step mode c rest).1.isComment = true ∧
        (lexis.step mode c rest).2.isQuoted = false) ∨
      lexis.step mode c rest = (.plain, .plain) := by
  cases mode with
  | plain =>
      change (_ ∧ _) ∨ (_ ∧ _) ∨ lexis.stepPlain c rest = _
      rcases lexis.stepPlain_cases c rest with
        same | same | ⟨tag, found, same⟩ | ⟨closing, opens, same⟩ | same <;> rw [step, same]
      · exact .inr (.inl ⟨rfl, rfl⟩)
      · exact .inr (.inl ⟨rfl, rfl⟩)
      · obtain ⟨more, heading, -, -⟩ := eq_of_dollarTag? found
        cases heading
        exact .inl ⟨rfl, by decide⟩
      · exact .inl ⟨rfl, (closing?_eq_some opens).1⟩
      · exact .inr (.inr rfl)
  | lineComment =>
      simp only [step]
      split_ifs
      · exact .inr (.inr rfl)
      · exact .inr (.inl ⟨rfl, rfl⟩)
  | blockOpening => exact .inr (.inl ⟨rfl, rfl⟩)
  | blockComment =>
      simp only [step]
      split_ifs
      · exact .inr (.inl ⟨rfl, rfl⟩)
      · exact .inr (.inl ⟨rfl, rfl⟩)
  | blockClosing => exact .inr (.inl ⟨rfl, rfl⟩)
  | quoted | escaped | tagOpening | tagged | tagClosing => cases free

/-- Behind a character that is not part of a comment the machine stands inside of a quoted token or
outside of all tokens. -/
theorem Lexis.plain_of_not_comment {mode : Mode} {c : Char} {rest : List Char}
    (shown : (lexis.step mode c rest).1.isComment = false)
    (free : (lexis.step mode c rest).2.isQuoted = false) : (lexis.step mode c rest).2 = .plain := by
  cases mode with
  | quoted closing =>
      rcases lexis.stepQuoted_cases closing c rest with same | same | ⟨-, same⟩ <;>
        simp only [step, same] at free ⊢ <;> cases free
  | escaped closing => cases free
  | tagOpening left tag => cases left <;> cases free
  | tagged tag =>
      simp only [step] at free
      split_ifs at free <;> cases free
  | tagClosing left =>
      cases left with
      | zero => rfl
      | succ left => cases free
  | plain =>
      rcases lexis.stepPlain_cases c rest with
        same | same | ⟨tag, found, same⟩ | ⟨closing, opens, same⟩ | same <;>
        rw [step, same] at free shown
      · cases shown
      · cases shown
      · cases free
      · cases free
      · rw [step, same]
  | lineComment =>
      simp only [step] at shown ⊢
      split_ifs at shown ⊢
      · rfl
      · cases shown
  | blockOpening => cases shown
  | blockComment =>
      simp only [step] at shown
      split_ifs at shown <;> cases shown
  | blockClosing => cases shown

/-! ### Idle tails

A quoted token can only end with a delimiter, and a delimiter is not idle. So a text of which nothing but
idle characters show has no quoted token in it, for one that opens there would never close. -/

/-- What is shown of a text at its first character, and behind it. -/
theorem Lexis.mem_hideFrom_cons {hidden : Mark → Bool} {mode : Mode} {c : Char} {rest : List Char}
    {idle : Char → Bool}
    (all : ∀ d ∈ lexis.hideFrom hidden mode (c :: rest), idle d = true) :
    (hidden (lexis.step mode c rest).1 = false → idle c = true) ∧
      ∀ d ∈ lexis.hideFrom hidden (lexis.step mode c rest).2 rest, idle d = true := by
  simp only [hideFrom, List.mem_cons, forall_eq_or_imp] at all
  refine ⟨fun shown => ?_, all.2⟩
  simpa [shown] using all.1

/-- A quoted token that shows idle characters only does not close. -/
theorem Lexis.isQuoted_of_idle {idle : Char → Bool} (kind : Idle idle) {mode : Mode}
    {text : List Char} (sound : mode.Sound text) (quoted : mode.isQuoted = true)
    (all : ∀ c ∈ lexis.hideFrom Mark.isComment mode text, idle c = true) :
    (lexis.modeAfter mode text).isQuoted = true := by
  induction text generalizing mode with
  | nil => exact quoted
  | cons c rest ih =>
      obtain ⟨head, later⟩ := mem_hideFrom_cons all
      refine ih (step_sound sound) ?_ later
      cases leaves : (lexis.step mode c rest).2.isQuoted with
      | true => rfl
      | false =>
          have delimiter := kind.delimiter c (delimiter_of_leaves sound quoted leaves)
          have shown : idle c = true := head (by rw [mark_of_isQuoted quoted]; rfl)
          simp [delimiter] at shown

/-- A text that shows idle characters only has no quoted token. -/
theorem Lexis.not_isQuoted_of_idle {idle : Char → Bool} (kind : Idle idle) {mode : Mode}
    {text : List Char} (free : mode.isQuoted = false)
    (all : ∀ c ∈ lexis.hideFrom Mark.isComment mode text, idle c = true) :
    ∀ mark ∈ lexis.marksFrom mode text, mark.isQuoted = false := by
  induction text generalizing mode with
  | nil => simp [marksFrom]
  | cons c rest ih =>
      obtain ⟨head, later⟩ := mem_hideFrom_cons all
      rcases step_cases_of_free free c rest with ⟨starts, delimiter⟩ | ⟨comment, next⟩ | plain
      · have shown : idle c = true := head (by rw [starts]; rfl)
        simp [kind.delimiter c delimiter] at shown
      · intro mark member
        rcases List.mem_cons.1 member with rfl | behind
        · revert comment
          cases (lexis.step mode c rest).1 <;> simp [Mark.isComment, Mark.isQuoted]
        · exact ih next later mark behind
      · intro mark member
        rcases List.mem_cons.1 member with rfl | behind
        · rw [plain]
          rfl
        · exact ih (by rw [plain]; rfl) later mark behind

/-- The machine keeps sound through a part of a text. -/
theorem Lexis.modeThrough_sound {mode : Mode} {front back : List Char}
    (sound : mode.Sound (front ++ back)) : (lexis.modeThrough mode front back).Sound back := by
  induction front generalizing mode with
  | nil => exact sound
  | cons c rest ih => exact ih (step_sound sound)

/-- If the quoted tokens of a text are closed, the machine stands outside of all tokens behind the
last character that is shown and not idle. -/
theorem Lexis.outside_of_content {idle : Char → Bool} (kind : Idle idle) {front back : List Char}
    (closes : lexis.closes (front ++ back) = true)
    (last : ∀ d, (hide Mark.isComment (lexis.marksThrough .plain front back) front).getLast? =
      some d → idle d = false)
    (tail : ∀ d ∈ lexis.hideFrom Mark.isComment (lexis.modeThrough .plain front back) back,
      idle d = true) :
    lexis.modeThrough .plain front back = .plain := by
  have free : (lexis.modeThrough .plain front back).isQuoted = false := by
    cases quoted : (lexis.modeThrough .plain front back).isQuoted with
    | false => rfl
    | true =>
        have inside := isQuoted_of_idle kind (modeThrough_sound (Mode.sound_plain _)) quoted tail
        simp [Lexis.closes, modeAfter_append, inside] at closes
  rcases List.eq_nil_or_concat front with rfl | ⟨init, c, rfl⟩
  · rfl
  · rw [List.concat_eq_append] at *
    rw [modeThrough_append] at free ⊢
    refine plain_of_not_comment ?_ free
    cases comment : (lexis.step (lexis.modeThrough .plain init (c :: back)) c back).1.isComment with
    | false => exact comment
    | true =>
        have final : (hide Mark.isComment (lexis.marksThrough .plain (init ++ [c]) back)
            (init ++ [c])).getLast? = some (blank c) := by
          rw [marksThrough_append, hide_append (by simp)]
          simp [hide, marksThrough, comment]
        exact absurd (last (blank c) final) (by simp [kind.blank])

/-- A list is what is kept of it when a tail is dropped, and that tail. -/
theorem take_length_rdropWhile {idle : Char → Bool} (text : List Char) :
    text.take (text.rdropWhile idle).length = text.rdropWhile idle :=
  (List.prefix_iff_eq_take.1 (List.rdropWhile_prefix idle text)).symm

/-- The dropped tail is idle. -/
theorem idle_of_mem_drop {idle : Char → Bool} (text : List Char) {c : Char}
    (member : c ∈ text.drop (text.rdropWhile idle).length) : idle c = true := by
  have split : text.rdropWhile idle ++ text.rtakeWhile idle = text :=
    List.rdropWhile_append_rtakeWhile
  have tail : text.drop (text.rdropWhile idle).length = text.rtakeWhile idle := by
    nth_rewrite 2 [← split]
    exact List.drop_left
  rw [tail] at member
  exact List.mem_rtakeWhile_imp member

/-- The machine stands outside of all tokens where the content of a text ends. -/
theorem Lexis.outside_of_rdropWhile {idle : Char → Bool} (kind : Idle idle) {text : List Char}
    (closes : lexis.closes text = true) :
    lexis.modeThrough .plain (text.take ((lexis.commentMask text).rdropWhile idle).length)
      (text.drop ((lexis.commentMask text).rdropWhile idle).length) = .plain := by
  generalize length : ((lexis.commentMask text).rdropWhile idle).length = n
  have bound : n ≤ text.length := by
    rw [← length, ← lexis.length_commentMask text]
    exact (List.rdropWhile_prefix idle _).length_le
  have shown : lexis.commentMask text =
      hide Mark.isComment (lexis.marksThrough .plain (text.take n) (text.drop n)) (text.take n) ++
        lexis.hideFrom Mark.isComment (lexis.modeThrough .plain (text.take n) (text.drop n))
          (text.drop n) := by
    conv_lhs => rw [← List.take_append_drop n text]
    rw [commentMask, hideFrom_eq_hide, hideFrom_eq_hide, marksFrom_append, hide_append (by simp)]
  refine outside_of_content kind (by rwa [List.take_append_drop]) ?_ ?_
  · intro d final
    have kept : (lexis.commentMask text).rdropWhile idle =
        hide Mark.isComment (lexis.marksThrough .plain (text.take n) (text.drop n))
          (text.take n) := by
      rw [← take_length_rdropWhile, length, shown]
      exact List.take_left' (by simp [bound])
    rw [← kept] at final
    have some_kept : (lexis.commentMask text).rdropWhile idle ≠ [] := by
      intro none
      simp [none] at final
    have not_idle := List.rdropWhile_last_not idle (lexis.commentMask text) some_kept
    rw [List.getLast?_eq_some_getLast some_kept] at final
    cases final
    simpa using not_idle
  · intro d member
    refine idle_of_mem_drop (lexis.commentMask text) ?_
    rw [length]
    have tail : (lexis.commentMask text).drop n =
        lexis.hideFrom Mark.isComment (lexis.modeThrough .plain (text.take n) (text.drop n))
          (text.drop n) := by
      rw [shown]
      exact List.drop_left' (by simp [bound])
    rwa [tail]

/-- A plain mark outside of all tokens, or the line feed that ends a comment. -/
theorem Lexis.cases_of_plain_mark {mode : Mode} {c : Char} {rest : List Char}
    (plain : (lexis.step mode c rest).1 = .plain) :
    (mode = .plain ∧ lexis.step mode c rest = (.plain, .plain)) ∨ c = '\n' := by
  cases quoted : mode.isQuoted with
  | true =>
      rw [mark_of_isQuoted quoted] at plain
      cases plain
  | false =>
      rcases step_cases_of_free quoted c rest with ⟨starts, -⟩ | ⟨comment, -⟩ | step
      · rw [starts] at plain
        cases plain
      · rw [plain] at comment
        cases comment
      · cases mode with
        | plain => exact .inl ⟨rfl, step⟩
        | lineComment =>
            simp only [Lexis.step] at plain
            split_ifs at plain with feed
            exact .inr (beq_iff_eq.1 feed)
        | blockOpening => cases plain
        | blockComment =>
            simp only [Lexis.step] at plain
            split_ifs at plain
        | blockClosing => cases plain
        | quoted | escaped | tagOpening | tagged | tagClosing => cases quoted

/-- A character of the mask that is no blank stands for itself, and the machine stands outside of all
tokens before it and behind it. -/
theorem Lexis.outside_of_live {front back : List Char} {c d : Char}
    (live : (lexis.mask (front ++ c :: back))[front.length]? = some d)
    (shown : isBlank d = false) :
    d = c ∧ lexis.modeThrough .plain front (c :: back) = .plain ∧
      lexis.step .plain c back = (.plain, .plain) := by
  have here : (lexis.mask (front ++ c :: back))[front.length]? =
      some (if !(lexis.step (lexis.modeThrough .plain front (c :: back)) c back).1.isPlain then
        blank c else c) := by
    rw [mask, hideFrom_eq_hide, marksFrom_append, hide_append (by simp),
      List.getElem?_append_right (by simp)]
    simp [hide, marksFrom]
  rw [here] at live
  cases live
  cases plain : (lexis.step (lexis.modeThrough .plain front (c :: back)) c back).1.isPlain with
  | false => simp [plain, isBlank_blank] at shown
  | true =>
      have mark : (lexis.step (lexis.modeThrough .plain front (c :: back)) c back).1 = .plain := by
        revert plain
        cases (lexis.step (lexis.modeThrough .plain front (c :: back)) c back).1 <;>
          simp [Mark.isPlain]
      rcases cases_of_plain_mark mark with ⟨mode, step⟩ | feed
      · refine ⟨by simp, mode, ?_⟩
        rwa [mode] at step
      · rw [plain, feed] at shown
        exact absurd shown (by decide)

end QueryDesk.Sql
