/-
Module: QueryDesk.Proofs.Sql.Relexing
Purpose: Masks that are read again. What a mask hides is blank, so the machine reads on over it outside of
  all tokens; what it shows is read as before, because a blank completes no token that the text itself
  does not have. Hence the marks of a mask are those of the text with the hidden ones made plain, and
  the two masks of a text agree with each other and with themselves.
Imports: QueryDesk.Proofs.Sql.Cut
Main exports: IsDollarTag, dollarTag?_eq_some_iff, Hides, Lexis.marks_hideFrom, masks_of_masks
-/
import QueryDesk.Proofs.Sql.Cut

namespace QueryDesk.Sql

open QueryDesk.Text

variable {lexis : Lexis} {hidden : Mark → Bool}

/-- A dollar tag: two dollar signs with nothing or a name between them. -/
def IsDollarTag (tag : List Char) : Prop :=
  ∃ name, tag = '$' :: (name ++ ['$']) ∧ (∀ c ∈ name, isNameChar c = true) ∧
    ∀ c ∈ name.head?, isNameStart c = true

/-- A text has a dollar tag at its head exactly if it begins with one. -/
theorem dollarTag?_eq_some_iff {text tag : List Char} :
    dollarTag? text = some tag ↔ IsDollarTag tag ∧ tag <+: text := by
  constructor
  · intro found
    obtain ⟨rest, rfl, rfl, starts⟩ := eq_of_dollarTag? found
    refine ⟨⟨rest.takeWhile isNameChar, rfl, fun c member => List.mem_takeWhile_imp member, ?_⟩, starts⟩
    intro c first
    simp only [dollarTag?] at found
    split_ifs at found with opens
    cases name : rest.takeWhile isNameChar with
    | nil => simp [name] at first
    | cons d more =>
        rw [name] at first opens
        cases first
        simp only [Bool.and_eq_true] at opens
        exact opens.1
  · rintro ⟨⟨name, rfl, named, starts⟩, more, rfl⟩
    have read : (name ++ '$' :: more).takeWhile isNameChar = name := by
      rw [List.takeWhile_append_of_pos named]
      simp [show isNameChar '$' = false by decide]
    simp only [List.cons_append, List.append_assoc, List.nil_append, dollarTag?, read]
    cases name with
    | nil => simp
    | cons c rest => simp [starts c (by simp)]

/-- A dollar tag holds no blank. -/
theorem IsDollarTag.isBlank_eq_false {tag : List Char} (is_tag : IsDollarTag tag) :
    ∀ c ∈ tag, isBlank c = false := by
  obtain ⟨name, rfl, named, -⟩ := is_tag
  intro c member
  simp only [List.mem_cons, List.mem_append, List.not_mem_nil, or_false] at member
  rcases member with rfl | inside | rfl
  · decide
  · exact isBlank_eq_false_of_isWord (isWord_of_isNameChar (named c inside))
  · decide

/-- What a machine that began outside of all tokens waits for: a delimiter that closes quotes, or a
dollar tag. -/
def Mode.Formed : Mode → Prop
  | .quoted closing => isDelimiter closing = true
  | .escaped closing => isDelimiter closing = true
  | .tagOpening _ tag => IsDollarTag tag
  | .tagged tag => IsDollarTag tag
  | _ => True

/-- Each step keeps the machine formed. -/
theorem Lexis.step_formed {mode : Mode} (formed : mode.Formed) (c : Char) (rest : List Char) :
    (lexis.step mode c rest).2.Formed := by
  cases mode with
  | plain =>
      rcases lexis.stepPlain_cases c rest with
        same | same | ⟨tag, found, same⟩ | ⟨closing, opens, same⟩ | same <;> simp only [step, same]
      · trivial
      · trivial
      · exact (dollarTag?_eq_some_iff.1 found).1
      · rcases (closing?_eq_some opens).2 with mark | rfl
        · simp [Mode.Formed, isDelimiter, mark]
        · simp [Mode.Formed, isDelimiter]
      · trivial
  | lineComment =>
      simp only [step]
      split_ifs <;> trivial
  | blockComment =>
      simp only [step]
      split_ifs <;> trivial
  | blockOpening | blockClosing => trivial
  | quoted closing =>
      rcases lexis.stepQuoted_cases closing c rest with same | same | ⟨-, same⟩ <;>
        simp only [step, same]
      · exact formed
      · exact formed
      · trivial
  | escaped closing => exact formed
  | tagOpening left tag => cases left <;> exact formed
  | tagged tag =>
      simp only [step]
      split_ifs
      · trivial
      · exact formed
  | tagClosing left => cases left <;> trivial

/-! ### What a mask shows

Reading a mask, the machine stands where it stood in the text if that is shown, and else outside of all
tokens (`Mode.shownBy`). Whatever it looks at ahead is a piece without blanks, and a mask shows such a piece
only where the text has it. -/

/-- A choice of marks that are hidden: comments are, plain characters are not, and quoted tokens are
hidden as a whole or not at all. -/
structure Hides (hidden : Mark → Bool) : Prop where
  plain : hidden .plain = false
  comment : ∀ mark, mark.isComment = true → hidden mark = true
  quote : hidden .quoteStart = hidden .quote

theorem hides_isComment : Hides Mark.isComment where
  plain := rfl
  comment := fun _ comment => comment
  quote := rfl

theorem hides_not_isPlain : Hides (fun mark => !mark.isPlain) where
  plain := rfl
  comment := by intro mark comment; cases mark <;> first | rfl | cases comment
  quote := rfl

/-- The mark of a character in a mask that hides some of them. -/
def Mark.shownBy (hidden : Mark → Bool) (mark : Mark) : Mark :=
  if hidden mark then .plain else mark

/-- Where the machine stands when it reads such a mask. -/
def Mode.shownBy (hidden : Mark → Bool) (mode : Mode) : Mode :=
  if mode.isQuoted && !hidden .quote then mode else .plain

/-- What a mask begins with, if no blank is part of it, stands in the text itself. -/
theorem Lexis.prefix_of_hideFrom {part text : List Char} {mode : Mode}
    (solid : ∀ c ∈ part, isBlank c = false) (starts : part <+: lexis.hideFrom hidden mode text) :
    part <+: text := by
  induction part generalizing mode text with
  | nil => exact List.nil_prefix
  | cons d more ih =>
      cases text with
      | nil => simp [hideFrom] at starts
      | cons c rest =>
          rw [hideFrom, List.cons_prefix_cons] at starts
          have shown := solid d (by simp)
          rw [starts.1] at shown ⊢
          split_ifs at shown ⊢
          · rw [isBlank_blank] at shown
            cases shown
          · rw [List.cons_prefix_cons]
            exact ⟨rfl, ih (fun e member => solid e (by simp [member])) starts.2⟩

/-- A dollar tag is shown whole, or not at all. -/
theorem Lexis.CountsDown.prefix_hideFrom {inside : Nat → Mode} (counts : lexis.CountsDown inside)
    (shown : hidden .quote = false) {part text : List Char} {left : Nat} (short : part.length ≤ left + 1)
    (starts : part <+: text) : part <+: lexis.hideFrom hidden (inside left) text := by
  induction part generalizing left text with
  | nil => exact List.nil_prefix
  | cons d more ih =>
      obtain ⟨rest, rfl⟩ := starts
      rw [List.cons_append, hideFrom]
      cases left with
      | zero =>
          obtain rfl : more = [] := by simpa using short
          simp [counts.last, shown]
      | succ left =>
          simp only [counts.next, shown, List.cons_prefix_cons, Bool.false_eq_true, if_false, true_and]
          exact ih (by simpa using short) (List.prefix_append _ _)

/-- A single character that a mask begins with, if it is no blank, is that of the text. -/
theorem Lexis.head_of_hideFrom {text : List Char} {mode : Mode} {d : Char}
    (solid : isBlank d = false) (head : (lexis.hideFrom hidden mode text).head? = some d) :
    text.head? = some d := by
  have starts : [d] <+: lexis.hideFrom hidden mode text := by
    obtain ⟨more, same⟩ := List.head?_eq_some_iff.1 head
    simp [same]
  obtain ⟨more, rfl⟩ := lexis.prefix_of_hideFrom (by simpa using solid) starts
  rfl

/-! ### Steps on a mask

A hidden character is a blank and is stepped over outside of all tokens. For a shown one the step has to see
in the mask what it saw in the text: outside of all tokens the openers of comments and quotes and the dollar
tag, inside of quotes their closing. One step lemma says both, and the marks follow by induction. -/

/-- What a step from outside of all tokens looks at behind its character. -/
theorem Lexis.stepPlain_eq_of_heads {c : Char} {rest rest' : List Char}
    (dash : c = '-' → (rest'.head? == some '-') = (rest.head? == some '-'))
    (star : c = '/' → (rest'.head? == some '*') = (rest.head? == some '*'))
    (tag : c = '$' → lexis.dollarQuotes = true → dollarTag? ('$' :: rest') = dollarTag? ('$' :: rest)) :
    lexis.stepPlain c rest' = lexis.stepPlain c rest := by
  have dashes : (c == '-' && rest'.head? == some '-') = (c == '-' && rest.head? == some '-') := by
    by_cases same : c = '-'
    · rw [dash same]
    · rw [beq_eq_false_iff_ne.2 same, Bool.false_and, Bool.false_and]
  have stars : (c == '/' && rest'.head? == some '*') = (c == '/' && rest.head? == some '*') := by
    by_cases same : c = '/'
    · rw [star same]
    · rw [beq_eq_false_iff_ne.2 same, Bool.false_and, Bool.false_and]
  have tags : (if lexis.dollarQuotes then dollarTag? (c :: rest') else none) =
      if lexis.dollarQuotes then dollarTag? (c :: rest) else none := by
    by_cases same : c = '$'
    · subst same
      split_ifs with quotes
      · exact tag rfl quotes
      · rfl
    · simp [dollarTag?_eq_none_of_ne _ same]
  rw [stepPlain, dashes, stars, tags]
  rfl

/-- A shown character outside of all tokens is read in the mask as in the text. -/
theorem Lexis.stepPlain_hideFrom (kind : Hides hidden) {c : Char} {rest : List Char}
    (shown : hidden (lexis.stepPlain c rest).1 = false) :
    lexis.stepPlain c (lexis.hideFrom hidden (lexis.stepPlain c rest).2 rest) =
      lexis.stepPlain c rest := by
  have live : (lexis.stepPlain c rest).1.isComment = false := by
    cases comment : (lexis.stepPlain c rest).1.isComment with
    | false => rfl
    | true => simp [kind.comment _ comment] at shown
  apply stepPlain_eq_of_heads
  · rintro rfl
    have here : (rest.head? == some '-') = false := by
      cases head : rest.head? == some '-' with
      | false => rfl
      | true => simp [stepPlain, head, Mark.isComment] at live
    rw [here, beq_eq_false_iff_ne]
    intro head
    simp [lexis.head_of_hideFrom (by decide) head] at here
  · rintro rfl
    have here : (rest.head? == some '*') = false := by
      cases head : rest.head? == some '*' with
      | false => rfl
      | true => simp [stepPlain, head, Mark.isComment] at live
    rw [here, beq_eq_false_iff_ne]
    intro head
    simp [lexis.head_of_hideFrom (by decide) head] at here
  · rintro rfl quotes
    cases found : dollarTag? ('$' :: rest) with
    | some tag =>
        -- The whole tag belongs to the quoted token, so the mask shows all of it.
        have opens : lexis.stepPlain '$' rest = (.quoteStart, .tagOpening (tag.length - 2) tag) := by
          simp [stepPlain, quotes, found]
        obtain ⟨is_tag, starts⟩ := dollarTag?_eq_some_iff.1 found
        obtain ⟨name, rfl, -⟩ := id is_tag
        rw [opens, kind.quote] at shown
        rw [dollarTag?_eq_some_iff, opens]
        refine ⟨is_tag, List.cons_prefix_cons.2 ⟨rfl, ?_⟩⟩
        exact (lexis.countsDown_tagOpening _).prefix_hideFrom shown (by simp)
          (List.cons_prefix_cons.1 starts).2
    | none =>
        cases completed : dollarTag? ('$' :: lexis.hideFrom hidden (lexis.stepPlain '$' rest).2 rest) with
        | none => rfl
        | some tag =>
            obtain ⟨is_tag, starts⟩ := dollarTag?_eq_some_iff.1 completed
            obtain ⟨name, rfl, -⟩ := id is_tag
            have inside := prefix_of_hideFrom
              (fun d member => is_tag.isBlank_eq_false d (by simp [member]))
              (List.cons_prefix_cons.1 starts).2
            rw [dollarTag?_eq_some_iff.2 ⟨is_tag, List.cons_prefix_cons.2 ⟨rfl, inside⟩⟩] at found
            cases found

/-- A shown character inside of a quoted token is read in the mask as in the text. -/
theorem Lexis.step_hideFrom_of_isQuoted {mode : Mode} (formed : mode.Formed)
    (quoted : mode.isQuoted = true) (shown : hidden .quote = false) (c : Char) (rest : List Char) :
    lexis.step mode c (lexis.hideFrom hidden (lexis.step mode c rest).2 rest) =
      lexis.step mode c rest := by
  cases mode with
  | quoted closing =>
      have doubles : c = closing → closing ≠ ']' →
          ((lexis.hideFrom hidden (lexis.stepQuoted closing c rest).2 rest).head? == some closing) =
            (rest.head? == some closing) := by
        rintro rfl bracket
        rw [Bool.eq_iff_iff, beq_iff_eq, beq_iff_eq]
        constructor
        · intro head
          refine lexis.head_of_hideFrom ?_ head
          exact idle_isBlank.delimiter c formed
        · intro head
          obtain ⟨more, rfl⟩ := List.head?_eq_some_iff.1 head
          by_cases escape : lexis.backslashEscapes = true ∧ c = '\\'
          · simp [stepQuoted, escape, hideFrom, step, shown]
          · simp [stepQuoted, bracket, hideFrom, step, shown]
      simp only [step]
      generalize lexis.hideFrom hidden (lexis.stepQuoted closing c rest).2 rest = rest' at doubles
      unfold stepQuoted
      by_cases ends : c = closing
      · by_cases bracket : closing = ']'
        · simp [bracket]
        · rw [doubles ends bracket]
      · simp [ends]
  | escaped closing => rfl
  | tagOpening left tag => cases left <;> rfl
  | tagged tag =>
      have closes : tag.isPrefixOf (c :: lexis.hideFrom hidden (lexis.step (.tagged tag) c rest).2 rest) =
          tag.isPrefixOf (c :: rest) := by
        rw [Bool.eq_iff_iff, List.isPrefixOf_iff_prefix, List.isPrefixOf_iff_prefix]
        obtain ⟨name, rfl, -⟩ := id formed
        rw [List.cons_prefix_cons, List.cons_prefix_cons]
        constructor
        · rintro ⟨head, starts⟩
          exact ⟨head, prefix_of_hideFrom
            (fun d member => IsDollarTag.isBlank_eq_false formed d (by simp [member])) starts⟩
        · rintro ⟨rfl, starts⟩
          refine ⟨rfl, ?_⟩
          have ends : lexis.step (.tagged ('$' :: (name ++ ['$']))) '$' rest =
              (.quote, .tagClosing name.length) := by
            simp [step, starts]
          rw [ends]
          exact lexis.countsDown_tagClosing.prefix_hideFrom shown (by simp) starts
      generalize lexis.hideFrom hidden (lexis.step (.tagged tag) c rest).2 rest = rest' at closes ⊢
      simp only [step, closes]
  | tagClosing left => cases left <;> rfl
  | plain | lineComment | blockOpening | blockComment | blockClosing => cases quoted

/-- A blank is read as a plain character outside of all tokens. -/
theorem Lexis.step_plain_blank (lexis : Lexis) (c : Char) (rest : List Char) :
    lexis.step .plain (blank c) rest = (.plain, .plain) :=
  lexis.stepPlain_of_calm (isCalm_of_isBlank (isBlank_blank c)) rest

/-- Behind a hidden character the machine stands where a mask shows it outside of all tokens, and so it
did before. -/
theorem Lexis.shownBy_of_hidden (kind : Hides hidden) {mode : Mode} {c : Char} {rest : List Char}
    (hides : hidden (lexis.step mode c rest).1 = true) :
    mode.shownBy hidden = .plain ∧ (lexis.step mode c rest).2.shownBy hidden = .plain := by
  cases quote : hidden .quote with
  | true => simp [Mode.shownBy, quote]
  | false =>
      cases quoted : mode.isQuoted with
      | true =>
          rw [mark_of_isQuoted quoted, quote] at hides
          cases hides
      | false =>
          refine ⟨by simp [Mode.shownBy, quoted], ?_⟩
          rcases step_cases_of_free quoted c rest with ⟨starts, -⟩ | ⟨-, free⟩ | plain
          · rw [starts, kind.quote, quote] at hides
            cases hides
          · simp [Mode.shownBy, free]
          · rw [plain, kind.plain] at hides
            cases hides

/-- A step on a mask: the mark of the text with hidden ones made plain, and the machine where the
mask shows it. -/
theorem Lexis.step_hideFrom (kind : Hides hidden) {mode : Mode} (formed : mode.Formed) (c : Char)
    (rest : List Char) :
    lexis.step (mode.shownBy hidden) (if hidden (lexis.step mode c rest).1 then blank c else c)
        (lexis.hideFrom hidden (lexis.step mode c rest).2 rest) =
      ((lexis.step mode c rest).1.shownBy hidden, (lexis.step mode c rest).2.shownBy hidden) := by
  cases hides : hidden (lexis.step mode c rest).1 with
  | true =>
      obtain ⟨before, behind⟩ := shownBy_of_hidden kind hides
      rw [if_pos rfl, before, behind, step_plain_blank, Mark.shownBy, if_pos hides]
  | false =>
      rw [if_neg (by simp), Mark.shownBy, hides, if_neg (by simp)]
      have live : (lexis.step mode c rest).1.isComment = false := by
        cases comment : (lexis.step mode c rest).1.isComment with
        | false => rfl
        | true => simp [kind.comment _ comment] at hides
      -- Behind a shown character the machine is quoted or outside, and the mask shows both as they are.
      have behind : hidden .quote = false ∨ (lexis.step mode c rest).2.isQuoted = false →
          (lexis.step mode c rest).2.shownBy hidden = (lexis.step mode c rest).2 := by
        intro open_quotes
        cases quoted : (lexis.step mode c rest).2.isQuoted with
        | false => rw [plain_of_not_comment live quoted]; simp [Mode.shownBy, Mode.isQuoted]
        | true =>
            rw [quoted] at open_quotes
            simp [Mode.shownBy, quoted, open_quotes.resolve_right (by simp)]
      cases quoted : mode.isQuoted with
      | true =>
          rw [mark_of_isQuoted quoted] at hides
          rw [behind (.inl hides), show mode.shownBy hidden = mode by simp [Mode.shownBy, quoted, hides]]
          exact step_hideFrom_of_isQuoted formed quoted hides c rest
      | false =>
          rw [show mode.shownBy hidden = .plain by simp [Mode.shownBy, quoted]]
          by_cases outside : mode = .plain
          · subst outside
            have next : hidden .quote = false ∨ (lexis.step .plain c rest).2.isQuoted = false := by
              rcases step_cases_of_free quoted c rest with ⟨starts, -⟩ | ⟨comment, -⟩ | plain
              · rw [starts, kind.quote] at hides
                exact .inl hides
              · rw [live] at comment
                cases comment
              · exact .inr (by rw [plain]; rfl)
            rw [behind next]
            exact stepPlain_hideFrom kind hides
          · -- The machine leaves a comment by the line feed behind it.
            rcases step_cases_of_free quoted c rest with ⟨starts, -⟩ | ⟨comment, -⟩ | plain
            · cases mode with
              | plain => exact absurd rfl outside
              | lineComment =>
                  simp only [step] at starts
                  split_ifs at starts
              | blockOpening | blockClosing => cases starts
              | blockComment =>
                  simp only [step] at starts
                  split_ifs at starts
              | quoted | escaped | tagOpening | tagged | tagClosing => cases quoted
            · rw [live] at comment
              cases comment
            · rcases cases_of_plain_mark (congrArg Prod.fst plain) with ⟨same, -⟩ | rfl
              · exact absurd same outside
              · rw [behind (.inr (by rw [plain]; rfl)), plain]
                exact lexis.step_plain_blank '\n' _

/-- The marks of a mask are those of the text with the hidden ones made plain. -/
theorem Lexis.marksFrom_hideFrom (kind : Hides hidden) (mode : Mode) (formed : mode.Formed)
    (text : List Char) :
    lexis.marksFrom (mode.shownBy hidden) (lexis.hideFrom hidden mode text) =
      (lexis.marksFrom mode text).map (Mark.shownBy hidden) := by
  induction text generalizing mode with
  | nil => rfl
  | cons c rest ih =>
      rw [hideFrom, marksFrom, step_hideFrom kind formed, ih _ (step_formed formed c rest), marksFrom,
        List.map_cons]

/-- The marks of a mask of a whole text. -/
theorem Lexis.marks_hideFrom (kind : Hides hidden) (text : List Char) :
    lexis.marks (lexis.hideFrom hidden .plain text) = (lexis.marks text).map (Mark.shownBy hidden) :=
  marksFrom_hideFrom kind .plain trivial text

/-- The mask of a text is read as plain characters only. -/
theorem Lexis.marks_mask (lexis : Lexis) (text : List Char) :
    lexis.marks (lexis.mask text) = List.replicate text.length .plain := by
  rw [mask, marks_hideFrom hides_not_isPlain, List.eq_replicate_iff]
  refine ⟨by simp [marks], ?_⟩
  intro mark member
  obtain ⟨before, -, rfl⟩ := List.mem_map.1 member
  cases before <;> rfl

/-- The quoted tokens of a comment mask are those of the text, and its other characters are plain. -/
theorem Lexis.marks_commentMask (lexis : Lexis) (text : List Char) :
    lexis.marks (lexis.commentMask text) = (lexis.marks text).map (Mark.shownBy Mark.isComment) :=
  marks_hideFrom hides_isComment text

/-! ### Masks of masks

Both masks lay the marks of the text over it. With the marks of a mask at hand, hiding twice is hiding once,
and the equations are read off the marks that either time hides. -/

/-- What shows as no space stands in the text; if it is hidden, it is a line feed. -/
theorem exists_of_getElem?_hide {marks : List Mark} {text : List Char} {i : Nat} {c : Char}
    (found : (hide hidden marks text)[i]? = some c) (solid : c ≠ ' ') :
    ∃ mark, marks[i]? = some mark ∧ text[i]? = some c ∧ (hidden mark = true → c = '\n') := by
  rw [getElem?_hide] at found
  cases place : marks[i]? with
  | none => simp [place] at found
  | some mark =>
      cases here : text[i]? with
      | none => simp [place, here] at found
      | some d =>
          simp only [place, here, Option.some.injEq, blank, beq_iff_eq] at found
          refine ⟨mark, rfl, ?_⟩
          split_ifs at found with hides feed
          · exact ⟨by rw [feed, found], fun _ => found.symm⟩
          · exact absurd found.symm solid
          · exact ⟨by rw [found], fun hidden => absurd hidden hides⟩

theorem blank_blank (c : Char) : blank (blank c) = blank c := by
  unfold blank
  split_ifs with feed <;> simp_all

/-- Hiding twice, where the second time the hidden marks are plain, hides what either time hides. -/
theorem hide_hide {second both : Mark → Bool}
    (same : ∀ mark, both mark = (hidden mark || second (mark.shownBy hidden)))
    (marks : List Mark) (text : List Char) :
    hide second (marks.map (Mark.shownBy hidden)) (hide hidden marks text) = hide both marks text := by
  rw [hide, hide, hide, List.zipWith_map_left]
  induction marks generalizing text with
  | nil => rfl
  | cons mark more ih =>
      cases text with
      | nil => rfl
      | cons c rest =>
          simp only [List.zipWith_cons_cons, ih, same mark]
          cases hides : hidden mark <;> cases again : second (mark.shownBy hidden) <;>
            simp [blank_blank]

/-- A mask of a mask is the mask that hides what either of them hides. -/
theorem Lexis.hideFrom_hideFrom {second both : Mark → Bool} (kind : Hides hidden)
    (same : ∀ mark, both mark = (hidden mark || second (mark.shownBy hidden))) (text : List Char) :
    lexis.hideFrom second .plain (lexis.hideFrom hidden .plain text) =
      lexis.hideFrom both .plain text := by
  have marks := lexis.marks_hideFrom kind text
  rw [Lexis.marks, Lexis.marks] at marks
  rw [hideFrom_eq_hide second, marks, hideFrom_eq_hide hidden, hide_hide same, hideFrom_eq_hide]

/-- The two masks of a text lay one list of marks over it. Reading a mask again hides nothing more:
either mask of the mask is the mask, the comment mask of the comment mask is itself, and its mask is
that of the text. All that a mask shows stands in the comment mask and in the text. -/
theorem masks_of_masks (lexis : Lexis) (text : List Char) :
    lexis.mask (lexis.mask text) = lexis.mask text ∧
      lexis.commentMask (lexis.commentMask text) = lexis.commentMask text ∧
      lexis.mask (lexis.commentMask text) = lexis.mask text ∧
      lexis.commentMask (lexis.mask text) = lexis.mask text ∧
      lexis.mask text = hide (fun mark => !mark.isPlain) (lexis.marks text) text ∧
      lexis.commentMask text = hide Mark.isComment (lexis.marks text) text ∧
      lexis.marks (lexis.mask text) = List.replicate text.length .plain ∧
      lexis.marks (lexis.commentMask text) = (lexis.marks text).map (Mark.shownBy Mark.isComment) ∧
      ∀ (i : Nat) (c : Char), (lexis.mask text)[i]? = some c → c ≠ ' ' →
        (lexis.commentMask text)[i]? = some c ∧ text[i]? = some c := by
  have whole : lexis.mask text = hide (fun mark => !mark.isPlain) (lexis.marks text) text :=
    lexis.hideFrom_eq_hide _ _ _
  have part : lexis.commentMask text = hide Mark.isComment (lexis.marks text) text :=
    lexis.hideFrom_eq_hide _ _ _
  refine ⟨?_, ?_, ?_, ?_, whole, part, lexis.marks_mask text, lexis.marks_commentMask text, ?_⟩
  · exact lexis.hideFrom_hideFrom hides_not_isPlain (by intro mark; cases mark <;> rfl) text
  · exact lexis.hideFrom_hideFrom hides_isComment (by intro mark; cases mark <;> rfl) text
  · exact lexis.hideFrom_hideFrom hides_isComment (by intro mark; cases mark <;> rfl) text
  · exact lexis.hideFrom_hideFrom hides_not_isPlain (by intro mark; cases mark <;> rfl) text
  · intro i c found solid
    rw [whole] at found
    obtain ⟨mark, place, here, feed⟩ := exists_of_getElem?_hide found solid
    refine ⟨?_, here⟩
    rw [part, getElem?_hide, place, here]
    cases mark with
    | plain | quoteStart | quote => rfl
    | commentStart | comment =>
        rw [feed rfl]
        rfl

end QueryDesk.Sql
