/-
Module: QueryDesk.Proofs.Sql.Masking
Purpose: What a mask leaves of a text. Every character stays at its place or becomes a space, and line
  feeds stay. Nothing in a mask opens a quoted token or a comment, and all that a comment mask
  changes stands inside of a comment, which is a stretch of the text from an opening to the end that
  belongs to it.
Imports: QueryDesk.Proofs.Sql.Relexing
Main exports: KeepsPlaces, OpenerFree, openerFree_of_marks, IsComment, Lexis.InComment,
  Lexis.inComment_of_mark, masks_keep_places
-/
import QueryDesk.Proofs.Sql.Relexing

namespace QueryDesk.Sql

open QueryDesk.Text

variable {lexis : Lexis} {hidden : Mark → Bool}

/-- A copy of a text in which every character stays or becomes a space, and the line feeds are where
they were. -/
structure KeepsPlaces (masked text : List Char) : Prop where
  length_eq : masked.length = text.length
  shown : ∀ (i : Nat) (c : Char), masked[i]? = some c → c = ' ' ∨ text[i]? = some c
  lineFeed : ∀ i : Nat, masked[i]? = some '\n' ↔ text[i]? = some '\n'

theorem keepsPlaces_hideFrom (lexis : Lexis) (hidden : Mark → Bool) (text : List Char) :
    KeepsPlaces (lexis.hideFrom hidden .plain text) text where
  length_eq := lexis.length_hideFrom hidden .plain text
  shown := by
    intro i c found
    by_cases space : c = ' '
    · exact .inl space
    · rw [Lexis.hideFrom_eq_hide] at found
      obtain ⟨mark, -, here, -⟩ := exists_of_getElem?_hide found space
      exact .inr here
  lineFeed := by
    intro i
    rw [Lexis.hideFrom_eq_hide]
    constructor
    · intro found
      obtain ⟨mark, -, here, -⟩ := exists_of_getElem?_hide found (by decide)
      exact here
    · intro here
      have inside : i < (lexis.marksFrom .plain text).length := by
        rw [Lexis.length_marksFrom]
        exact (List.getElem?_eq_some_iff.1 here).1
      rw [getElem?_hide, here, List.getElem?_eq_getElem inside]
      dsimp only
      split_ifs <;> rfl

/-- A text in which nothing opens a quoted token or a comment: no quote, no two dashes, no slash with a
star, and none of the openers that a dialect adds. -/
structure OpenerFree (lexis : Lexis) (text : List Char) : Prop where
  quote : ∀ c ∈ text, isQuoteMark c = false
  dashes : ¬ ['-', '-'] <:+: text
  slashStar : ¬ ['/', '*'] <:+: text
  hash : lexis.hashComments = true → '#' ∉ text
  bracket : lexis.bracketIdentifiers = true → '[' ∉ text
  dollarTag : lexis.dollarQuotes = true → ∀ tag, IsDollarTag tag → ¬ tag <:+: text

/-- In a text of plain marks the machine never leaves the outside of all tokens. -/
theorem Lexis.stepPlain_of_marks {front rest : List Char} {c : Char}
    (plain : ∀ mark ∈ lexis.marks (front ++ c :: rest), mark = .plain) :
    lexis.stepPlain c rest = (.plain, .plain) := by
  induction front with
  | nil =>
      have head : (lexis.stepPlain c rest).1 = .plain := plain _ (by simp [marks, marksFrom, step])
      rcases lexis.stepPlain_cases c rest with
        same | same | ⟨tag, -, same⟩ | ⟨closing, -, same⟩ | same
      · rw [same] at head
        cases head
      · rw [same] at head
        cases head
      · rw [same] at head
        cases head
      · rw [same] at head
        cases head
      · exact same
  | cons d more ih =>
      refine ih fun mark member => plain mark ?_
      have head : lexis.step .plain d (more ++ c :: rest) = (.plain, .plain) := by
        have first := plain (lexis.step .plain d (more ++ c :: rest)).1 (by simp [marks, marksFrom])
        rcases lexis.stepPlain_cases d (more ++ c :: rest) with
          same | same | ⟨tag, -, same⟩ | ⟨closing, -, same⟩ | same <;> rw [step, same] at first ⊢ <;>
          cases first
      rw [marks, List.cons_append, marksFrom, head]
      exact List.mem_cons_of_mem _ member

/-- A text of plain marks opens nothing. -/
theorem openerFree_of_marks {text : List Char} (plain : ∀ mark ∈ lexis.marks text, mark = .plain) :
    OpenerFree lexis text := by
  have outside : ∀ (front : List Char) (c : Char) (rest : List Char), text = front ++ c :: rest →
      ((c == '-' && rest.head? == some '-') || (lexis.hashComments && c == '#')) = false ∧
        (c == '/' && rest.head? == some '*') = false ∧
        (if lexis.dollarQuotes then dollarTag? (c :: rest) else none) = none ∧
        lexis.closing? c = none := by
    rintro front c rest rfl
    exact Lexis.stepPlain_eq_plain_iff.1 (by rw [Lexis.stepPlain_of_marks plain])
  constructor
  case quote =>
    intro c member
    obtain ⟨front, rest, split⟩ := List.append_of_mem member
    have quote := (outside front _ rest split).2.2.2
    cases mark : isQuoteMark c with
    | false => rfl
    | true =>
        have opens : (c == '\x27' || c == '\x22' || c == '\x60') = true := mark
        simp [Lexis.closing?, opens] at quote
  case dashes =>
    rintro ⟨front, rest, split⟩
    have dash := (outside front '-' ('-' :: rest) (by simp [← split])).1
    simp at dash
  case slashStar =>
    rintro ⟨front, rest, split⟩
    have slash := (outside front '/' ('*' :: rest) (by simp [← split])).2.1
    simp at slash
  case hash =>
    intro comments member
    obtain ⟨front, rest, split⟩ := List.append_of_mem member
    have hash := (outside front _ rest split).1
    simp [comments] at hash
  case bracket =>
    intro names member
    obtain ⟨front, rest, split⟩ := List.append_of_mem member
    have bracket := (outside front _ rest split).2.2.2
    simp [Lexis.closing?, names] at bracket
  case dollarTag =>
    rintro quotes tag is_tag ⟨front, rest, split⟩
    obtain ⟨name, rfl, -⟩ := id is_tag
    have none := (outside front '$' (name ++ ['$'] ++ rest) (by simp [← split])).2.2.1
    have found := dollarTag?_eq_some_iff.2 ⟨is_tag, List.prefix_append _ rest⟩
    rw [List.cons_append] at found
    rw [if_pos quotes, found] at none
    cases none

/-! ### Comments

`IsComment` says what a comment is without the machine. The machine is tied to it from behind: in every mode
inside of a comment there is a rest of it ahead, and a step puts one character before such a rest. -/

/-- A comment and what follows it: from two dashes (or a number sign, where that begins one) to before
the next line feed, or from a slash with a star to the first star with a slash. At the end of the text
either may be open. -/
inductive IsComment (lexis : Lexis) : List Char → List Char → Prop where
  | dashes (body after : List Char) (inLine : '\n' ∉ body) (ends : ∀ c ∈ after.head?, c = '\n') :
    IsComment lexis ('-' :: '-' :: body) after
  | hash (body after : List Char) (begins : lexis.hashComments = true) (inLine : '\n' ∉ body)
    (ends : ∀ c ∈ after.head?, c = '\n') : IsComment lexis ('#' :: body) after
  | block (body after : List Char) (first : ¬ ['*', '/'] <:+: body ++ ['*']) :
    IsComment lexis ('/' :: '*' :: (body ++ ['*', '/'])) after
  | openBlock (body : List Char) (unclosed : ¬ ['*', '/'] <:+: body) : IsComment lexis ('/' :: '*' :: body) []

/-- A position inside of a comment of a text that is read from a mode. -/
def Lexis.InCommentFrom (lexis : Lexis) (mode : Mode) (text : List Char) (position : Nat) : Prop :=
  ∃ front comment after, text = front ++ (comment ++ after) ∧
    lexis.modeThrough mode front (comment ++ after) = .plain ∧ IsComment lexis comment after ∧
      front.length ≤ position ∧ position < front.length + comment.length

/-- A position inside of a comment of a text. -/
def Lexis.InComment (lexis : Lexis) (text : List Char) (position : Nat) : Prop :=
  lexis.InCommentFrom .plain text position

/-- The rest of a block comment and what follows it. -/
def IsBlockRest (part after : List Char) : Prop :=
  (∃ body, part = body ++ ['*', '/'] ∧ ¬ ['*', '/'] <:+: body ++ ['*']) ∨
    (after = [] ∧ ¬ ['*', '/'] <:+: part)

/-- What is left of the comment in which the machine stands, and what follows it. -/
def Mode.CommentRest : Mode → List Char → List Char → Prop
  | .lineComment, part, after => '\n' ∉ part ∧ ∀ c ∈ after.head?, c = '\n'
  | .blockOpening, part, after => ∃ body, part = '*' :: body ∧ IsBlockRest body after
  | .blockComment, part, after => IsBlockRest part after
  | .blockClosing, part, _ => part = ['/']
  | _, _, _ => False

/-- What the machine has seen of a delimiter of two characters when it stands between them. -/
def Mode.Halfway : Mode → List Char → Prop
  | .blockOpening, text => text.head? = some '*'
  | .blockClosing, text => text.head? = some '/'
  | _, _ => True

/-- Each step of the machine sees such a delimiter. -/
theorem Lexis.step_halfway (lexis : Lexis) (mode : Mode) (c : Char) (rest : List Char) :
    (lexis.step mode c rest).2.Halfway rest := by
  cases mode with
  | plain =>
      simp only [step, stepPlain]
      split_ifs with line block dollar
      · trivial
      · simp only [Bool.and_eq_true, beq_iff_eq] at block
        exact block.2
      · cases dollarTag? (c :: rest) with
        | some tag => trivial
        | none => cases lexis.closing? c <;> trivial
      · cases lexis.closing? c <;> trivial
  | lineComment =>
      simp only [step]
      split_ifs <;> trivial
  | blockComment =>
      simp only [step]
      split_ifs with closes
      · simp only [Bool.and_eq_true, beq_iff_eq] at closes
        exact closes.2
      · trivial
  | quoted closing =>
      rcases lexis.stepQuoted_cases closing c rest with same | same | ⟨-, same⟩ <;>
        simp only [step, same] <;> trivial
  | tagged tag =>
      simp only [step]
      split_ifs <;> trivial
  | tagOpening left tag => cases left <;> trivial
  | tagClosing left => cases left <;> trivial
  | blockOpening | blockClosing | escaped => trivial

/-- A character before the rest of a block comment, if it does not close the comment with the next
one. -/
theorem IsBlockRest.cons {c : Char} {part after : List Char} (rest : IsBlockRest part after)
    (goes_on : ¬ (c = '*' ∧ (part ++ after).head? = some '/')) : IsBlockRest (c :: part) after := by
  rcases rest with ⟨body, rfl, first⟩ | ⟨rfl, none⟩
  · refine .inl ⟨c :: body, rfl, ?_⟩
    rw [List.cons_append, List.infix_cons_iff]
    rintro (⟨more, starts⟩ | inside)
    · simp only [List.cons_append, List.nil_append, List.cons.injEq] at starts
      refine goes_on ⟨starts.1.symm, ?_⟩
      cases body with
      | nil => simp at starts
      | cons d more' =>
          simp only [List.cons_append, List.cons.injEq] at starts
          simp [← starts.2.1]
    · exact first inside
  · refine .inr ⟨rfl, ?_⟩
    rw [List.infix_cons_iff]
    rintro (⟨more, starts⟩ | inside)
    · simp only [List.cons_append, List.nil_append, List.cons.injEq] at starts
      exact goes_on ⟨starts.1.symm, by simp [← starts.2]⟩
    · exact none inside

/-- A character before the rest of a comment belongs to the comment, or begins it. -/
theorem Lexis.commentRest_cons {mode : Mode} {c : Char} {part after : List Char}
    (halfway : mode.Halfway (c :: (part ++ after)))
    (rest : (lexis.step mode c (part ++ after)).2.CommentRest part after) :
    (mode = .plain ∧ IsComment lexis (c :: part) after) ∨ mode.CommentRest (c :: part) after := by
  cases mode with
  | plain =>
      refine .inl ⟨rfl, ?_⟩
      simp only [step, stepPlain] at rest
      split_ifs at rest with line block dollar
      · obtain ⟨inLine, ends⟩ := rest
        simp only [Bool.or_eq_true, Bool.and_eq_true, beq_iff_eq] at line
        rcases line with ⟨rfl, dash⟩ | ⟨begins, rfl⟩
        · cases part with
          | nil => exact absurd (ends '-' dash) (by decide)
          | cons d body =>
              obtain rfl : d = '-' := by simpa using dash
              exact .dashes body after (fun member => inLine (List.mem_cons_of_mem _ member)) ends
        · exact .hash part after begins inLine ends
      · simp only [Bool.and_eq_true, beq_iff_eq] at block
        obtain ⟨rfl, -⟩ := block
        obtain ⟨body, rfl, ⟨inner, rfl, first⟩ | ⟨rfl, unclosed⟩⟩ := rest
        · exact .block inner after first
        · exact .openBlock body unclosed
      · cases found : dollarTag? (c :: (part ++ after)) with
        | some tag =>
            rw [found] at rest
            cases rest
        | none =>
            rw [found] at rest
            cases opens : lexis.closing? c <;> rw [opens] at rest <;> cases rest
      · cases opens : lexis.closing? c <;> rw [opens] at rest <;> cases rest
  | lineComment =>
      simp only [step, beq_iff_eq] at rest
      split_ifs at rest with feed
      · cases rest
      · exact .inr ⟨by simpa [Ne.symm feed] using rest.1, rest.2⟩
  | blockOpening =>
      obtain rfl : c = '*' := by simpa [Mode.Halfway] using halfway
      exact .inr ⟨part, rfl, rest⟩
  | blockComment =>
      simp only [step] at rest
      split_ifs at rest with closes
      · simp only [Bool.and_eq_true, beq_iff_eq] at closes
        obtain ⟨rfl, -⟩ := closes
        obtain rfl : part = ['/'] := rest
        exact .inr (.inl ⟨[], rfl, by decide⟩)
      · refine .inr (IsBlockRest.cons rest ?_)
        simpa using closes
  | blockClosing => cases rest
  | quoted closing =>
      rcases lexis.stepQuoted_cases closing c (part ++ after) with same | same | ⟨-, same⟩ <;>
        rw [step, same] at rest <;> cases rest
  | escaped closing => cases rest
  | tagOpening left tag => cases left <;> cases rest
  | tagged tag =>
      simp only [step] at rest
      split_ifs at rest <;> cases rest
  | tagClosing left => cases left <;> cases rest

/-- Whether the machine stands inside of a comment. -/
def Mode.isComment : Mode → Bool
  | .lineComment => true
  | .blockOpening => true
  | .blockComment => true
  | .blockClosing => true
  | _ => false

/-- Behind a character of a comment the machine stands inside of it, or has read its last character. -/
theorem Lexis.isComment_behind {mode : Mode} {c : Char} {rest : List Char}
    (comment : (lexis.step mode c rest).1.isComment = true) :
    (lexis.step mode c rest).2.isComment = true ∨ mode = .blockClosing := by
  cases mode with
  | plain =>
      rcases lexis.stepPlain_cases c rest with
        same | same | ⟨tag, -, same⟩ | ⟨closing, -, same⟩ | same <;> rw [step, same] at comment ⊢
      · exact .inl rfl
      · exact .inl rfl
      · cases comment
      · cases comment
      · cases comment
  | lineComment =>
      simp only [step] at comment ⊢
      split_ifs at comment ⊢
      · cases comment
      · exact .inl rfl
  | blockComment =>
      simp only [step]
      split_ifs <;> exact .inl rfl
  | blockOpening => exact .inl rfl
  | blockClosing => exact .inr rfl
  | quoted | escaped | tagOpening | tagged | tagClosing =>
      rw [mark_of_isQuoted rfl] at comment
      cases comment

/-- Inside of a comment the machine has the rest of it before it. -/
theorem Lexis.exists_commentRest (lexis : Lexis) {mode : Mode} {text : List Char}
    (comment : mode.isComment = true) (halfway : mode.Halfway text) :
    ∃ part after, text = part ++ after ∧ mode.CommentRest part after := by
  induction text generalizing mode with
  | nil =>
      refine ⟨[], [], rfl, ?_⟩
      cases mode with
      | lineComment => exact ⟨by simp, by simp⟩
      | blockComment => exact .inr ⟨rfl, by simp⟩
      | blockOpening | blockClosing => cases halfway
      | plain | quoted | escaped | tagOpening | tagged | tagClosing => cases comment
  | cons c rest ih =>
      have goes_on : (lexis.step mode c rest).2.isComment = true →
          ∃ part after, c :: rest = part ++ after ∧ mode.CommentRest part after := by
        intro behind
        obtain ⟨part, after, rfl, tail⟩ := ih behind (lexis.step_halfway mode c rest)
        rcases commentRest_cons halfway tail with ⟨rfl, -⟩ | here
        · cases comment
        · exact ⟨c :: part, after, rfl, here⟩
      cases mode with
      | lineComment =>
          by_cases feed : c = '\n'
          · exact ⟨[], c :: rest, rfl, by simp, by simp [feed]⟩
          · exact goes_on (by simp [step, feed, Mode.isComment])
      | blockOpening => exact goes_on rfl
      | blockComment =>
          refine goes_on ?_
          simp only [step]
          split_ifs <;> rfl
      | blockClosing =>
          obtain rfl : c = '/' := by simpa [Mode.Halfway] using halfway
          exact ⟨['/'], rest, rfl, rfl⟩
      | plain | quoted | escaped | tagOpening | tagged | tagClosing => cases comment

/-- A character with the mark of a comment belongs to the comment in which the machine stands, or to one
that begins later. -/
theorem Lexis.inComment_of_marksFrom {mode : Mode} {text : List Char} {i : Nat} {mark : Mark}
    (halfway : mode.Halfway text) (found : (lexis.marksFrom mode text)[i]? = some mark)
    (comment : mark.isComment = true) :
    lexis.InCommentFrom mode text i ∨
      ∃ part after, text = part ++ after ∧ mode.CommentRest part after ∧ i < part.length := by
  induction text generalizing mode i with
  | nil => simp [marksFrom] at found
  | cons c rest ih =>
      -- Both a comment that begins here and one that goes on have their rest behind this character.
      have joined : ∀ part after, rest = part ++ after →
          (lexis.step mode c rest).2.CommentRest part after → i ≤ part.length →
          lexis.InCommentFrom mode (c :: rest) i ∨
            ∃ part after, c :: rest = part ++ after ∧ mode.CommentRest part after ∧ i < part.length := by
        rintro part after rfl tail inside
        rcases commentRest_cons halfway tail with ⟨rfl, whole⟩ | here
        · exact .inl ⟨[], c :: part, after, rfl, rfl, whole, Nat.zero_le _,
            by simpa [Nat.lt_succ_iff] using inside⟩
        · exact .inr ⟨c :: part, after, rfl, here, Nat.lt_succ_of_le inside⟩
      cases i with
      | zero =>
          obtain rfl : (lexis.step mode c rest).1 = mark := by simpa [marksFrom] using found
          rcases isComment_behind comment with behind | rfl
          · obtain ⟨part, after, split, tail⟩ :=
              lexis.exists_commentRest behind (lexis.step_halfway mode c rest)
            exact joined part after split tail (Nat.zero_le _)
          · obtain rfl : c = '/' := by simpa [Mode.Halfway] using halfway
            exact .inr ⟨['/'], rest, rfl, rfl, by simp⟩
      | succ j =>
          rcases ih (lexis.step_halfway mode c rest) (by simpa [marksFrom] using found) with
            ⟨front, inner, after, rfl, outside, whole, low, high⟩ | ⟨part, after, split, tail, inside⟩
          · refine .inl ⟨c :: front, inner, after, rfl, outside, whole, ?_, ?_⟩
            · simpa using low
            · simpa [Nat.add_right_comm] using high
          · exact joined part after split tail inside

/-- A character with the mark of a comment is inside of a comment. -/
theorem Lexis.inComment_of_mark {text : List Char} {i : Nat} {mark : Mark}
    (found : (lexis.marks text)[i]? = some mark) (comment : mark.isComment = true) :
    lexis.InComment text i := by
  have outside : Mode.plain.Halfway text := trivial
  rcases inComment_of_marksFrom outside found comment with inside | ⟨part, after, -, rest, -⟩
  · exact inside
  · cases rest

/-- Both masks keep every character at its place or make it a space, and keep the line feeds. Nothing in
the mask opens a quoted token or a comment, and where the comment mask differs from the text, the text
has a comment. -/
theorem masks_keep_places (lexis : Lexis) (text : List Char) :
    KeepsPlaces (lexis.mask text) text ∧ KeepsPlaces (lexis.commentMask text) text ∧
      OpenerFree lexis (lexis.mask text) ∧
      ∀ i : Nat, (lexis.commentMask text)[i]? ≠ text[i]? → lexis.InComment text i := by
  refine ⟨keepsPlaces_hideFrom lexis _ text, keepsPlaces_hideFrom lexis _ text, ?_, ?_⟩
  · apply openerFree_of_marks
    rw [lexis.marks_mask]
    exact fun mark member => List.eq_of_mem_replicate member
  · intro i differs
    rw [Lexis.commentMask, Lexis.hideFrom_eq_hide, getElem?_hide] at differs
    cases here : text[i]? with
    | none =>
        rw [here] at differs
        refine absurd ?_ differs
        cases (lexis.marksFrom .plain text)[i]? <;> rfl
    | some c =>
        have inside : i < (lexis.marksFrom .plain text).length := by
          rw [Lexis.length_marksFrom]
          exact (List.getElem?_eq_some_iff.1 here).1
        rw [here, List.getElem?_eq_getElem inside] at differs
        refine Lexis.inComment_of_mark (List.getElem?_eq_getElem inside) ?_
        by_contra shown
        exact differs (by simp [shown])

end QueryDesk.Sql
