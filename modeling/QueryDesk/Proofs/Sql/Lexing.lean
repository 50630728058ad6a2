/-
Module: QueryDesk.Proofs.Sql.Lexing
Purpose: Reading a text in two parts. The machine looks ahead, so the marks of a part depend on what
  follows it; `marksThrough` and `modeThrough` read a part with what follows it in view. What follows
  a part may be exchanged if the machine stands outside of all tokens at the seam and the end of the
  part does not join the new text to one token (`through_congr`). Masks are the marks laid over the
  text, so a fact about marks is a fact about every mask.
Imports: QueryDesk.Sql.Lexis, QueryDesk.Proofs.Text.CharClass
Main exports: Lexis.marksThrough, Lexis.modeThrough, Lexis.marksFrom_append, hide,
  Lexis.hideFrom_eq_hide, Lexis.joins, Lexis.through_congr
-/
import QueryDesk.Sql.Lexis
import QueryDesk.Proofs.Text.CharClass

namespace QueryDesk.Sql

open QueryDesk.Text

/-- The marks of a part of a text, with the text after it in view. -/
def Lexis.marksThrough (lexis : Lexis) (mode : Mode) : List Char → List Char → List Mark
  | [], _ => []
  | c :: rest, after =>
    (lexis.step mode c (rest ++ after)).1 ::
      lexis.marksThrough (lexis.step mode c (rest ++ after)).2 rest after

/-- Where the machine stands after a part of a text, with the text after it in view. -/
def Lexis.modeThrough (lexis : Lexis) (mode : Mode) : List Char → List Char → Mode
  | [], _ => mode
  | c :: rest, after => lexis.modeThrough (lexis.step mode c (rest ++ after)).2 rest after

/-- The text with the characters blanked whose marks are hidden, the marks being given. -/
def hide (hidden : Mark → Bool) (marks : List Mark) (text : List Char) : List Char :=
  List.zipWith (fun mark c => if hidden mark then blank c else c) marks text

variable {lexis : Lexis}

/-- Marks of a text in two parts. -/
theorem Lexis.marksFrom_append (mode : Mode) (front back : List Char) :
    lexis.marksFrom mode (front ++ back) =
      lexis.marksThrough mode front back ++
        lexis.marksFrom (lexis.modeThrough mode front back) back := by
  induction front generalizing mode with
  | nil => rfl
  | cons c rest ih => simp [marksFrom, marksThrough, modeThrough, ih]

/-- The machine reads a text in two parts. -/
theorem Lexis.modeAfter_append (mode : Mode) (front back : List Char) :
    lexis.modeAfter mode (front ++ back) =
      lexis.modeAfter (lexis.modeThrough mode front back) back := by
  induction front generalizing mode with
  | nil => rfl
  | cons c rest ih => simp [modeAfter, modeThrough, ih]

/-- Marks of a part that is itself in two parts. -/
theorem Lexis.marksThrough_append (mode : Mode) (front middle back : List Char) :
    lexis.marksThrough mode (front ++ middle) back =
      lexis.marksThrough mode front (middle ++ back) ++
        lexis.marksThrough (lexis.modeThrough mode front (middle ++ back)) middle back := by
  induction front generalizing mode with
  | nil => rfl
  | cons c rest ih => simp [marksThrough, modeThrough, ih]

/-- The machine reads a part that is itself in two parts. -/
theorem Lexis.modeThrough_append (mode : Mode) (front middle back : List Char) :
    lexis.modeThrough mode (front ++ middle) back =
      lexis.modeThrough (lexis.modeThrough mode front (middle ++ back)) middle back := by
  induction front generalizing mode with
  | nil => rfl
  | cons c rest ih => simp [modeThrough, ih]

/-- With nothing after it a part is the whole text. -/
theorem Lexis.marksThrough_nil (mode : Mode) (text : List Char) :
    lexis.marksThrough mode text [] = lexis.marksFrom mode text := by
  induction text generalizing mode with
  | nil => rfl
  | cons c rest ih => simp [marksThrough, marksFrom, ih]

/-- With nothing after it a part is the whole text. -/
theorem Lexis.modeThrough_nil (mode : Mode) (text : List Char) :
    lexis.modeThrough mode text [] = lexis.modeAfter mode text := by
  induction text generalizing mode with
  | nil => rfl
  | cons c rest ih => simp [modeThrough, modeAfter, ih]

@[simp]
theorem Lexis.length_marksThrough (mode : Mode) (text after : List Char) :
    (lexis.marksThrough mode text after).length = text.length := by
  induction text generalizing mode with
  | nil => rfl
  | cons c rest ih => simp [marksThrough, ih]

@[simp]
theorem Lexis.length_marksFrom (mode : Mode) (text : List Char) :
    (lexis.marksFrom mode text).length = text.length := by
  rw [← marksThrough_nil, length_marksThrough]

@[simp]
theorem length_hide {hidden : Mark → Bool} {marks : List Mark} {text : List Char}
    (same : marks.length = text.length) : (hide hidden marks text).length = text.length := by
  simp [hide, same]

/-- Hiding in two parts. -/
theorem hide_append {hidden : Mark → Bool} {marks marks' : List Mark} {text text' : List Char}
    (same : marks.length = text.length) :
    hide hidden (marks ++ marks') (text ++ text') =
      hide hidden marks text ++ hide hidden marks' text' :=
  List.zipWith_append same

/-- What is shown at a place: the character there, blanked if its mark is hidden. -/
theorem getElem?_hide (hidden : Mark → Bool) (marks : List Mark) (text : List Char) (i : Nat) :
    (hide hidden marks text)[i]? =
      match marks[i]?, text[i]? with
      | some mark, some c => some (if hidden mark then blank c else c)
      | _, _ => none := by
  rw [hide, List.getElem?_zipWith]
  cases marks[i]? <;> cases text[i]? <;> rfl

/-- Reading with blanks in place of hidden characters is hiding by the marks. -/
theorem Lexis.hideFrom_eq_hide (hidden : Mark → Bool) (mode : Mode) (text : List Char) :
    lexis.hideFrom hidden mode text = hide hidden (lexis.marksFrom mode text) text := by
  induction text generalizing mode with
  | nil => rfl
  | cons c rest ih =>
      rw [hideFrom, ih]
      rfl

@[simp]
theorem Lexis.length_hideFrom (hidden : Mark → Bool) (mode : Mode) (text : List Char) :
    (lexis.hideFrom hidden mode text).length = text.length := by
  rw [hideFrom_eq_hide, length_hide (length_marksFrom mode text)]

@[simp]
theorem Lexis.length_mask (lexis : Lexis) (text : List Char) : (lexis.mask text).length = text.length :=
  length_hideFrom _ _ _

@[simp]
theorem Lexis.length_commentMask (lexis : Lexis) (text : List Char) :
    (lexis.commentMask text).length = text.length :=
  length_hideFrom _ _ _

/-- A dollar tag that ends inside of a text does not depend on what follows the text. -/
theorem dollarTag?_append_of_not_all {rest : List Char} (after : List Char)
    (stops : rest.all isNameChar = false) :
    dollarTag? ('$' :: (rest ++ after)) = dollarTag? ('$' :: rest) := by
  have short : (rest.takeWhile isNameChar).length < rest.length := by
    refine lt_of_le_of_ne (List.takeWhile_prefix _).length_le fun same => ?_
    have whole : rest.takeWhile isNameChar = rest :=
      (List.takeWhile_prefix _).eq_of_length same
    have all : rest.all isNameChar = true := by
      rw [← whole]
      exact List.all_takeWhile
    simp [all] at stops
  have name : (rest ++ after).takeWhile isNameChar = rest.takeWhile isNameChar := by
    rw [List.takeWhile_append, if_neg (by omega)]
  have follows : ((rest ++ after).drop (rest.takeWhile isNameChar).length).head? =
      (rest.drop (rest.takeWhile isNameChar).length).head? := by
    simp only [List.head?_drop, List.getElem?_append_left short]
  rw [dollarTag?, name, follows]
  rfl

/-- A dollar tag is a dollar sign, the longest name behind it, and a dollar sign that follows. -/
theorem eq_of_dollarTag? {text tag : List Char} (found : dollarTag? text = some tag) :
    ∃ rest, text = '$' :: rest ∧ tag = '$' :: (rest.takeWhile isNameChar ++ ['$']) ∧
      tag <+: text := by
  unfold dollarTag? at found
  split at found
  · rename_i rest
    dsimp only at found
    split_ifs at found with opens
    cases found
    refine ⟨rest, rfl, rfl, ?_⟩
    have follows := (Bool.and_eq_true _ _ ▸ opens).2
    simp only [List.head?_drop, beq_iff_eq] at follows
    obtain ⟨inside, dollar⟩ := List.getElem?_eq_some_iff.1 follows
    have name : rest.take (rest.takeWhile isNameChar).length = rest.takeWhile isNameChar :=
      (List.prefix_iff_eq_take.1 (List.takeWhile_prefix _)).symm
    have split : rest = rest.takeWhile isNameChar ++
        '$' :: rest.drop ((rest.takeWhile isNameChar).length + 1) := by
      conv_lhs =>
        rw [← List.take_append_drop (rest.takeWhile isNameChar).length rest, name,
          List.drop_eq_getElem_cons inside, dollar]
    refine ⟨rest.drop ((rest.takeWhile isNameChar).length + 1), ?_⟩
    conv_rhs => rw [split]
    simp
  · simp at found

/-- A dollar tag whose name runs over the end of a text is longer than the text. -/
theorem length_lt_of_dollarTag? {rest after tag : List Char} (all : rest.all isNameChar = true)
    (found : dollarTag? ('$' :: (rest ++ after)) = some tag) : rest.length + 2 ≤ tag.length := by
  obtain ⟨whole, same, rfl, -⟩ := eq_of_dollarTag? found
  cases same
  rw [List.takeWhile_append_of_pos (List.all_eq_true.1 all)]
  simp only [List.length_cons, List.length_append]
  omega

/-- A character that opens and closes a quoted token. -/
def isQuoteMark (c : Char) : Bool :=
  c == '\x27' || c == '\x22' || c == '\x60'

/-- A character that a quoted token can begin or end with. -/
def isDelimiter (c : Char) : Bool :=
  isQuoteMark c || c == '[' || c == ']' || c == '$'

/-- What a machine that began outside of all tokens keeps to: quotes are closed by their own mark or
by a bracket, and dollar tags end with a dollar sign, which is where the closing one will end. -/
def Mode.Sound : Mode → List Char → Prop
  | .quoted closing, _ => isQuoteMark closing = true ∨ closing = ']'
  | .escaped closing, _ => isQuoteMark closing = true ∨ closing = ']'
  | .tagOpening _ tag, _ => 2 ≤ tag.length ∧ tag.getLast? = some '$'
  | .tagged tag, _ => 2 ≤ tag.length ∧ tag.getLast? = some '$'
  | .tagClosing left, rest => rest[left]? = some '$'
  | _, _ => True

theorem Mode.sound_plain (rest : List Char) : Mode.plain.Sound rest := trivial

/-- The character that opens quotes closes them, or is a bracket. -/
theorem Lexis.closing?_eq_some {c closing : Char} (opens : lexis.closing? c = some closing) :
    isDelimiter c = true ∧ (isQuoteMark closing = true ∨ closing = ']') := by
  unfold closing? at opens
  split_ifs at opens with quote bracket
  · cases opens
    have mark : isQuoteMark c = true := quote
    exact ⟨by simp [isDelimiter, mark], .inl mark⟩
  · cases opens
    simp only [Bool.and_eq_true, beq_iff_eq] at bracket
    exact ⟨by simp [isDelimiter, bracket.2], .inr rfl⟩

/-- What a step from outside of all tokens can do: begin a comment, a dollar tag or quotes, or stay
outside. -/
theorem Lexis.stepPlain_cases (lexis : Lexis) (c : Char) (rest : List Char) :
    lexis.stepPlain c rest = (.commentStart, .lineComment) ∨
      lexis.stepPlain c rest = (.commentStart, .blockOpening) ∨
      (∃ tag, dollarTag? (c :: rest) = some tag ∧
        lexis.stepPlain c rest = (.quoteStart, .tagOpening (tag.length - 2) tag)) ∨
      (∃ closing, lexis.closing? c = some closing ∧
        lexis.stepPlain c rest = (.quoteStart, .quoted closing)) ∨
      lexis.stepPlain c rest = (.plain, .plain) := by
  unfold stepPlain
  split_ifs with line block dollar
  · exact .inl rfl
  · exact .inr (.inl rfl)
  · cases found : dollarTag? (c :: rest) with
    | some tag => exact .inr (.inr (.inl ⟨tag, rfl, rfl⟩))
    | none =>
        cases opens : lexis.closing? c with
        | some closing => exact .inr (.inr (.inr (.inl ⟨closing, rfl, rfl⟩)))
        | none => exact .inr (.inr (.inr (.inr rfl)))
  · cases opens : lexis.closing? c with
    | some closing => exact .inr (.inr (.inr (.inl ⟨closing, rfl, rfl⟩)))
    | none => exact .inr (.inr (.inr (.inr rfl)))

/-- What a step between quotes can do: escape the next character, stay, or leave by the mark that
closes them. -/
theorem Lexis.stepQuoted_cases (lexis : Lexis) (closing c : Char) (rest : List Char) :
    lexis.stepQuoted closing c rest = (.quote, .escaped closing) ∨
      lexis.stepQuoted closing c rest = (.quote, .quoted closing) ∨
      (c = closing ∧ lexis.stepQuoted closing c rest = (.quote, .plain)) := by
  unfold stepQuoted
  split_ifs with escape ends doubled
  · exact .inl rfl
  · exact .inl rfl
  · exact .inr (.inr ⟨beq_iff_eq.1 ends, rfl⟩)
  · exact .inr (.inl rfl)

/-- A dollar tag has two dollar signs, the second one at its end. -/
theorem sound_of_dollarTag? {text tag : List Char} (found : dollarTag? text = some tag) :
    2 ≤ tag.length ∧ tag.getLast? = some '$' := by
  obtain ⟨rest, -, rfl, -⟩ := eq_of_dollarTag? found
  refine ⟨by simp, ?_⟩
  rw [← List.cons_append, List.getLast?_append]
  rfl

/-- Each step keeps the machine sound. -/
theorem Lexis.step_sound {mode : Mode} {c : Char} {rest : List Char}
    (sound : mode.Sound (c :: rest)) : (lexis.step mode c rest).2.Sound rest := by
  cases mode with
  | plain =>
      rcases lexis.stepPlain_cases c rest with
        same | same | ⟨tag, found, same⟩ | ⟨closing, opens, same⟩ | same <;> simp only [step, same]
      · trivial
      · trivial
      · exact sound_of_dollarTag? found
      · exact (closing?_eq_some opens).2
      · trivial
  | lineComment =>
      simp only [step]
      split_ifs <;> trivial
  | blockOpening => trivial
  | blockComment =>
      simp only [step]
      split_ifs <;> trivial
  | blockClosing => trivial
  | quoted closing =>
      rcases lexis.stepQuoted_cases closing c rest with same | same | ⟨-, same⟩ <;>
        simp only [step, same]
      · exact sound
      · exact sound
      · trivial
  | escaped closing => exact sound
  | tagOpening left tag =>
      cases left with
      | zero => exact sound
      | succ left => exact sound
  | tagged tag =>
      simp only [step]
      split_ifs with closes
      · obtain ⟨more, same⟩ := List.isPrefixOf_iff_prefix.1 closes
        have last : (c :: rest)[tag.length - 1]? = some '$' := by
          rw [← same, List.getElem?_append_left (by have := sound.1; omega),
            ← List.getLast?_eq_getElem?]
          exact sound.2
        obtain ⟨n, length⟩ : ∃ n, tag.length = n + 2 := ⟨tag.length - 2, by have := sound.1; omega⟩
        simpa [Mode.Sound, length] using last
      · exact sound
  | tagClosing left =>
      cases left with
      | zero => trivial
      | succ left => simpa [Mode.Sound, step] using sound

/-! ### Tokens that two texts would form together

What a token needs to see in order to begin or to close is short: the next character, or a dollar tag. So it
is known in advance, from the last token of a part, whether the part and another text behind it have a token
across their seam. -/

/-- Whether a character that stands outside of all tokens, or closes one, would be read with the
text behind the seam as one token: a comment opening, a doubled quote, or a dollar tag. -/
def Lexis.joinsAt (lexis : Lexis) (mode : Mode) (c : Char) (rest after : List Char) : Bool :=
  (rest.isEmpty &&
    ((c == '-' && after.head? == some '-') || (c == '/' && after.head? == some '*') ||
      (isQuoteMark c && after.head? == some c))) ||
    (lexis.dollarQuotes && mode == .plain && c == '$' && rest.all isNameChar &&
      (dollarTag? (c :: (rest ++ after))).isSome)

/-- Whether the end of a text that is read with something behind it forms a token together with the
beginning of what is put there instead. -/
def Lexis.joins (lexis : Lexis) : Mode → List Char → List Char → List Char → Bool
  | _, [], _, _ => false
  | mode, c :: rest, seen, after =>
    lexis.joinsAt mode c rest after || lexis.joins (lexis.step mode c (rest ++ seen)).2 rest seen after

/-- Modes inside of a token that count down its characters that are left after the next one. -/
structure Lexis.CountsDown (lexis : Lexis) (inside : Nat → Mode) : Prop where
  next : ∀ (left : Nat) (c : Char) (rest : List Char), lexis.step (inside (left + 1)) c rest = (.quote, inside left)
  last : ∀ (c : Char) (rest : List Char), (lexis.step (inside 0) c rest).1 = .quote

theorem Lexis.countsDown_tagOpening (lexis : Lexis) (tag : List Char) :
    lexis.CountsDown fun left => .tagOpening left tag :=
  ⟨fun _ _ _ => rfl, fun _ _ => rfl⟩

theorem Lexis.countsDown_tagClosing (lexis : Lexis) : lexis.CountsDown .tagClosing :=
  ⟨fun _ _ _ => rfl, fun _ _ => rfl⟩

/-- Reading on inside of a dollar tag. -/
theorem Lexis.CountsDown.modeThrough {inside : Nat → Mode} (counts : lexis.CountsDown inside)
    {text : List Char} (left : Nat) (after : List Char) (short : text.length ≤ left) :
    lexis.modeThrough (inside left) text after = inside (left - text.length) := by
  induction text generalizing left with
  | nil => rfl
  | cons c rest ih =>
      rw [List.length_cons] at short ⊢
      obtain ⟨less, rfl⟩ : ∃ less, left = less + 1 := ⟨left - 1, by omega⟩
      rw [Lexis.modeThrough, counts.next, ih less (by omega), Nat.add_sub_add_right]

/-- A string between dollar tags does not close within fewer characters than its tag has. -/
theorem Lexis.modeThrough_tagged_ne_plain {text tag : List Char} (after : List Char)
    (short : text.length < tag.length) : lexis.modeThrough (.tagged tag) text after ≠ .plain := by
  induction text with
  | nil => simp [modeThrough]
  | cons c rest ih =>
      simp only [List.length_cons] at short
      simp only [modeThrough, step]
      split
      · rw [lexis.countsDown_tagClosing.modeThrough _ _ (by omega)]
        simp
      · exact ih (by omega)

/-! ### Exchanging what follows

A step sees the same before both texts, unless it looks over the seam. Then the part and the new text have a
token together, or the machine is inside of a token at the seam, and both are excluded. This is shown for
each kind of step, and the part follows by induction. -/

/-- Only a dollar sign begins a dollar tag. -/
theorem dollarTag?_eq_none_of_ne {c : Char} (rest : List Char) (other : c ≠ '$') :
    dollarTag? (c :: rest) = none := by
  unfold dollarTag?
  split
  · rename_i heading
    cases heading
    exact absurd rfl other
  · rfl

/-- A character outside of all tokens stays outside exactly if it begins no comment, no dollar tag
and no quotes. -/
theorem Lexis.stepPlain_eq_plain_iff {c : Char} {rest : List Char} :
    (lexis.stepPlain c rest).2 = .plain ↔
      ((c == '-' && rest.head? == some '-') || (lexis.hashComments && c == '#')) = false ∧
        (c == '/' && rest.head? == some '*') = false ∧
        (if lexis.dollarQuotes then dollarTag? (c :: rest) else none) = none ∧
        lexis.closing? c = none := by
  unfold stepPlain
  cases ((c == '-' && rest.head? == some '-') || (lexis.hashComments && c == '#')) with
  | true => simp
  | false =>
      cases (c == '/' && rest.head? == some '*') with
      | true => simp
      | false =>
          cases (if lexis.dollarQuotes then dollarTag? (c :: rest) else none) with
          | some tag => simp
          | none => cases lexis.closing? c <;> simp

/-- A character that stays outside of all tokens is plain. -/
theorem Lexis.stepPlain_of_plain {c : Char} {rest : List Char}
    (outside : (lexis.stepPlain c rest).2 = .plain) :
    lexis.stepPlain c rest = (.plain, .plain) := by
  obtain ⟨dash, slash, tag, quote⟩ := stepPlain_eq_plain_iff.1 outside
  simp [stepPlain, dash, slash, tag, quote]

/-- What fits into the front of a text is a prefix of the text exactly if it is one of the front. -/
theorem prefix_append_iff {tag front after : List Char} (room : tag.length ≤ front.length) :
    tag <+: front ++ after ↔ tag <+: front :=
  ⟨fun starts => List.prefix_of_prefix_length_le starts (List.prefix_append _ _) room,
    fun starts => starts.trans (List.prefix_append _ _)⟩

/-- The step from outside of all tokens, with another text behind the seam. -/
theorem Lexis.stepPlain_congr {c : Char} {rest after after' : List Char}
    (outside : lexis.modeThrough .plain (c :: rest) after = .plain)
    (apart : lexis.joinsAt .plain c rest after' = false) :
    lexis.stepPlain c (rest ++ after') = lexis.stepPlain c (rest ++ after) := by
  simp only [joinsAt, Bool.or_eq_false_iff] at apart
  obtain ⟨near, far⟩ := apart
  have tags : (if lexis.dollarQuotes then dollarTag? (c :: (rest ++ after')) else none) =
      if lexis.dollarQuotes then dollarTag? (c :: (rest ++ after)) else none := by
    by_cases quotes : lexis.dollarQuotes = true
    · by_cases dollar : c = '$'
      · subst dollar
        cases all : rest.all isNameChar with
        | false =>
            simp only [quotes, if_true, dollarTag?_append_of_not_all _ all]
        | true =>
            have none' : dollarTag? ('$' :: (rest ++ after')) = none := by
              simpa [quotes, all] using far
            cases found : dollarTag? ('$' :: (rest ++ after)) with
            | none => simp [quotes, none']
            | some tag =>
                -- The tag runs over the seam, so the machine would still be inside of it there.
                have long := length_lt_of_dollarTag? all found
                have inside : lexis.step .plain '$' (rest ++ after) =
                    (.quoteStart, .tagOpening (tag.length - 2) tag) := by
                  simp [step, stepPlain, quotes, found]
                rw [modeThrough, inside, (lexis.countsDown_tagOpening tag).modeThrough _ _ (by omega)] at outside
                simp at outside
      · simp [dollarTag?_eq_none_of_ne _ dollar]
    · simp [quotes]
  cases rest with
  | nil =>
      have plain : (lexis.stepPlain c after).2 = .plain := outside
      obtain ⟨dash, slash, tag, quote⟩ := stepPlain_eq_plain_iff.1 plain
      simp only [List.isEmpty_nil, Bool.true_and, Bool.or_eq_false_iff] at near
      rw [List.nil_append, List.nil_append, stepPlain_of_plain plain]
      refine stepPlain_of_plain (stepPlain_eq_plain_iff.2 ⟨?_, near.1.2, ?_, quote⟩)
      · rw [Bool.or_eq_false_iff] at dash ⊢
        exact ⟨near.1.1, dash.2⟩
      · exact tags.trans tag
  | cons d more =>
      unfold stepPlain
      rw [tags]
      rfl

/-- A step with another text behind the seam. -/
theorem Lexis.step_congr {mode : Mode} {c : Char} {rest after after' : List Char}
    (sound : mode.Sound (c :: (rest ++ after)))
    (outside : lexis.modeThrough mode (c :: rest) after = .plain)
    (apart : lexis.joinsAt mode c rest after' = false) :
    lexis.step mode c (rest ++ after') = lexis.step mode c (rest ++ after) := by
  cases mode with
  | plain => exact stepPlain_congr outside apart
  | lineComment => rfl
  | blockOpening => rfl
  | blockComment =>
      cases rest with
      | nil =>
          simp only [modeThrough, step, List.nil_append] at outside
          split at outside <;> simp at outside
      | cons d more => rfl
  | blockClosing => rfl
  | quoted closing =>
      cases rest with
      | nil =>
          simp only [modeThrough, step, stepQuoted, List.nil_append] at outside ⊢
          split_ifs at outside with escape ends doubled
          rw [if_neg escape, if_pos ends, if_neg doubled, if_neg escape, if_pos ends]
          rw [beq_iff_eq] at ends
          subst ends
          -- The quotes close here, and the new text does not go on with their mark.
          rcases sound with mark | bracket
          · simp only [joinsAt, mark, List.isEmpty_nil, Bool.true_and, Bool.or_eq_false_iff] at apart
            simp [apart.1.2]
          · simp [bracket]
      | cons d more => rfl
  | escaped closing => rfl
  | tagOpening left tag => cases left <;> rfl
  | tagged tag =>
      -- The whole closing tag lies in front of the seam.
      have room : tag.length ≤ (c :: rest).length := by
        by_contra short
        exact modeThrough_tagged_ne_plain after (by omega) outside
      have same : tag.isPrefixOf (c :: (rest ++ after')) = tag.isPrefixOf (c :: (rest ++ after)) := by
        rw [Bool.eq_iff_iff, List.isPrefixOf_iff_prefix, List.isPrefixOf_iff_prefix,
          ← List.cons_append, ← List.cons_append, prefix_append_iff room, prefix_append_iff room]
      simp only [step, same]
  | tagClosing left => cases left <;> rfl

/-- What follows a part of a text may be exchanged if the machine stands outside of all tokens at
the seam and the part does not join the new text. -/
theorem Lexis.through_congr {mode : Mode} {front after after' : List Char}
    (sound : mode.Sound (front ++ after))
    (outside : lexis.modeThrough mode front after = .plain)
    (apart : lexis.joins mode front after after' = false) :
    lexis.marksThrough mode front after' = lexis.marksThrough mode front after ∧
      lexis.modeThrough mode front after' = .plain := by
  induction front generalizing mode with
  | nil => exact ⟨rfl, outside⟩
  | cons c rest ih =>
      simp only [joins, Bool.or_eq_false_iff] at apart
      have same := step_congr sound outside apart.1
      have later := ih (step_sound sound) outside apart.2
      simp only [marksThrough, modeThrough, same, later.1, later.2, and_self]

end QueryDesk.Sql
