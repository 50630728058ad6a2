/-
Module: QueryDesk.Proofs.Sql.Quoting
Purpose: Quoted names as the machine reads them. A name between quote marks, with the marks inside
  doubled, is one quoted token that ends where the name ends, and the text behind it is read as if
  it stood alone. Where backslashes escape this asks that no backslash of the name takes a quote
  mark with it (`harmless`). If one does, the doubled marks behind it are read out of step
  (`Mode.Astray`), and the machine does not stand outside of all tokens where the name ends.
Imports: QueryDesk.Sql.Surface, QueryDesk.Proofs.Sql.Cut
Main exports: unquote, harmless, Lexis.Opaque, Lexis.opaque_quoteWith,
  Lexis.harmless_of_readsOn, quotedName_opaque
-/
import QueryDesk.Sql.Surface
import QueryDesk.Proofs.Sql.Cut

namespace QueryDesk.Sql

variable {lexis : Lexis} {delimiter : Char}

/-- The text with every doubled occurrence of a character written once. -/
def collapse (delimiter : Char) : List Char → List Char
  | c :: d :: rest =>
    if c == delimiter && d == delimiter then delimiter :: collapse delimiter rest
    else c :: collapse delimiter (d :: rest)
  | text => text

/-- The name that a quoted text stands for. -/
def unquote (delimiter : Char) (text : List Char) : List Char :=
  collapse delimiter text.tail.dropLast

@[simp]
theorem doubleChar_nil : doubleChar delimiter [] = [] := rfl

@[simp]
theorem doubleChar_cons_self (rest : List Char) :
    doubleChar delimiter (delimiter :: rest) =
      delimiter :: delimiter :: doubleChar delimiter rest := by
  simp [doubleChar]

theorem doubleChar_cons_of_ne {c : Char} (other : c ≠ delimiter) (rest : List Char) :
    doubleChar delimiter (c :: rest) = c :: doubleChar delimiter rest := by
  simp [doubleChar, other]

/-- Doubling a text in two parts. -/
theorem doubleChar_append (front back : List Char) :
    doubleChar delimiter (front ++ back) = doubleChar delimiter front ++ doubleChar delimiter back :=
  List.flatMap_append

/-- Doubling is undone by collapsing. -/
theorem collapse_doubleChar (name : List Char) :
    collapse delimiter (doubleChar delimiter name) = name := by
  induction name with
  | nil => rfl
  | cons c rest ih =>
      by_cases same : c = delimiter
      · subst same
        rw [doubleChar_cons_self, collapse, if_pos (by simp), ih]
      · rw [doubleChar_cons_of_ne same]
        cases doubled : doubleChar delimiter rest with
        | nil =>
            rw [doubled] at ih
            rw [← ih]
            rfl
        | cons d more => rw [collapse, if_neg (by simp [same]), ← doubled, ih]

/-- Quoting is undone by unquoting. -/
theorem unquote_quoteWith (name : List Char) :
    unquote delimiter (quoteWith delimiter name) = name := by
  rw [unquote, quoteWith, List.tail_cons, List.dropLast_concat, collapse_doubleChar]

/-- What the machine has in view behind a character of a quoted name: the next character of the
name, or the closing mark. -/
theorem head?_doubleChar_append (name after : List Char) :
    (doubleChar delimiter name ++ delimiter :: after).head? = some (name.head?.getD delimiter) := by
  cases name with
  | nil => rfl
  | cons c rest =>
      by_cases same : c = delimiter
      · subst same
        rw [doubleChar_cons_self]
        rfl
      · rw [doubleChar_cons_of_ne same]
        rfl

/-! ### Reading between quotes

A name is read unit by unit, where a unit is a character, a doubled mark, or a backslash with the character
that it escapes. Behind each unit the machine stands between the quotes again, and the mark behind the name
closes them. -/

/-- Whether no backslash of a name, read from left to right with the character behind it, takes a
quote mark or the end of the name with it. -/
def harmless (delimiter : Char) : List Char → Bool
  | [] => true
  | [c] => c != '\\'
  | c :: d :: rest =>
    if c == '\\' then d != delimiter && harmless delimiter rest else harmless delimiter (d :: rest)

/-- A part of a text that lies between quotes, with the mode that it is read from and the mode that
it leads to. -/
structure Lexis.ReadsQuoted (lexis : Lexis) (mode : Mode) (part after : List Char) (next : Mode) :
    Prop where
  marks : lexis.marksThrough mode part after = List.replicate part.length .quote
  leads : lexis.modeThrough mode part after = next

/-- Nothing is read. -/
theorem Lexis.ReadsQuoted.refl (mode : Mode) (after : List Char) :
    lexis.ReadsQuoted mode [] after mode :=
  ⟨rfl, rfl⟩

/-- One character between quotes, and what is behind it. -/
theorem Lexis.ReadsQuoted.cons {mode middle next : Mode} {c : Char} {part after : List Char}
    (quoted : mode.isQuoted = true) (step : (lexis.step mode c (part ++ after)).2 = middle)
    (behind : lexis.ReadsQuoted middle part after next) :
    lexis.ReadsQuoted mode (c :: part) after next where
  marks := by
    rw [marksThrough, step, behind.marks, mark_of_isQuoted quoted]
    rfl
  leads := by rw [modeThrough, step, behind.leads]

/-- A quote mark is no backslash and no bracket. -/
theorem ne_of_isQuoteMark (mark : isQuoteMark delimiter = true) :
    delimiter ≠ '\\' ∧ delimiter ≠ ']' := by
  simp only [isQuoteMark, Bool.or_eq_true, beq_iff_eq] at mark
  rcases mark with (rfl | rfl) | rfl <;> decide

/-- Between quote marks the mark ends the token, unless it is doubled. -/
theorem Lexis.step_quoted_self (mark : isQuoteMark delimiter = true) (rest : List Char) :
    (lexis.step (.quoted delimiter) delimiter rest).2 =
      if rest.head? = some delimiter then .escaped delimiter else .plain := by
  obtain ⟨slash, bracket⟩ := ne_of_isQuoteMark mark
  by_cases doubled : rest.head? = some delimiter <;>
    simp [step, stepQuoted, slash, bracket, doubled]

/-- Between quote marks another character leaves the machine where it stands, unless it is a
backslash that escapes. -/
theorem Lexis.step_quoted_of_ne {closing c : Char} (other : c ≠ closing)
    (kept : lexis.backslashEscapes = true → c ≠ '\\') (rest : List Char) :
    (lexis.step (.quoted closing) c rest).2 = .quoted closing := by
  cases escapes : lexis.backslashEscapes with
  | false => simp [step, stepQuoted, escapes, other]
  | true => simp [step, stepQuoted, other, kept escapes]

/-- A backslash that escapes takes the next character with it. -/
theorem Lexis.step_quoted_backslash (mark : isQuoteMark delimiter = true)
    (escapes : lexis.backslashEscapes = true) (rest : List Char) :
    (lexis.step (.quoted delimiter) '\\' rest).2 = .escaped delimiter := by
  simp [step, stepQuoted, escapes, (ne_of_isQuoteMark mark).2]

/-- A quote mark opens a token, whatever the rules are. -/
theorem Lexis.step_plain_of_isQuoteMark (mark : isQuoteMark delimiter = true) (rest : List Char) :
    lexis.step .plain delimiter rest = (.quoteStart, .quoted delimiter) := by
  have opens : lexis.closing? delimiter = some delimiter := if_pos mark
  simp only [isQuoteMark, Bool.or_eq_true, beq_iff_eq] at mark
  rcases mark with (rfl | rfl) | rfl <;> simp [step, stepPlain, dollarTag?, opens]

/-- A part between quotes, and what is behind it. -/
theorem Lexis.ReadsQuoted.append {mode middle next : Mode} {front back after : List Char}
    (reads : lexis.ReadsQuoted mode front (back ++ after) middle)
    (behind : lexis.ReadsQuoted middle back after next) :
    lexis.ReadsQuoted mode (front ++ back) after next where
  marks := by
    rw [marksThrough_append, reads.marks, reads.leads, behind.marks, List.length_append,
      List.replicate_add]
  leads := by rw [modeThrough_append, reads.leads, behind.leads]

/-- A character of a quoted name, written twice if it is the mark, leaves the machine between the
quotes, unless it is a backslash that escapes. -/
theorem Lexis.readsQuoted_unit (mark : isQuoteMark delimiter = true) {c : Char}
    (kept : lexis.backslashEscapes = true → c ≠ '\\') (after : List Char) :
    lexis.ReadsQuoted (.quoted delimiter) (doubleChar delimiter [c]) after (.quoted delimiter) := by
  by_cases same : c = delimiter
  · subst same
    rw [doubleChar_cons_self]
    exact .cons rfl ((step_quoted_self mark _).trans (if_pos rfl)) (.cons rfl rfl (.refl _ after))
  · rw [doubleChar_cons_of_ne same]
    exact .cons rfl (step_quoted_of_ne same kept _) (.refl _ after)

/-- A backslash that escapes takes another character than the mark with it. -/
theorem Lexis.readsQuoted_escape (mark : isQuoteMark delimiter = true)
    (escapes : lexis.backslashEscapes = true) {c : Char} (other : c ≠ delimiter)
    (after : List Char) :
    lexis.ReadsQuoted (.quoted delimiter) (doubleChar delimiter ['\\', c]) after
      (.quoted delimiter) := by
  rw [doubleChar_cons_of_ne (ne_of_isQuoteMark mark).1.symm, doubleChar_cons_of_ne other]
  exact .cons rfl (step_quoted_backslash mark escapes _) (.cons rfl rfl (.refl _ after))

/-- The mark behind a name closes the token. -/
theorem Lexis.readsQuoted_closing {after : List Char} (mark : isQuoteMark delimiter = true)
    (apart : after.head? ≠ some delimiter) :
    lexis.ReadsQuoted (.quoted delimiter) [delimiter] after .plain :=
  .cons rfl ((step_quoted_self mark after).trans (if_neg apart)) (.refl .plain after)

/-- A name between quotes is read to its end, and the mark behind it closes the token. -/
theorem Lexis.readsQuoted_name {name after : List Char} (mark : isQuoteMark delimiter = true)
    (safe : lexis.backslashEscapes = true → harmless delimiter name = true)
    (apart : after.head? ≠ some delimiter) :
    lexis.ReadsQuoted (.quoted delimiter) (doubleChar delimiter name ++ [delimiter]) after
      .plain := by
  have closing : lexis.ReadsQuoted (.quoted delimiter) [delimiter] after .plain :=
    readsQuoted_closing mark apart
  cases escapes : lexis.backslashEscapes with
  | false =>
      clear safe
      induction name with
      | nil => exact closing
      | cons c rest ih =>
          rw [← List.singleton_append, doubleChar_append, List.append_assoc]
          exact (readsQuoted_unit mark (by simp [escapes]) _).append ih
  | true =>
      replace safe := safe escapes
      induction name using harmless.induct with
      | case1 => exact closing
      | case2 c =>
          exact (readsQuoted_unit mark (fun _ => by simpa [harmless] using safe) _).append closing
      | case3 c d rest slash ih =>
          rw [beq_iff_eq] at slash
          subst slash
          simp only [harmless, beq_self_eq_true, if_true, Bool.and_eq_true, bne_iff_ne] at safe
          rw [show '\\' :: d :: rest = ['\\', d] ++ rest from rfl, doubleChar_append,
            List.append_assoc]
          exact (readsQuoted_escape mark escapes safe.1 _).append (ih safe.2)
      | case4 c d rest plain ih =>
          rw [harmless, if_neg plain] at safe
          rw [← List.singleton_append, doubleChar_append, List.append_assoc]
          exact (readsQuoted_unit mark (fun _ => by simpa using plain) _).append (ih safe)

/-- The token in front of a text is one quoted token, and the text is read as if it stood alone. -/
structure Lexis.Opaque (lexis : Lexis) (token text : List Char) : Prop where
  marks : lexis.marks (token ++ text) =
    .quoteStart :: (List.replicate (token.length - 1) .quote ++ lexis.marks text)
  mask : lexis.mask (token ++ text) = token.map blank ++ lexis.mask text
  kept : lexis.commentMask (token ++ text) = token ++ lexis.commentMask text

/-- What is shown of a part whose marks are all the same. -/
theorem hide_replicate (hidden : Mark → Bool) (mark : Mark) (part : List Char) :
    hide hidden (List.replicate part.length mark) part =
      if hidden mark then part.map blank else part := by
  induction part with
  | nil => simp [hide]
  | cons c rest ih =>
      rw [hide] at ih
      rw [hide, List.length_cons, List.replicate_succ, List.zipWith_cons_cons, ih]
      split <;> rfl

/-- What is shown of a text with a quoted token in front of it. -/
theorem Lexis.hideFrom_token (hidden : Mark → Bool)
    (same : hidden .quoteStart = hidden .quote) {part text : List Char}
    (mark : isQuoteMark delimiter = true)
    (reads : lexis.ReadsQuoted (.quoted delimiter) part text .plain) :
    lexis.hideFrom hidden .plain (delimiter :: part ++ text) =
      (if hidden .quote then (delimiter :: part).map blank else delimiter :: part) ++
        lexis.hideFrom hidden .plain text := by
  rw [List.cons_append, hideFrom, step_plain_of_isQuoteMark mark, hideFrom_eq_hide,
    marksFrom_append, hide_append (by simp), reads.marks, reads.leads, hide_replicate,
    hideFrom_eq_hide, same]
  split <;> rfl

/-- A part between quotes with the mark in front of it is one quoted token. -/
theorem Lexis.ReadsQuoted.opaque_cons {part text : List Char} (mark : isQuoteMark delimiter = true)
    (reads : lexis.ReadsQuoted (.quoted delimiter) part text .plain) :
    lexis.Opaque (delimiter :: part) text where
  marks := by
    rw [Lexis.marks, List.cons_append, marksFrom, step_plain_of_isQuoteMark mark, marksFrom_append,
      reads.marks, reads.leads]
    rfl
  mask := hideFrom_token _ rfl mark reads
  kept := hideFrom_token _ rfl mark reads

/-- A name between quote marks, the marks inside doubled, is one quoted token in front of every text
that does not go on with the mark. -/
theorem Lexis.opaque_quoteWith {name text : List Char} (mark : isQuoteMark delimiter = true)
    (safe : lexis.backslashEscapes = true → harmless delimiter name = true)
    (apart : text.head? ≠ some delimiter) : lexis.Opaque (quoteWith delimiter name) text :=
  (readsQuoted_name mark safe apart).opaque_cons mark

/-! ### Reading out of step

A backslash that takes a mark with it leaves the second one of a doubled mark, or what follows the name, to
be read by itself. `Astray` says where the machine can stand from then on. Every character and every doubled
mark keeps it, and from there the mark behind the name does not lead out of all tokens. -/

/-- Where the machine stands in a quoted name when it is out of step with the doubling: it is not
between the quotes of the name any more, or the next mark is taken for an escaped one. -/
def Mode.Astray (delimiter : Char) (name : List Char) : Mode → Prop
  | .plain | .lineComment | .blockOpening | .blockComment => True
  | .blockClosing => name.head? = some '/'
  | .quoted closing => closing ≠ delimiter
  | .escaped closing => closing = delimiter → name.head?.getD delimiter = delimiter
  | .tagOpening _ _ | .tagged _ | .tagClosing _ => False

/-- Quotes that another character opens are not closed by the mark. -/
theorem Lexis.closing?_ne (mark : isQuoteMark delimiter = true) {c closing : Char}
    (other : c ≠ delimiter) (opens : lexis.closing? c = some closing) : closing ≠ delimiter := by
  unfold closing? at opens
  split_ifs at opens <;> cases opens
  · exact other
  · exact (ne_of_isQuoteMark mark).2.symm

/-- Between other quotes the mark is a character like every other. -/
theorem Lexis.step_quoted_mark (mark : isQuoteMark delimiter = true) {closing : Char}
    (other : closing ≠ delimiter) (rest : List Char) :
    (lexis.step (.quoted closing) delimiter rest).2 = .quoted closing :=
  step_quoted_of_ne other.symm (fun _ => (ne_of_isQuoteMark mark).1) rest

/-- The mark is neither a line feed nor a part of the closing of a block comment. -/
theorem not_comment_of_isQuoteMark (mark : isQuoteMark delimiter = true) :
    delimiter ≠ '\n' ∧ delimiter ≠ '*' ∧ delimiter ≠ '/' := by
  simp only [isQuoteMark, Bool.or_eq_true, beq_iff_eq] at mark
  rcases mark with (rfl | rfl) | rfl <;> decide

/-- Out of step, another character than the mark leaves the machine out of step. -/
theorem Lexis.astray_of_ne (mark : isQuoteMark delimiter = true)
    (tagless : lexis.dollarQuotes = false) {mode : Mode} {c : Char} {name : List Char}
    (astray : mode.Astray delimiter (c :: name)) (other : c ≠ delimiter) (after : List Char) :
    (lexis.step mode c (doubleChar delimiter name ++ delimiter :: after)).2.Astray delimiter
      name := by
  cases mode with
  | plain =>
      simp only [step, stepPlain, tagless, Bool.false_eq_true, if_false]
      split_ifs
      · trivial
      · trivial
      · cases opens : lexis.closing? c with
        | none => trivial
        | some closing => exact closing?_ne mark other opens
  | lineComment =>
      simp only [step]
      split_ifs <;> trivial
  | blockOpening => trivial
  | blockComment =>
      simp only [step, head?_doubleChar_append]
      split_ifs with ends
      · -- The slash that ends the comment is a character of the name.
        simp only [Bool.and_eq_true, beq_iff_eq, Option.some.injEq] at ends
        cases name with
        | nil => exact absurd ends.2 (not_comment_of_isQuoteMark mark).2.2
        | cons d rest => exact congrArg some ends.2
      · trivial
  | blockClosing => trivial
  | quoted closing =>
      rcases lexis.stepQuoted_cases closing c (doubleChar delimiter name ++ delimiter :: after) with
        same | same | ⟨-, same⟩ <;> rw [step, same]
      · exact fun closed => absurd closed astray
      · exact astray
      · trivial
  | escaped closing => exact fun closed => other (astray closed)
  | tagOpening | tagged | tagClosing => cases astray

/-- Out of step, a doubled mark leaves the machine out of step. -/
theorem Lexis.astray_of_doubled (mark : isQuoteMark delimiter = true) {mode : Mode}
    {name : List Char} (astray : mode.Astray delimiter (delimiter :: name)) (after : List Char) :
    (lexis.modeThrough mode [delimiter, delimiter]
      (doubleChar delimiter name ++ delimiter :: after)).Astray delimiter name := by
  obtain ⟨feed, star, slash⟩ := not_comment_of_isQuoteMark mark
  -- Where the first mark opens the quotes, the second one closes them or is taken for a doubled one.
  have opened : (lexis.step (.quoted delimiter) delimiter
      (doubleChar delimiter name ++ delimiter :: after)).2.Astray delimiter name := by
    rw [step_quoted_self mark, head?_doubleChar_append]
    split_ifs with doubled
    · exact fun _ => Option.some.inj doubled
    · trivial
  simp only [modeThrough, List.nil_append]
  cases mode with
  | plain =>
      rw [step_plain_of_isQuoteMark mark]
      exact opened
  | lineComment => simp [step, feed, Mode.Astray]
  | blockOpening => simp [step, star, Mode.Astray]
  | blockComment => simp [step, star, Mode.Astray]
  | blockClosing => exact absurd (Option.some.inj astray) slash
  | quoted closing =>
      rw [step_quoted_mark mark astray, step_quoted_mark mark astray]
      exact astray
  | escaped closing =>
      by_cases same : closing = delimiter
      · subst same
        exact opened
      · rw [step, step_quoted_mark mark same]
        exact same
  | tagOpening | tagged | tagClosing => cases astray

/-- Out of step, the mark behind the name does not lead out of all tokens. -/
theorem Lexis.step_ne_plain_of_astray (mark : isQuoteMark delimiter = true) {mode : Mode}
    (astray : mode.Astray delimiter []) (after : List Char) :
    (lexis.step mode delimiter after).2 ≠ .plain := by
  obtain ⟨feed, star, -⟩ := not_comment_of_isQuoteMark mark
  cases mode with
  | plain => simp [step_plain_of_isQuoteMark mark]
  | lineComment => simp [step, feed]
  | blockOpening => simp [step]
  | blockComment => simp [step, star]
  | blockClosing => cases astray
  | quoted closing => simp [step_quoted_mark mark astray]
  | escaped closing => simp [step]
  | tagOpening | tagged | tagClosing => cases astray

/-- Out of step, the name and the mark behind it do not lead out of all tokens. -/
theorem Lexis.modeThrough_ne_plain_of_astray (mark : isQuoteMark delimiter = true)
    (tagless : lexis.dollarQuotes = false) {mode : Mode} {name : List Char}
    (astray : mode.Astray delimiter name) (after : List Char) :
    lexis.modeThrough mode (doubleChar delimiter name ++ [delimiter]) after ≠ .plain := by
  induction name generalizing mode with
  | nil => exact step_ne_plain_of_astray mark astray after
  | cons c rest ih =>
      by_cases same : c = delimiter
      · subst same
        have next := ih (@astray_of_doubled lexis c mark mode rest astray after)
        rw [doubleChar_cons_self]
        simpa [modeThrough] using next
      · have next := ih (astray_of_ne mark tagless astray same after)
        rw [doubleChar_cons_of_ne same]
        simpa [modeThrough] using next

/-- A name with a backslash that takes a mark or the end of the name with it is not read to its
end. -/
theorem Lexis.modeThrough_ne_plain_of_harmful (mark : isQuoteMark delimiter = true)
    (tagless : lexis.dollarQuotes = false) (escapes : lexis.backslashEscapes = true)
    {name : List Char} (harmful : harmless delimiter name = false) (after : List Char) :
    lexis.modeThrough (.quoted delimiter) (doubleChar delimiter name ++ [delimiter]) after ≠
      .plain := by
  have other := (ne_of_isQuoteMark mark).1.symm
  -- Behind a backslash with the mark, or nothing, next to it the machine is out of step.
  have lost : ∀ {rest : List Char}, rest.head?.getD delimiter = delimiter →
      lexis.modeThrough (.quoted delimiter) (doubleChar delimiter ('\\' :: rest) ++ [delimiter])
        after ≠ .plain := by
    intro rest next
    have astray : (Mode.escaped delimiter).Astray delimiter rest := fun _ => next
    rw [doubleChar_cons_of_ne other, List.cons_append, modeThrough,
      step_quoted_backslash mark escapes]
    exact modeThrough_ne_plain_of_astray mark tagless astray after
  induction name using harmless.induct with
  | case1 => cases harmful
  | case2 c =>
      have slash : c = '\\' := by simpa [harmless] using harmful
      subst slash
      exact lost rfl
  | case3 c d rest slash ih =>
      rw [beq_iff_eq] at slash
      subst slash
      by_cases same : d = delimiter
      · exact lost same
      · have behind : harmless delimiter rest = false := by simpa [harmless, same] using harmful
        rw [show '\\' :: d :: rest = ['\\', d] ++ rest from rfl, doubleChar_append,
          List.append_assoc, modeThrough_append, (readsQuoted_escape mark escapes same _).leads]
        exact ih behind
  | case4 c d rest plain ih =>
      rw [harmless, if_neg plain] at harmful
      rw [← List.singleton_append, doubleChar_append, List.append_assoc, modeThrough_append,
        (readsQuoted_unit mark (fun _ => by simpa using plain) _).leads]
      exact ih harmful

/-- If a text that is shown as it is on its own is also shown behind a token, the machine stands
outside of all tokens behind the token. -/
theorem Lexis.modeThrough_eq_plain_of_mask {token : List Char} {c : Char}
    (alone : lexis.mask [c] = [c]) (feed : c ≠ '\n') (blanked : blank c ≠ c)
    (shown : lexis.mask (token ++ [c]) = token.map blank ++ lexis.mask [c]) :
    lexis.modeThrough .plain token [c] = .plain := by
  rw [alone, Lexis.mask, hideFrom_eq_hide, marksFrom_append, hide_append (by simp)] at shown
  have last := (List.append_inj' shown (by simp [hide])).2
  cases plain : (lexis.step (lexis.modeThrough .plain token [c]) c []).1.isPlain with
  | false => simp [hide, marksFrom, plain, blanked] at last
  | true =>
      have mark : (lexis.step (lexis.modeThrough .plain token [c]) c []).1 = .plain := by
        revert plain
        cases (lexis.step (lexis.modeThrough .plain token [c]) c []).1 <;> simp [Mark.isPlain]
      exact ((cases_of_plain_mark mark).resolve_right feed).1

/-- A text as it is read behind a quoted name: on its own. -/
def Lexis.ReadsOn (lexis : Lexis) (delimiter : Char) (token : List Char) : Prop :=
  ∀ text : List Char, text.head? ≠ some delimiter →
    lexis.mask (token ++ text) = token.map blank ++ lexis.mask text

/-- Where backslashes escape, every text is read on its own behind a quoted name only if no
backslash of the name takes a mark or the end of the name with it. -/
theorem Lexis.harmless_of_readsOn (mark : isQuoteMark delimiter = true)
    (tagless : lexis.dollarQuotes = false) (escapes : lexis.backslashEscapes = true)
    {name : List Char} (reads : lexis.ReadsOn delimiter (quoteWith delimiter name)) :
    harmless delimiter name = true := by
  cases harmful : harmless delimiter name with
  | true => rfl
  | false =>
      have apart : ['x'].head? ≠ some delimiter := by
        rintro ⟨⟩
        cases mark
      have alone : lexis.mask ['x'] = ['x'] := by
        simp [Lexis.mask, hideFrom, step, stepPlain, dollarTag?, closing?, Mark.isPlain]
      have outside := modeThrough_eq_plain_of_mask alone (by decide) (by decide) (reads _ apart)
      rw [quoteWith, modeThrough, step_plain_of_isQuoteMark mark] at outside
      exact absurd outside (modeThrough_ne_plain_of_harmful mark tagless escapes harmful _)

/-- A double-quoted name is one quoted token for its engine, whatever the name is, in front of every
text that does not go on with a double quote. A name in backticks is one for its engine exactly if
no backslash of the name takes a backtick or the end of the name with it; if one does, the text
behind the name is not read on its own. Both quoted names stand for the name. -/
theorem quotedName_opaque (name : String) :
    (∀ text : List Char, text.head? ≠ some '\x22' →
      (Lexis.ofDialect .sqlite).Opaque (quoteSqlite name).toList text) ∧
    (harmless '\x60' name.toList = true ↔
      ∀ text : List Char, text.head? ≠ some '\x60' →
        (Lexis.ofDialect .mysql).Opaque (quoteMysql name).toList text) ∧
    (harmless '\x60' name.toList = true ↔
      (Lexis.ofDialect .mysql).ReadsOn '\x60' (quoteMysql name).toList) ∧
    unquote '\x22' (quoteSqlite name).toList = name.toList ∧
    unquote '\x60' (quoteMysql name).toList = name.toList := by
  have safe : harmless '\x60' name.toList = true → ∀ text : List Char, text.head? ≠ some '\x60' →
      (Lexis.ofDialect .mysql).Opaque (quoteWith '\x60' name.toList) text :=
    fun safe _ apart => Lexis.opaque_quoteWith rfl (fun _ => safe) apart
  have needed : (Lexis.ofDialect .mysql).ReadsOn '\x60' (quoteWith '\x60' name.toList) →
      harmless '\x60' name.toList = true :=
    Lexis.harmless_of_readsOn rfl rfl rfl
  simp only [quoteSqlite, quoteMysql, String.toList_ofList]
  exact ⟨fun _ apart => Lexis.opaque_quoteWith rfl (fun escapes => by cases escapes) apart,
    ⟨safe, fun all => needed fun text apart => (all text apart).mask⟩,
    ⟨fun kept text apart => (safe kept text apart).mask, needed⟩,
    unquote_quoteWith _, unquote_quoteWith _⟩

/-- The backslash at the end of a name takes the closing backtick with it, and the text behind the
name is read as a part of it. -/
theorem quotedName_swallows :
    (Lexis.ofDialect .mysql).mask ((quoteMysql "a\\").toList ++ [' ', 'x']) ≠
      (quoteMysql "a\\").toList.map blank ++ (Lexis.ofDialect .mysql).mask [' ', 'x'] := by
  decide

end QueryDesk.Sql
