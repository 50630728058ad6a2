/-
Module: QueryDesk.Proofs.Page.Split
Purpose: Where a text is split into a statement, what closes it, and a trailer. Taking one semicolon after
  the other off the content of a text, with the blanks and comments before it, ends where the statement
  ends. The split loses nothing that counts: behind the statement there is nothing but blanks, comments and
  semicolons, behind the semicolons nothing but blanks and comments. And it falls between two tokens: the
  mask of the statement alone is the part of the mask of the text.
Imports: QueryDesk.Proofs.Page.Rewritten
Main exports: Trims, trims_iff, Lexis.IdleAt, Lexis.idleAt_behind, SplitsOff, split_is_exact
-/
import QueryDesk.Proofs.Page.Rewritten

namespace QueryDesk.Sql

open QueryDesk.Text

variable {lexis : Lexis} {text masked : List Char} {idle : Char → Bool}

/-! ### Taking off semicolons

Each round looks at the text before one semicolon, which is a prefix of the whole. So it is shown for all
prefixes, by induction on their last character, that the rounds end where nothing but terminators follows. -/

/-- Semicolons are taken off a masked text from a position on: while one stands before the position, the
content that ends before the semicolon gives the next position. -/
inductive Trims (masked : List Char) : Nat → Nat → Prop where
  | done {stop : Nat} (kept : stop = 0 ∨ masked[stop - 1]? ≠ some ';') : Trims masked stop stop
  | round {stop final : Nat} (inside : 0 < stop) (semicolon : masked[stop - 1]? = some ';')
      (later : Trims masked (contentEnd (masked.take (stop - 1))) final) : Trims masked stop final

theorem contentEnd_eq (text : List Char) : contentEnd text = (text.rdropWhile isBlank).length := by
  rw [contentEnd, trimEnd_eq_rdropWhile]

/-- From the content end of a prefix on, the semicolons are taken off with all the terminators of the
prefix. -/
theorem trims_of_prefix {front : List Char} (inside : front <+: masked) :
    Trims masked (contentEnd front) (front.rdropWhile isTerminator).length := by
  induction front using List.reverseRecOn with
  | nil => exact .done (.inl rfl)
  | append_singleton init c ih =>
    have earlier := ih ((List.prefix_append init [c]).trans inside)
    have taken : masked.take init.length = init :=
      (List.prefix_iff_eq_take.1 ((List.prefix_append init [c]).trans inside)).symm
    have last : masked[init.length]? = some c := by
      obtain ⟨more, rfl⟩ := inside
      simp
    rw [contentEnd_eq]
    cases blank : isBlank c with
    | true =>
      rw [List.rdropWhile_concat_pos _ _ _ blank,
        List.rdropWhile_concat_pos _ _ _ (by rw [isTerminator, blank, Bool.or_true]), ← contentEnd_eq]
      exact earlier
    | false =>
      rw [List.rdropWhile_concat_neg _ _ _ (by rw [blank]; exact Bool.false_ne_true), List.length_append,
        List.length_singleton]
      by_cases semicolon : c = ';'
      · subst semicolon
        rw [List.rdropWhile_concat_pos _ _ _ (by decide)]
        refine .round (Nat.succ_pos _) last ?_
        rwa [Nat.add_sub_cancel, taken]
      · have other : ¬ isTerminator c = true := by
          simp [isTerminator, semicolon, blank]
        rw [List.rdropWhile_concat_neg _ _ _ other, List.length_append, List.length_singleton]
        refine .done (.inr ?_)
        rw [Nat.add_sub_cancel, last]
        exact fun same => semicolon (Option.some.inj same)

/-- There is one end. -/
theorem Trims.eq {stop final final' : Nat} (trims : Trims masked stop final)
    (trims' : Trims masked stop final') : final = final' := by
  induction trims with
  | done kept =>
    cases trims' with
    | done => rfl
    | round inside semicolon later =>
      rcases kept with zero | other
      · exact absurd zero (Nat.ne_of_gt inside)
      · exact absurd semicolon other
  | round inside semicolon later ih =>
    cases trims' with
    | done kept =>
      rcases kept with zero | other
      · exact absurd zero (Nat.ne_of_gt inside)
      · exact absurd semicolon other
    | round inside' semicolon' later' => exact ih later'

/-- Taking off semicolons ends, and it ends where the statement does. -/
theorem trims_iff (masked : List Char) (final : Nat) :
    Trims masked (contentEnd masked) final ↔ final = (Extent.ofMask masked).body := by
  have ends : Trims masked (contentEnd masked) (Extent.ofMask masked).body := by
    rw [Extent.ofMask_eq]
    exact trims_of_prefix (List.prefix_refl masked)
  constructor
  · exact fun trims => trims.eq ends
  · rintro rfl
    exact ends

/-- At a place of a text stands part of a comment, or outside of all tokens a character of a kind. -/
def Lexis.IdleAt (lexis : Lexis) (idle : Char → Bool) (text : List Char) (place : Nat) : Prop :=
  ∃ mark c, (lexis.marks text)[place]? = some mark ∧ text[place]? = some c ∧
    (mark.isComment = true ∨ mark = .plain ∧ idle c = true)

/-- Where the comment mask has a character, the text has it too, or it has part of a comment. -/
theorem shown_commentMask {place : Nat} {d : Char} (shown : (lexis.commentMask text)[place]? = some d) :
    ∃ mark c, (lexis.marks text)[place]? = some mark ∧ text[place]? = some c ∧
      (if mark.isComment then blank c else c) = d := by
  rw [Lexis.commentMask, getElem?_hideFrom] at shown
  split at shown
  next mark c at_mark at_text => exact ⟨mark, c, at_mark, at_text, Option.some.inj shown⟩
  next => cases shown

/-- Behind the content of a text with closed quotes stands nothing but comments and idle characters. -/
theorem Lexis.idleAt_behind (kind : Idle idle) (closes : lexis.closes text = true) {place : Nat}
    (behind : ((lexis.commentMask text).rdropWhile idle).length ≤ place) (inside : place < text.length) :
    lexis.IdleAt idle text place := by
  obtain ⟨more, rfl⟩ := Nat.exists_eq_add_of_le behind
  obtain ⟨found, here⟩ : ∃ found, ((lexis.commentMask text).drop
      ((lexis.commentMask text).rdropWhile idle).length)[more]? = some found := by
    exact ⟨_, List.getElem?_drop.trans
      (List.getElem?_eq_getElem (inside.trans_eq (lexis.length_commentMask text).symm))⟩
  have is_idle := idle_of_mem_drop (lexis.commentMask text) (List.mem_of_getElem? here)
  rw [List.getElem?_drop] at here
  obtain ⟨mark, c, at_mark, at_text, shown⟩ := shown_commentMask here
  have free : mark.isQuoted = false := by
    refine not_isQuoted_behind kind closes mark (List.mem_of_getElem? (i := more) ?_)
    rw [List.getElem?_drop, at_mark]
  refine ⟨mark, c, at_mark, at_text, ?_⟩
  rw [← shown] at is_idle
  cases mark with
  | plain => exact .inr ⟨rfl, is_idle⟩
  | quoteStart | quote => cases free
  | commentStart | comment => exact .inl rfl

/-- A text is split into a statement with its mask, and a trailer. -/
structure SplitsOff (lexis : Lexis) (text body masked trailer : List Char) : Prop where
  front : body <+: text
  back : trailer <:+ text
  apart : body.length + trailer.length ≤ text.length
  last : ∀ c ∈ body.getLast?, isBlank c = false ∧ c ≠ ';' ∧
    ∃ mark, (lexis.marks text)[body.length - 1]? = some mark ∧ mark.isComment = false
  between : ∀ place, body.length ≤ place → place + trailer.length < text.length →
    lexis.IdleAt isTerminator text place
  behind : ∀ place, text.length ≤ place + trailer.length → place < text.length →
    lexis.IdleAt isBlank text place
  faithful : masked = lexis.mask body

/-- The last character of a statement is no terminator, and no part of a comment. -/
theorem last_of_statement {c : Char} (last : c ∈ (statementText lexis text).getLast?) :
    isTerminator c = false ∧
      ∃ mark, (lexis.marks text)[(statementText lexis text).length - 1]? = some mark ∧
        mark.isComment = false := by
  have body : (Extent.ofMask (lexis.commentMask text)).body =
      ((lexis.commentMask text).rdropWhile isTerminator).length := by rw [Extent.ofMask_eq]
  have bound : ((lexis.commentMask text).rdropWhile isTerminator).length ≤ text.length := by
    rw [← lexis.length_commentMask text]
    exact (List.rdropWhile_prefix _ _).length_le
  have size : (statementText lexis text).length =
      ((lexis.commentMask text).rdropWhile isTerminator).length := by
    rw [statementText, List.length_take, body, Nat.min_eq_left bound]
  have nonempty : (lexis.commentMask text).rdropWhile isTerminator ≠ [] := by
    rintro none
    rw [none, List.length_nil, List.length_eq_zero_iff] at size
    rw [size] at last
    cases last
  have positive := List.length_pos_iff.2 nonempty
  have final := List.rdropWhile_last_not isTerminator (lexis.commentMask text) nonempty
  have here : (lexis.commentMask text)[((lexis.commentMask text).rdropWhile isTerminator).length - 1]? =
      some (((lexis.commentMask text).rdropWhile isTerminator).getLast nonempty) := by
    obtain ⟨tail, split⟩ := List.rdropWhile_prefix isTerminator (lexis.commentMask text)
    rw [← List.getLast?_eq_some_getLast nonempty, List.getLast?_eq_getElem?]
    conv_lhs => rw [← split]
    rw [List.getElem?_append_left (by rw [split]; omega), split]
  obtain ⟨mark, d, at_mark, at_text, shown⟩ := shown_commentMask here
  have same : d = c := by
    rw [statementText, body, List.getLast?_take, if_neg (Nat.ne_of_gt positive), at_text] at last
    exact Option.some.inj last
  rw [← shown, Bool.not_eq_true] at final
  rw [size]
  cases comment : mark.isComment with
  | true =>
    rw [comment, if_pos rfl, idle_terminator.blank] at final
    cases final
  | false =>
    rw [comment, if_neg Bool.false_ne_true, same] at final
    exact ⟨final, mark, at_mark, comment⟩

theorem splitsOff_extent (closes : lexis.closes text = true) :
    SplitsOff lexis text (statementText lexis text) (statementMask lexis text)
      (text.drop (Extent.ofMask (lexis.commentMask text)).trailer) := by
  have ordered := Extent.body_le_trailer (lexis.commentMask text)
  have inside := Extent.trailer_le (lexis.commentMask text)
  rw [lexis.length_commentMask] at inside
  have size : (statementText lexis text).length = (Extent.ofMask (lexis.commentMask text)).body := by
    rw [length_statementText, length_statementMask]
  have behind_body : ∀ place, (Extent.ofMask (lexis.commentMask text)).body ≤ place →
      place < text.length → lexis.IdleAt isTerminator text place := by
    rw [Extent.ofMask_eq]
    exact fun place => Lexis.idleAt_behind idle_terminator closes
  have behind_content : ∀ place, (Extent.ofMask (lexis.commentMask text)).trailer ≤ place →
      place < text.length → lexis.IdleAt isBlank text place := by
    rw [Extent.ofMask_eq]
    exact fun place => Lexis.idleAt_behind idle_isBlank closes
  refine ⟨List.take_prefix _ _, List.drop_suffix _ _, ?_, fun c last => ?_, fun place front back => ?_,
    fun place back within => ?_, (statement_closed closes).2.1.symm⟩
  · rw [size, List.length_drop]
    omega
  · obtain ⟨other, outside⟩ := last_of_statement last
    rw [isTerminator, Bool.or_eq_false_iff] at other
    exact ⟨other.2, beq_eq_false_iff_ne.1 other.1, outside⟩
  · rw [size] at front
    exact behind_body place front (by omega)
  · rw [List.length_drop] at back
    exact behind_content place (by omega) within

/-- Splitting off the trailer is exact, if every quoted token of the text is closed. Taking off the
semicolons one after the other ends, and only at the end of the statement. The statement is a prefix of the
text, it ends in a character that counts, and masked alone it looks like the part of the mask of the text;
the trailer is a suffix. Between the two stand comments, blanks and semicolons, and in the trailer comments
and blanks. -/
theorem split_is_exact (closes : lexis.closes text = true) :
    (∀ final, Trims (lexis.commentMask text) (contentEnd (lexis.commentMask text)) final ↔
      final = (Extent.ofMask (lexis.commentMask text)).body) ∧
    (Extent.ofMask (lexis.commentMask text)).trailer = contentEnd (lexis.commentMask text) ∧
    SplitsOff lexis text (text.take (Extent.ofMask (lexis.commentMask text)).body)
      ((lexis.mask text).take (Extent.ofMask (lexis.commentMask text)).body)
      (text.drop (Extent.ofMask (lexis.commentMask text)).trailer) :=
  ⟨trims_iff _, rfl, splitsOff_extent closes⟩

/-- A statement that ends in a literal with a semicolon inside, with semicolons among comments behind it. -/
theorem split_is_exact_of_comments :
    (Lexis.ofDialect .mysql).closes "a -'b;'; # c;\n;/* ' */ -- d\n".toList = true ∧
    Trims ((Lexis.ofDialect .mysql).commentMask "a -'b;'; # c;\n;/* ' */ -- d\n".toList) 15 7 ∧
    SplitsOff (Lexis.ofDialect .mysql) "a -'b;'; # c;\n;/* ' */ -- d\n".toList "a -'b;'".toList
      "a -    ".toList "/* ' */ -- d\n".toList := by
  have closes : (Lexis.ofDialect .mysql).closes "a -'b;'; # c;\n;/* ' */ -- d\n".toList = true := by
    decide +kernel
  obtain ⟨trims, -, splits⟩ := split_is_exact closes
  have body : (Extent.ofMask ((Lexis.ofDialect .mysql).commentMask
      "a -'b;'; # c;\n;/* ' */ -- d\n".toList)).body = 7 := by decide +kernel
  have trailer : (Extent.ofMask ((Lexis.ofDialect .mysql).commentMask
      "a -'b;'; # c;\n;/* ' */ -- d\n".toList)).trailer = 15 := by decide +kernel
  rw [body, trailer] at splits
  exact ⟨closes, (trims 7).2 body.symm, splits⟩

end QueryDesk.Sql
