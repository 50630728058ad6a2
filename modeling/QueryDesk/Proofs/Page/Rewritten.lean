/-
Module: QueryDesk.Proofs.Page.Rewritten
Purpose: A bounded text that is bounded again. Its statement is the edited one and its trailer the one
  that was kept, so that the second plan is that of the edited mask. There is one exception: a minus at the
  end of the statement and a line comment directly behind it are read as a longer comment.
Imports: QueryDesk.Proofs.Page.Planned, QueryDesk.Proofs.Page.Skeleton
Main exports: statementText, trailerOf, bounded, DashJoins, boundText_eq, boundText_boundText
-/
import QueryDesk.Proofs.Page.Planned
import QueryDesk.Proofs.Page.Skeleton

namespace QueryDesk.Sql

open QueryDesk.Text

variable {lexis : Lexis} {dialect : Dialect} {limit offset : Int} {text : List Char}

/-- The statement in a text. -/
def statementText (lexis : Lexis) (text : List Char) : List Char :=
  text.take (Extent.ofMask (lexis.commentMask text)).body

/-- What is kept behind the statement of a text. -/
def trailerOf (lexis : Lexis) (text : List Char) : List Char :=
  if isBlankText (text.drop (Extent.ofMask (lexis.commentMask text)).trailer) then []
  else text.drop (Extent.ofMask (lexis.commentMask text)).trailer

/-- The plan for the statement in a text. -/
def planOf (dialect : Dialect) (limit offset : Int) (text : List Char) : List Edit :=
  plan dialect limit offset (statementMask (Lexis.ofDialect dialect) text)

/-- The bounded statement of a text. -/
def bounded (dialect : Dialect) (limit offset : Int) (text : List Char) : List Char :=
  Edit.applyAll (planOf dialect limit offset text) (statementText (Lexis.ofDialect dialect) text)

/-- The mask of the bounded statement. -/
def boundedMask (dialect : Dialect) (limit offset : Int) (text : List Char) : List Char :=
  Edit.applyAll (planOf dialect limit offset text) (statementMask (Lexis.ofDialect dialect) text)

/-- A text that is left as it is. -/
def Untouched (dialect : Dialect) (text : List Char) : Prop :=
  isUntouched ((Lexis.ofDialect dialect).mask text) ((Lexis.ofDialect dialect).commentMask text) = true

instance (dialect : Dialect) (text : List Char) : Decidable (Untouched dialect text) :=
  inferInstanceAs (Decidable (_ = true))

theorem boundText_of_untouched (untouched : Untouched dialect text) :
    boundText dialect limit offset text = text := by
  rw [boundText]
  exact if_pos untouched

theorem boundText_eq (touched : ¬ Untouched dialect text) :
    boundText dialect limit offset text =
      bounded dialect limit offset text ++ trailerOf (Lexis.ofDialect dialect) text := by
  have kept : isUntouched ((Lexis.ofDialect dialect).mask text)
      ((Lexis.ofDialect dialect).commentMask text) = false := Bool.eq_false_iff.2 touched
  rw [boundText]
  dsimp only
  rw [if_neg (by rw [kept]; exact Bool.false_ne_true), trailerOf, bounded, planOf, statementMask,
    statementText]
  split_ifs
  · rw [List.append_nil]
  · rfl

theorem length_statementText (lexis : Lexis) (text : List Char) :
    (statementText lexis text).length = (statementMask lexis text).length := by
  rw [statementText, statementMask, List.length_take, List.length_take, lexis.length_mask]

/-- The statement of a text with closed quotes is closed, and its mask is the part of the mask that it
stands in. -/
theorem statement_closed (closes : lexis.closes text = true) :
    lexis.Closed (statementText lexis text) ∧
      lexis.mask (statementText lexis text) = statementMask lexis text ∧
      lexis.commentMask (statementText lexis text) =
        (lexis.commentMask text).rdropWhile isTerminator := by
  have outside := Lexis.outside_of_rdropWhile idle_terminator closes
  have taken := @take_length_rdropWhile isTerminator (lexis.commentMask text)
  have size : ((lexis.commentMask text).rdropWhile isTerminator).length ≤ text.length := by
    rw [← lexis.length_commentMask text]
    exact (List.rdropWhile_prefix _ _).length_le
  have shown : ∀ hidden : Mark → Bool,
      (lexis.hideFrom hidden .plain text).take ((lexis.commentMask text).rdropWhile isTerminator).length =
        lexis.hideFrom hidden .plain
          (text.take ((lexis.commentMask text).rdropWhile isTerminator).length) := by
    intro hidden
    have halves := Lexis.hideFrom_append_of_seam outside hidden
    rw [List.take_append_drop] at halves
    rw [halves, List.take_left' (by simp [size])]
  rw [statementText, statementMask, Extent.ofMask_eq]
  exact ⟨Lexis.closed_of_seam outside, (shown _).symm, (shown _).symm.trans taken⟩

/-- The last character of a statement is no terminator, if comments are blank. -/
theorem statement_last (closes : lexis.closes text = true) :
    ∀ c ∈ (lexis.commentMask (statementText lexis text)).getLast?, isTerminator c = false := by
  rw [(statement_closed closes).2.2]
  intro c last
  have nonempty : (lexis.commentMask text).rdropWhile isTerminator ≠ [] := by
    rintro none
    rw [none] at last
    cases last
  have final := List.rdropWhile_last_not isTerminator (lexis.commentMask text) nonempty
  rw [List.getLast?_eq_some_getLast nonempty] at last
  cases last
  simpa using final

/-- A text that is hidden by the comment mask or blank begins with a blank or with what opens a
comment. -/
theorem head_of_hidden {d : Char} {more : List Char}
    (all : ∀ c ∈ lexis.commentMask (d :: more), isBlank c = true) :
    isBlank d = true ∨ d = '-' ∧ more.head? = some '-' ∨ d = '#' ∨ d = '/' := by
  have head : isBlank (if (lexis.stepPlain d more).1.isComment then blank d else d) = true :=
    all _ List.mem_cons_self
  by_cases line : ((d == '-' && more.head? == some '-') || (lexis.hashComments && d == '#')) = true
  · simp only [Bool.or_eq_true, Bool.and_eq_true, beq_iff_eq] at line
    rcases line with dash | ⟨-, hash⟩
    · exact .inr (.inl dash)
    · exact .inr (.inr (.inl hash))
  · by_cases block : (d == '/' && more.head? == some '*') = true
    · simp only [Bool.and_eq_true, beq_iff_eq] at block
      exact .inr (.inr (.inr block.1))
    · have shown : (lexis.stepPlain d more).1.isComment = false := by
        rw [Lexis.stepPlain, if_neg line, if_neg block]
        split
        · rfl
        · split <;> rfl
      rw [shown] at head
      exact .inl head

/-- A statement and a text that is hidden behind it do not join, unless they meet in a dash. -/
theorem joins_hidden {front after : List Char}
    (all : ∀ c ∈ lexis.commentMask after, isBlank c = true)
    (apart : ¬ (front.getLast? = some '-' ∧ after.head? = some '-')) (seen : List Char) :
    lexis.joins .plain front seen after = false := by
  cases after with
  | nil => exact Lexis.joins_nil _ _ _ _
  | cons d more =>
      have head := head_of_hidden all
      refine Lexis.joins_eq_false ?_ fun _ _ _ _ _ name => dollarTag?_eq_none_of_stop name ?_
      · rintro c last e ⟨⟩
        rcases head with is_blank | ⟨rfl, -⟩ | rfl | rfl
        · refine meets_eq_false_of_calm c (isCalm_of_isBlank is_blank) ?_
          rintro rfl
          exact absurd is_blank (by decide)
        · have other : c ≠ '-' := by
            rintro rfl
            exact apart ⟨last, rfl⟩
          have quote : (isQuoteMark c && '-' == c) = false := by
            simp [Ne.symm other]
          simp [meets, other, quote]
        · have quote : (isQuoteMark c && '#' == c) = false := by
            by_cases same : '#' = c
            · subst same
              decide
            · simp [same]
          simp [meets, quote]
        · have quote : (isQuoteMark c && '/' == c) = false := by
            by_cases same : '/' = c
            · subst same
              decide
            · simp [same]
          simp [meets, quote]
      · rintro e behind ⟨⟩
        rcases head with is_blank | ⟨rfl, -⟩ | rfl | rfl
        · refine ⟨?_, ?_⟩
          · cases name : isNameChar d with
            | false => rfl
            | true =>
                rw [isBlank_eq_false_of_isWord (isWord_of_isNameChar name)] at is_blank
                cases is_blank
          · rintro rfl
            exact absurd is_blank (by decide)
        all_goals exact ⟨by decide, by decide⟩

/-- The kept trailer of a text with closed quotes is hidden by the comment mask. -/
theorem trailer_hidden (closes : lexis.closes text = true) :
    ∀ c ∈ lexis.commentMask (trailerOf lexis text), isBlank c = true := by
  unfold trailerOf
  split_ifs with blank
  · simp [Lexis.commentMask, Lexis.hideFrom]
  · have outside := Lexis.outside_of_rdropWhile idle_isBlank closes
    have inside := Extent.trailer_le (lexis.commentMask text)
    rw [lexis.length_commentMask] at inside
    have hidden : ∀ c ∈ (lexis.commentMask text).drop
        ((lexis.commentMask text).rdropWhile isBlank).length, isBlank c = true :=
      fun c => idle_of_mem_drop (lexis.commentMask text)
    rw [Extent.ofMask_eq] at inside ⊢
    dsimp only at inside ⊢
    generalize ((lexis.commentMask text).rdropWhile isBlank).length = n at *
    have halves := Lexis.hideFrom_append_of_seam outside Mark.isComment
    rw [List.take_append_drop] at halves
    have behind : (lexis.commentMask text).drop n = lexis.commentMask (text.drop n) := by
      rw [Lexis.commentMask, halves]
      exact List.drop_left' (by simp [inside])
    rwa [← behind]

/-! ### The bounded statement

The edits of the plan are live, and so they can be spliced into the statement. The bounded statement is read
like the statement with the same edits in its mask, and ends where its last character shows. -/

/-- No edit of the plan for a text completes a dollar tag. -/
def TagFree (dialect : Dialect) (limit offset : Int) (text : List Char) : Prop :=
  ∀ edit ∈ planOf dialect limit offset text,
    ¬ CompletesTag (Lexis.ofDialect dialect) (statementMask (Lexis.ofDialect dialect) text)
      (statementText (Lexis.ofDialect dialect) text) edit

instance (dialect : Dialect) (limit offset : Int) (text : List Char) :
    Decidable (TagFree dialect limit offset text) :=
  inferInstanceAs (Decidable (∀ edit ∈ _, _))

theorem applyFrom_ne_nil {edits : List Edit} {position : Nat} {text : List Char}
    (nonempty : ∀ edit ∈ edits, edit.text ≠ []) (some_left : edits = [] → text ≠ []) :
    Edit.applyFrom position text edits ≠ [] := by
  cases edits with
  | nil => exact some_left rfl
  | cons edit rest =>
      have written := nonempty edit (by simp)
      simp [Edit.applyFrom, written]

/-- Live edits leave no terminator at the end. -/
theorem last_of_live {masked : List Char} {edits : List Edit}
    (live : ∀ edit ∈ edits, edit.Live masked) {position : Nat} {text : List Char}
    (size : position + text.length = masked.length)
    (ordered : Edit.InOrder position masked.length edits)
    (last : ∀ c ∈ text.getLast?, isTerminator c = false) :
    ∀ c ∈ (Edit.applyFrom position text edits).getLast?, isTerminator c = false := by
  induction edits generalizing position text with
  | nil => exact last
  | cons edit rest ih =>
      obtain ⟨after, forwards, later⟩ := ordered
      obtain ⟨-, -, nonempty, -, ends⟩ := live edit (by simp)
      have stop_le := later.le
      have last_behind : ∀ c ∈ (text.drop (edit.span.stop - position)).getLast?,
          isTerminator c = false := by
        intro c final
        refine last c ?_
        have some_behind : text.drop (edit.span.stop - position) ≠ [] := by
          rintro none
          rw [none] at final
          cases final
        rwa [← List.take_append_drop (edit.span.stop - position) text,
          List.getLast?_append_of_ne_nil _ some_behind]
      have behind := @ih (fun e member => live e (by simp [member])) edit.span.stop
        (text.drop (edit.span.stop - position)) (by simp only [List.length_drop]; omega) later
        last_behind
      intro c final
      rw [Edit.applyFrom] at final
      by_cases none : Edit.applyFrom edit.span.stop (text.drop (edit.span.stop - position)) rest = []
      · rw [none, List.append_nil, List.getLast?_append_of_ne_nil _ nonempty] at final
        rcases ends with short | ⟨d, written, word⟩
        · refine absurd none (applyFrom_ne_nil (fun e member => (live e (by simp [member])).nonempty) ?_)
          intro _ gone
          have gone_size := congrArg List.length gone
          simp only [List.length_drop, List.length_nil] at gone_size
          omega
        · rw [final] at written
          obtain rfl := Option.some.inj written
          have semicolon : c ≠ ';' := by
            rintro rfl
            exact absurd word (by decide)
          simp [isTerminator, isBlank_eq_false_of_isWord word, semicolon]
      · rw [List.getLast?_append_of_ne_nil _ none] at final
        exact behind c final

/-- How the bounded statement is read. -/
structure Reread (lexis : Lexis) (statement masked : List Char) : Prop where
  closed : lexis.Closed statement
  mask : lexis.mask statement = masked
  last : ∀ c ∈ (lexis.commentMask statement).getLast?, isTerminator c = false

/-- The edits of the plan for a text can be spliced into its statement. -/
theorem spliceable_planOf (closes : (Lexis.ofDialect dialect).closes text = true) (nonneg : 0 ≤ limit)
    (offset_nonneg : 0 ≤ offset) (tagless : TagFree dialect limit offset text) :
    Spliceable (Lexis.ofDialect dialect) 0 (statementText (Lexis.ofDialect dialect) text)
      (planOf dialect limit offset text) := by
  obtain ⟨closed, mask, -⟩ := statement_closed closes
  have planned := planned_plan nonneg offset_nonneg dialect
    (statementMask (Lexis.ofDialect dialect) text)
  have ordered := plan_inOrder dialect limit offset (statementMask (Lexis.ofDialect dialect) text)
  refine @spliceable_of_live _ _ closed _ ?_ planned.breaks ?_ 0 ?_ (.inl rfl)
  · rw [mask]
    exact planned.live
  · rw [mask]
    exact tagless
  · rw [length_statementText]
    exact ordered

theorem reread_bounded (closes : (Lexis.ofDialect dialect).closes text = true) (nonneg : 0 ≤ limit)
    (offset_nonneg : 0 ≤ offset) (tagless : TagFree dialect limit offset text) :
    Reread (Lexis.ofDialect dialect) (bounded dialect limit offset text)
      (boundedMask dialect limit offset text) := by
  obtain ⟨closed, mask, -⟩ := statement_closed closes
  have planned := planned_plan nonneg offset_nonneg dialect
    (statementMask (Lexis.ofDialect dialect) text)
  have ordered := plan_inOrder dialect limit offset (statementMask (Lexis.ofDialect dialect) text)
  have spliceable := spliceable_planOf closes nonneg offset_nonneg tagless
  refine ⟨spliceable.closed closed, ?_, ?_⟩
  · rw [boundedMask, ← mask]
    exact spliceable.hideFrom_applyFrom rfl
  · have comments : (Lexis.ofDialect dialect).commentMask (bounded dialect limit offset text) =
        Edit.applyFrom 0 ((Lexis.ofDialect dialect).commentMask
          (statementText (Lexis.ofDialect dialect) text)) (planOf dialect limit offset text) :=
      spliceable.hideFrom_applyFrom rfl
    rw [comments]
    refine last_of_live planned.live ?_ ordered (statement_last closes)
    rw [Lexis.length_commentMask, length_statementText, Nat.zero_add]

theorem inert_of_terminators {text : List Char} (all : ∀ c ∈ text, isTerminator c = true) :
    Inert text := by
  cases text with
  | nil => exact inert_nil
  | cons c rest =>
      have head := all c (by simp)
      simp only [isTerminator, Bool.or_eq_true, beq_iff_eq] at head
      rcases head with rfl | is_blank
      · exact inert_of_stops (by decide) (by decide)
      · exact inert_of_isBlank is_blank

theorem stops_of_terminators {text : List Char} (all : ∀ c ∈ text, isTerminator c = true) :
    Stops isWord text := by
  cases text with
  | nil => trivial
  | cons c rest =>
      have head := all c (by simp)
      simp only [isTerminator, Bool.or_eq_true, beq_iff_eq] at head
      rcases head with rfl | is_blank
      · exact (by decide : isWord ';' = false)
      · exact isWord_eq_false_of_isBlank is_blank

/-- Terminators behind a text do not matter to whether it is passed through. -/
theorem passthrough_terminators (front : List Char) {text : List Char}
    (all : ∀ c ∈ text, isTerminator c = true) :
    (passthrough none (front ++ text)).isSome = (passthrough none front).isSome := by
  have all_blanks : ∀ c ∈ blanks text, isTerminator c = true := fun c member =>
    all c ((List.dropWhile_suffix _).subset member)
  have stops := stops_of_terminators all
  have same := @passthrough_congr text [] front ⟨inert_of_terminators all, inert_nil,
    inert_of_terminators all_blanks, inert_nil, ⟨fun _ => trivial, fun _ => stops⟩⟩
    (edge_of_stops stops _) (edge_nil front)
  rwa [List.append_nil] at same

theorem SameOpening.passthrough_eq {masked masked' : List Char} (same : SameOpening masked masked') :
    (passthrough none masked).isSome = (passthrough none masked').isSome := by
  obtain ⟨front, x, y, rfl, rfl, ends, edge, edge'⟩ := same
  exact passthrough_congr ends edge edge'

/-- A mask hides what the comment mask hides, and no more than blanks come of it. -/
theorem mask_of_commentMask {kind : Char → Bool} (blanks : ∀ c, isBlank c = true → kind c = true)
    {text : List Char} (all : ∀ c ∈ lexis.commentMask text, kind c = true) :
    ∀ c ∈ lexis.mask text, kind c = true := by
  intro c member
  obtain ⟨i, here⟩ := List.mem_iff_getElem?.1 member
  rw [Lexis.mask, getElem?_hideFrom] at here
  cases mark : (lexis.marks text)[i]? with
  | none =>
      rw [mark] at here
      cases here
  | some m =>
      cases raw : text[i]? with
      | none =>
          rw [mark, raw] at here
          cases here
      | some d =>
          rw [mark, raw] at here
          by_cases is_plain : m = .plain
          · subst is_plain
            refine all c (List.mem_iff_getElem?.2 ⟨i, ?_⟩)
            rw [Lexis.commentMask, getElem?_hideFrom, mark, raw]
            exact here
          · have hidden : (!m.isPlain) = true := by
              cases m with
              | plain => exact absurd rfl is_plain
              | quoteStart | quote | commentStart | comment => rfl
            simp only [hidden, if_true, Option.some.injEq] at here
            rw [← here]
            exact blanks _ (isBlank_blank d)

theorem terminators_of_commentMask {text : List Char}
    (all : ∀ c ∈ lexis.commentMask text, isTerminator c = true) :
    ∀ c ∈ lexis.mask text, isTerminator c = true :=
  mask_of_commentMask (fun c is_blank => by rw [isTerminator, is_blank, Bool.or_true]) all

/-- Behind the statement the mask of a text holds terminators only. -/
theorem mask_eq_append_terminators (closes : lexis.closes text = true) :
    ∃ after, lexis.mask text = statementMask lexis text ++ after ∧
      ∀ c ∈ after, isTerminator c = true := by
  have outside := Lexis.outside_of_rdropWhile idle_terminator closes
  have hidden : ∀ c ∈ (lexis.commentMask text).drop
      ((lexis.commentMask text).rdropWhile isTerminator).length, isTerminator c = true :=
    fun c => idle_of_mem_drop (lexis.commentMask text)
  have size : ((lexis.commentMask text).rdropWhile isTerminator).length ≤ text.length := by
    rw [← lexis.length_commentMask text]
    exact (List.rdropWhile_prefix _ _).length_le
  rw [statementMask, Extent.ofMask_eq]
  dsimp only
  generalize ((lexis.commentMask text).rdropWhile isTerminator).length = n at *
  have halves := fun hidden => Lexis.hideFrom_append_of_seam outside hidden
  simp only [List.take_append_drop] at halves
  have behind : (lexis.commentMask text).drop n = lexis.commentMask (text.drop n) := by
    rw [Lexis.commentMask, halves]
    exact List.drop_left' (by simp [size])
  rw [behind] at hidden
  have split : lexis.mask text = lexis.mask (text.take n) ++ lexis.mask (text.drop n) := halves _
  refine ⟨lexis.mask (text.drop n), ?_, terminators_of_commentMask hidden⟩
  rw [split, List.take_left' (by simp [size])]

/-- A text that is bounded has a statement that passes nothing through. -/
theorem passthrough_statementMask (closes : lexis.closes text = true) :
    (passthrough none (statementMask lexis text)).isSome =
      (passthrough none (lexis.mask text)).isSome := by
  obtain ⟨after, split, all⟩ := mask_eq_append_terminators closes
  rw [split, passthrough_terminators _ all]

/-! ### The bounded text bounded again

Behind the bounded statement stands what was kept: a trailer that the comment mask hides, or nothing. If the
two do not join, then the second extent ends where the first one did, and the second plan is that of the
edited mask. -/

/-- A minus at the end of the bounded statement and a line comment that is kept directly behind it. -/
def DashJoins (dialect : Dialect) (limit offset : Int) (text : List Char) : Prop :=
  (bounded dialect limit offset text).getLast? = some '-' ∧
    (trailerOf (Lexis.ofDialect dialect) text).head? = some '-'

instance (dialect : Dialect) (limit offset : Int) (text : List Char) :
    Decidable (DashJoins dialect limit offset text) :=
  inferInstanceAs (Decidable (_ ∧ _))

theorem rdropWhile_append_of_all {kind : Char → Bool} (front : List Char) {back : List Char}
    (all : ∀ c ∈ back, kind c = true) : (front ++ back).rdropWhile kind = front.rdropWhile kind := by
  rw [List.rdropWhile, List.reverse_append, List.dropWhile_append_of_pos]
  · rfl
  · exact fun c member => all c (List.mem_reverse.1 member)

theorem rdropWhile_of_last {kind : Char → Bool} {text : List Char}
    (last : ∀ c ∈ text.getLast?, kind c = false) : text.rdropWhile kind = text := by
  rw [List.rdropWhile_eq_self_iff]
  intro nonempty
  rw [last _ (List.getLast?_eq_some_getLast nonempty)]
  exact Bool.false_ne_true

theorem isTerminator_of_isBlank {c : Char} (is_blank : isBlank c = true) : isTerminator c = true := by
  simp [isTerminator, is_blank]

theorem isBlank_of_not_terminator {c : Char} (other : isTerminator c = false) : isBlank c = false := by
  simp only [isTerminator, Bool.or_eq_false_iff] at other
  exact other.2

/-- A statement with a hidden text behind it ends where it ends. -/
theorem Reread.extent {front masked after : List Char} (reread : Reread lexis front masked)
    (hidden : ∀ c ∈ lexis.commentMask after, isBlank c = true)
    (apart : ¬ (front.getLast? = some '-' ∧ after.head? = some '-')) :
    Extent.ofMask (lexis.commentMask (front ++ after)) = ⟨front.length, front.length⟩ ∧
      lexis.mask (front ++ after) = masked ++ lexis.mask after ∧
      lexis.commentMask (front ++ after) = lexis.commentMask front ++ lexis.commentMask after := by
  have halves := fun kind => Lexis.hideFrom_append_of_closed reread.closed
    (joins_hidden hidden apart []) kind
  have comments : lexis.commentMask (front ++ after) =
      lexis.commentMask front ++ lexis.commentMask after := halves _
  have masks : lexis.mask (front ++ after) = lexis.mask front ++ lexis.mask after := halves _
  refine ⟨?_, by rw [masks, reread.mask], comments⟩
  rw [Extent.ofMask_eq, comments,
    rdropWhile_append_of_all _ fun c member => isTerminator_of_isBlank (hidden c member),
    rdropWhile_append_of_all _ hidden, rdropWhile_of_last reread.last,
    rdropWhile_of_last fun c last => isBlank_of_not_terminator (reread.last c last),
    lexis.length_commentMask]

theorem trailerOf_eq_nil_or (lexis : Lexis) (text : List Char) :
    trailerOf lexis text = [] ∨ isBlankText (trailerOf lexis text) = false := by
  unfold trailerOf
  split_ifs with blank
  · exact .inl rfl
  · exact .inr (Bool.eq_false_iff.2 blank)

/-- A statement that is not empty, with a hidden text behind it, is bounded by the plan of its mask. -/
theorem Reread.boundText {front masked after : List Char}
    (reread : Reread (Lexis.ofDialect dialect) front masked)
    (hidden : ∀ c ∈ (Lexis.ofDialect dialect).commentMask after, isBlank c = true)
    (apart : ¬ (front.getLast? = some '-' ∧ after.head? = some '-'))
    (kept : after = [] ∨ isBlankText after = false) (nonempty : front ≠ [])
    (bounds : (passthrough none masked).isSome = false) (limit offset : Int) :
    boundText dialect limit offset (front ++ after) =
      Edit.applyAll (plan dialect limit offset masked) front ++ after := by
  obtain ⟨extent, mask, comments⟩ := reread.extent hidden apart
  have touched : ¬ Untouched dialect (front ++ after) := by
    rw [Untouched, isUntouched, mask, comments, passthrough_terminators _
      (terminators_of_commentMask fun c member => isTerminator_of_isBlank (hidden c member)), bounds,
      Bool.false_or, isBlankText, List.all_append]
    have some_shown : (Lexis.ofDialect dialect).commentMask front ≠ [] := by
      intro none
      have size := congrArg List.length none
      rw [Lexis.length_commentMask] at size
      exact nonempty (List.length_eq_zero_iff.1 size)
    have last := isBlank_of_not_terminator
      (reread.last _ (List.getLast?_eq_some_getLast some_shown))
    intro all
    rw [Bool.and_eq_true, List.all_eq_true] at all
    rw [all.1 _ (List.getLast_mem some_shown)] at last
    cases last
  have size : masked.length = front.length := by
    rw [← reread.mask, Lexis.length_mask]
  rw [boundText_eq touched, bounded, planOf, statementMask, statementText, trailerOf, extent, mask]
  dsimp only
  rw [List.take_left, List.drop_left, ← size, List.take_left]
  rcases kept with rfl | kept
  · rw [ite_self]
  · rw [if_neg (by rw [kept]; exact Bool.false_ne_true)]

theorem applyFrom_eq_nil {edits : List Edit} {position : Nat} {text : List Char}
    (nonempty : ∀ edit ∈ edits, edit.text ≠ []) (gone : Edit.applyFrom position text edits = []) :
    edits = [] ∧ text = [] := by
  cases edits with
  | nil => exact ⟨rfl, gone⟩
  | cons edit rest =>
      exact absurd gone (applyFrom_ne_nil nonempty nofun)

/-- Whether an empty statement gets any edits does not depend on the limit. -/
theorem plan_nil_congr {limit' : Int} (none : plan dialect limit offset [] = []) :
    plan dialect limit' offset [] = [] := by
  have clear : ∀ pattern : Pattern, Clear pattern 0 Option.none [] := fun _ => trivial
  have limits : planLimit limit offset [] ≠ [] := by
    rw [planLimit_of_none (clear _) (clear _) (clear _) (clear _)]
    exact List.cons_ne_nil _ _
  cases dialect with
  | sqlserver =>
      by_cases first_page : offset = 0 ∧ Clear offsetKeyword 0 Option.none []
      · obtain ⟨rfl, -⟩ := first_page
        exact planSqlServer_of_no_head limit' (clear _) (clear _) (clear _) rfl
      · have tail : planSqlServer limit offset [] = [] := none
        rw [planSqlServer_of_tail (clear _) (clear _) first_page] at tail
        cases tail
  | postgres | mysql | sqlite | generic => exact absurd none limits

theorem boundText_of_hidden {text : List Char}
    (hidden : ∀ c ∈ (Lexis.ofDialect dialect).commentMask text, isBlank c = true) :
    boundText dialect limit offset text = text := by
  refine boundText_of_untouched ?_
  rw [Untouched, isUntouched, isBlankText, List.all_eq_true.2 hidden, Bool.or_true]

/-- The bounded text is bounded again by the plan of the edited mask, and keeps its trailer. -/
theorem boundText_boundText (closes : (Lexis.ofDialect dialect).closes text = true)
    (nonneg : 0 ≤ limit) (offset_nonneg : 0 ≤ offset) (touched : ¬ Untouched dialect text)
    (tagless : TagFree dialect limit offset text) (apart : ¬ DashJoins dialect limit offset text)
    (limit' : Int) :
    boundText dialect limit' offset (boundText dialect limit offset text) =
      Edit.applyAll (plan dialect limit' offset (boundedMask dialect limit offset text))
        (bounded dialect limit offset text) ++ trailerOf (Lexis.ofDialect dialect) text := by
  have hidden := trailer_hidden closes
  have planned := planned_plan nonneg offset_nonneg dialect
    (statementMask (Lexis.ofDialect dialect) text)
  rw [boundText_eq touched]
  by_cases gone : bounded dialect limit offset text = []
  · have none := applyFrom_eq_nil (fun edit member => (planned.live edit member).nonempty) gone
    have empty : statementMask (Lexis.ofDialect dialect) text = [] := by
      rw [← List.length_eq_zero_iff, ← length_statementText, none.2]
      rfl
    have no_plan : plan dialect limit offset [] = [] := by
      rw [← empty]
      exact none.1
    have no_mask : boundedMask dialect limit offset text = [] := by
      rw [boundedMask, planOf, empty, no_plan]
      rfl
    rw [gone, no_mask, plan_nil_congr no_plan, List.nil_append, boundText_of_hidden hidden]
    rfl
  · have reread := reread_bounded closes nonneg offset_nonneg tagless
    refine reread.boundText hidden apart (trailerOf_eq_nil_or _ _) gone ?_ limit' offset
    have opening : (passthrough none (statementMask (Lexis.ofDialect dialect) text)).isSome =
        (passthrough none (boundedMask dialect limit offset text)).isSome :=
      planned.opening.passthrough_eq
    rw [← opening, passthrough_statementMask closes]
    have kept : isUntouched ((Lexis.ofDialect dialect).mask text)
        ((Lexis.ofDialect dialect).commentMask text) = false := Bool.eq_false_iff.2 touched
    rw [isUntouched, Bool.or_eq_false_iff] at kept
    exact kept.1

end QueryDesk.Sql
