/-
Module: QueryDesk.Proofs.Page.Stability
Purpose: When rewriting a rewritten query leaves it as it is.
Imports: QueryDesk.Proofs.Page.Twice, QueryDesk.Proofs.Page.Rewritten
Main exports: LexicallyClosed, Seamless, mask_boundText, Unstable, paginate_paginate_iff
-/
import QueryDesk.Proofs.Page.Twice
import QueryDesk.Proofs.Page.Rewritten

namespace QueryDesk.Sql

open QueryDesk.Text

variable {lexis : Lexis} {dialect : Dialect} {limit offset : Int} {text : List Char}

/-- Whether every parenthesis of a text has its partner, if so many stand open before it. -/
def balanced (depth : Nat) : List Char → Bool
  | [] => depth == 0
  | c :: rest =>
    if c == '(' then balanced (depth + 1) rest
    else if c == ')' then depth != 0 && balanced (depth - 1) rest
    else balanced depth rest

/-- A text whose quoted tokens are closed, and whose parentheses outside of tokens are matched. -/
structure LexicallyClosed (lexis : Lexis) (text : List Char) : Prop where
  closes : lexis.closes text = true
  balanced : balanced 0 (lexis.mask text) = true

theorem depthAfter_of_balanced {depth : Nat} {text : List Char} (all : balanced depth text = true) :
    depthAfter depth text = 0 := by
  induction text generalizing depth with
  | nil => exact beq_iff_eq.1 all
  | cons c rest ih =>
      rw [balanced] at all
      rw [depthAfter, depthStep]
      split_ifs at all ⊢ with opening closing
      · exact ih all
      · rw [Bool.and_eq_true] at all
        exact ih all.2
      · exact ih all

/-- The statement of a closed text ends outside of all parentheses. -/
theorem LexicallyClosed.depth (closed : LexicallyClosed lexis text) :
    depthAfter 0 (statementMask lexis text) = 0 := by
  obtain ⟨after, split, all⟩ := mask_eq_append_terminators closed.closes
  have whole := depthAfter_of_balanced closed.balanced
  rw [split, depthAfter_append] at whole
  rwa [depthAfter_of_flat _ fun c member => ?_] at whole
  have terminator := all c member
  constructor <;> (rintro rfl; revert terminator; decide)

/-- A mask shows its text. -/
theorem Lexis.shows_hideFrom (lexis : Lexis) (hidden : Mark → Bool) (mode : Mode) (text : List Char) :
    Shows (lexis.hideFrom hidden mode text) text := by
  induction text generalizing mode with
  | nil => exact .nil
  | cons c rest ih =>
      refine .cons (fun shown => ?_) (ih _)
      split_ifs at shown ⊢
      · rw [isBlank_blank] at shown
        cases shown
      · rfl

/-- The mask of the bounded statement shows the bounded statement. -/
theorem shows_bounded (closes : (Lexis.ofDialect dialect).closes text = true) (nonneg : 0 ≤ limit)
    (offset_nonneg : 0 ≤ offset) (tagless : TagFree dialect limit offset text) :
    Shows (boundedMask dialect limit offset text) (bounded dialect limit offset text) := by
  rw [← (reread_bounded closes nonneg offset_nonneg tagless).mask]
  exact Lexis.shows_hideFrom _ _ _ _

theorem one_le_clamp (policy : PagePolicy) (requested : Option Int) :
    1 ≤ policy.clamp requested :=
  Int.le_max_left 1 _

theorem directiveOf_offset_nonneg (policy : PagePolicy) (limit offset : Option Int) :
    0 ≤ (directiveOf policy limit offset).offset :=
  Int.le_max_right _ 0

/-! ### The bounded query bounded again

A second rewriting reads the mask of the bounded text. For a seamless text that is the mask of the bounded
statement, of which it is known when a second plan leaves it as it is, and the mask of the submitted text
tells it. -/

/-- No edit of a text joins the characters next to it to another token: none completes a dollar tag, and
no minus is left before the comment that is kept behind the statement. -/
structure Seamless (dialect : Dialect) (limit offset : Int) (text : List Char) : Prop where
  tagless : TagFree dialect limit offset text
  apart : ¬ DashJoins dialect limit offset text

instance (dialect : Dialect) (limit offset : Int) (text : List Char) :
    Decidable (Seamless dialect limit offset text) :=
  decidable_of_iff (TagFree dialect limit offset text ∧ ¬ DashJoins dialect limit offset text)
    ⟨fun ⟨tagless, apart⟩ => ⟨tagless, apart⟩, fun ⟨tagless, apart⟩ => ⟨tagless, apart⟩⟩

/-- The mask of a bounded text is that of its bounded statement, with nothing but blanks behind it. -/
theorem mask_boundText (closes : (Lexis.ofDialect dialect).closes text = true) (nonneg : 0 ≤ limit)
    (offset_nonneg : 0 ≤ offset) (touched : ¬ Untouched dialect text)
    (seamless : Seamless dialect limit offset text) :
    ∃ after, (Lexis.ofDialect dialect).mask (boundText dialect limit offset text) =
        boundedMask dialect limit offset text ++ after ∧ ∀ c ∈ after, isBlank c = true := by
  have hidden := trailer_hidden closes
  have reread := reread_bounded closes nonneg offset_nonneg seamless.tagless
  rw [boundText_eq touched, (reread.extent hidden seamless.apart).2.1]
  exact ⟨_, rfl, mask_of_commentMask (fun _ is_blank => is_blank) hidden⟩

/-- A masked statement whose bounded form a second plan changes. -/
def UnstableMask (dialect : Dialect) (limit offset : Int) (masked : List Char) : Prop :=
  match dialect with
  | .sqlserver => HeadMeetsDigit offset masked
  | _ => LimitUnstable limit offset masked

instance (dialect : Dialect) (limit offset : Int) (masked : List Char) :
    Decidable (UnstableMask dialect limit offset masked) :=
  match dialect with
  | .sqlserver => inferInstanceAs (Decidable (HeadMeetsDigit offset masked))
  | .postgres | .mysql | .sqlite | .generic =>
    inferInstanceAs (Decidable (LimitUnstable limit offset masked))

/-- A second plan leaves a bounded statement as it is exactly if its mask is not one of the unstable
ones. -/
theorem plan_unchanged_iff (closed : LexicallyClosed (Lexis.ofDialect dialect) text)
    (positive : 1 ≤ limit) (offset_nonneg : 0 ≤ offset) (tagless : TagFree dialect limit offset text) :
    Edit.applyAll (plan dialect limit offset (boundedMask dialect limit offset text))
        (bounded dialect limit offset text) = bounded dialect limit offset text ↔
      ¬ UnstableMask dialect limit offset (statementMask (Lexis.ofDialect dialect) text) := by
  have shows := shows_bounded closed.closes (by omega) offset_nonneg tagless
  have same := length_statementText (Lexis.ofDialect dialect) text
  rw [boundedMask, bounded, planOf] at shows ⊢
  cases dialect with
  | sqlserver => exact planSqlServer_unchanged_iff positive offset_nonneg closed.depth same shows
  | postgres | mysql | sqlite | generic =>
      exact planLimit_unchanged_iff positive offset_nonneg closed.depth same shows

/-- A statement that is touched, and whose mask is one of the unstable ones. -/
def Unstable (dialect : Dialect) (limit offset : Int) (text : List Char) : Prop :=
  ¬ Untouched dialect text ∧
    UnstableMask dialect limit offset (statementMask (Lexis.ofDialect dialect) text)

instance (dialect : Dialect) (limit offset : Int) (text : List Char) :
    Decidable (Unstable dialect limit offset text) :=
  inferInstanceAs (Decidable (_ ∧ _))

theorem boundText_unchanged_iff (closed : LexicallyClosed (Lexis.ofDialect dialect) text)
    (positive : 1 ≤ limit) (offset_nonneg : 0 ≤ offset) (touched : ¬ Untouched dialect text)
    (tagless : TagFree dialect limit offset text) (apart : ¬ DashJoins dialect limit offset text) :
    boundText dialect limit offset (boundText dialect limit offset text) =
        boundText dialect limit offset text ↔
      ¬ UnstableMask dialect limit offset (statementMask (Lexis.ofDialect dialect) text) := by
  rw [boundText_boundText closed.closes (by omega) offset_nonneg touched tagless apart limit,
    boundText_eq touched, List.append_cancel_right_eq,
    plan_unchanged_iff closed positive offset_nonneg tagless]

/-- Rewriting the rewritten query with the same arguments leaves it as it is, unless it is unstable: the
limit takes in digits that stand behind a question mark or a SELECT, or the only offset went with the
count that was replaced. -/
theorem paginate_paginate_iff (dialect : Dialect) (policy : PagePolicy) (limit offset : Option Int)
    {sql : String} (closed : LexicallyClosed (Lexis.ofDialect dialect) sql.toList)
    (seamless : ¬ Untouched dialect sql.toList → Seamless dialect (policy.clamp limit)
      (directiveOf policy limit offset).offset sql.toList) :
    paginate dialect policy limit offset (paginate dialect policy limit offset sql).sql =
        paginate dialect policy limit offset sql ↔
      ¬ Unstable dialect (policy.clamp limit) (directiveOf policy limit offset).offset sql.toList := by
  have positive := one_le_clamp policy limit
  have offset_nonneg := directiveOf_offset_nonneg policy limit offset
  simp only [paginate, PagedQuery.mk.injEq, String.toList_ofList, and_true, String.ofList_inj]
  change boundText _ (policy.clamp limit) _ (boundText _ (policy.clamp limit) _ _) =
    boundText _ (policy.clamp limit) _ _ ↔ _
  by_cases untouched : Untouched dialect sql.toList
  · simp [boundText_of_untouched untouched, Unstable, untouched]
  · obtain ⟨tagless, apart⟩ := seamless untouched
    rw [boundText_unchanged_iff closed positive offset_nonneg untouched tagless apart, Unstable]
    simp [untouched]

/-- A clamped LIMIT that gets its offset, with semicolons and a comment behind it. -/
theorem paginate_paginate_of_clamped_limit :
    (LexicallyClosed (Lexis.ofDialect .mysql) "SELECT 'a;' FROM t LIMIT ?; -- rest".toList ∧
      Seamless .mysql 50 20 "SELECT 'a;' FROM t LIMIT ?; -- rest".toList) ∧
    paginate .mysql .standard none (some 20)
        (paginate .mysql .standard none (some 20) "SELECT 'a;' FROM t LIMIT ?; -- rest").sql =
      paginate .mysql .standard none (some 20) "SELECT 'a;' FROM t LIMIT ?; -- rest" := by
  have closed : LexicallyClosed (Lexis.ofDialect .mysql) "SELECT 'a;' FROM t LIMIT ?; -- rest".toList :=
    ⟨by decide +kernel, by decide +kernel⟩
  have seamless : Seamless .mysql 50 20 "SELECT 'a;' FROM t LIMIT ?; -- rest".toList :=
    ⟨by decide +kernel, by decide +kernel⟩
  exact ⟨⟨closed, seamless⟩, (paginate_paginate_iff .mysql .standard none (some 20) closed
    fun _ => seamless).2 (by decide +kernel)⟩

/-- The limit that comes in the place of a question mark takes in the digit behind it, and the second
rewriting clamps the number that comes of it. -/
theorem paginate_paginate_ne_of_numbered_mark :
    LexicallyClosed (Lexis.ofDialect .sqlite) "SELECT * FROM t LIMIT ?1".toList ∧
      paginate .sqlite .standard (some 50) (some 0) "SELECT * FROM t LIMIT ?1" =
        ⟨"SELECT * FROM t LIMIT 501", ⟨50, 0, true⟩⟩ ∧
      paginate .sqlite .standard (some 50) (some 0)
          (paginate .sqlite .standard (some 50) (some 0) "SELECT * FROM t LIMIT ?1").sql ≠
        paginate .sqlite .standard (some 50) (some 0) "SELECT * FROM t LIMIT ?1" :=
  ⟨⟨by decide +kernel, by decide +kernel⟩, by decide +kernel, by decide +kernel⟩

end QueryDesk.Sql
