/-
Module: QueryDesk.Proofs.Page.Composition
Purpose: Rewritings compose. A chain of rewritings with one offset is one rewriting with the least of their
  limits, whatever their order, unless the only OFFSET of the statement is part of the count that the
  first one replaces.
Imports: QueryDesk.Proofs.Page.Stability
Main exports: boundText_twice_iff, rewriteEach, rewriteEach_eq_boundText
-/
import QueryDesk.Proofs.Page.Stability

namespace QueryDesk.Sql

open QueryDesk.Text

variable {dialect : Dialect} {first offset : Int} {text : List Char}

theorem plan_of_limit (hasLimit : dialect ≠ .sqlserver) (limit offset : Int) (masked : List Char) :
    plan dialect limit offset masked = planLimit limit offset masked := by
  cases dialect with
  | sqlserver => exact absurd rfl hasLimit
  | postgres | mysql | sqlite | generic => rfl

/-- Two rewritings are one with the lesser limit exactly if the offset is not lost. -/
theorem boundText_twice_iff (hasLimit : dialect ≠ .sqlserver)
    (closed : LexicallyClosed (Lexis.ofDialect dialect) text) (nonneg : 0 ≤ first)
    (offset_nonneg : 0 ≤ offset) (touched : ¬ Untouched dialect text)
    (seamless : Seamless dialect first offset text)
    (apart : MarksApart (statementMask (Lexis.ofDialect dialect) text)) (second : Int) :
    boundText dialect second offset (boundText dialect first offset text) =
        boundText dialect (min first second) offset text ↔
      ¬ LosesOffset offset (statementMask (Lexis.ofDialect dialect) text) := by
  rw [boundText_boundText closed.closes nonneg offset_nonneg touched seamless.tagless seamless.apart,
    boundText_eq touched, List.append_cancel_right_eq, boundedMask, bounded, bounded, planOf, planOf,
    plan_of_limit hasLimit, plan_of_limit hasLimit, plan_of_limit hasLimit]
  exact planLimit_twice_iff nonneg offset_nonneg second closed.depth (length_statementText _ _) apart

/-- The query after one rewriting for each requested limit, from the first one on. -/
def rewriteEach (dialect : Dialect) (policy : PagePolicy) (offset : Option Int) (sql : String)
    (requests : List (Option Int)) : String :=
  requests.foldl (fun sql request => (paginate dialect policy request offset sql).sql) sql

/-- Rewritings of a text that was bounded already bring its limit down to the least one. -/
theorem foldl_boundText (hasLimit : dialect ≠ .sqlserver)
    (closed : LexicallyClosed (Lexis.ofDialect dialect) text) (nonneg : 0 ≤ first)
    (offset_nonneg : 0 ≤ offset) (touched : ¬ Untouched dialect text)
    (apart : MarksApart (statementMask (Lexis.ofDialect dialect) text))
    (kept : ¬ LosesOffset offset (statementMask (Lexis.ofDialect dialect) text)) {limits : List Int}
    (all_nonneg : ∀ limit ∈ limits, 0 ≤ limit)
    (seamless : ∀ limit ∈ first :: limits, Seamless dialect limit offset text) :
    limits.foldl (fun text limit => boundText dialect limit offset text)
        (boundText dialect first offset text) =
      boundText dialect (limits.foldl min first) offset text := by
  induction limits generalizing first with
  | nil => rfl
  | cons second rest ih =>
      have second_nonneg := all_nonneg second (by simp)
      have step := (boundText_twice_iff hasLimit closed nonneg offset_nonneg touched
        (seamless first (by simp)) apart second).2 kept
      rw [List.foldl_cons, List.foldl_cons, step]
      refine ih (by omega) (fun limit member => all_nonneg limit (by simp [member])) ?_
      intro limit member
      rcases List.mem_cons.1 member with rfl | later
      · rcases Int.le_total first second with below | below
        · rw [Int.min_eq_left below]
          exact seamless first (by simp)
        · rw [Int.min_eq_right below]
          exact seamless second (by simp)
      · exact seamless limit (by simp [later])

theorem foldl_min_eq {least first : Int} {limits : List Int} (member : least ∈ first :: limits)
    (lower : ∀ limit ∈ first :: limits, least ≤ limit) : limits.foldl min first = least := by
  induction limits generalizing first with
  | nil => exact (List.mem_singleton.1 member).symm
  | cons second rest ih =>
      have below_first := lower first (by simp)
      have below_second := lower second (by simp)
      refine ih ?_ fun limit inside => ?_
      · rcases List.mem_cons.1 member with rfl | later
        · simp [Int.min_eq_left below_second]
        · rcases List.mem_cons.1 later with rfl | further
          · simp [Int.min_eq_right below_first]
          · exact List.mem_cons_of_mem _ further
      · rcases List.mem_cons.1 inside with rfl | later
        · exact Int.le_min.2 ⟨below_first, below_second⟩
        · exact lower limit (by simp [later])

theorem rewriteEach_eq_foldl (dialect : Dialect) (policy : PagePolicy) (offset : Option Int) (sql : String)
    (requests : List (Option Int)) :
    rewriteEach dialect policy offset sql requests =
      String.ofList ((requests.map policy.clamp).foldl
        (fun text limit => boundText dialect limit (directiveOf policy none offset).offset text)
        sql.toList) := by
  induction requests generalizing sql with
  | nil => exact (String.ofList_toList).symm
  | cons request rest ih =>
      have later := ih (paginate dialect policy request offset sql).sql
      rw [paginate, String.toList_ofList] at later
      exact later

/-- A chain of rewritings with one offset is one rewriting with the least of their limits, whatever their
order, so that a later limit never loosens an earlier one. The offset must not be lost with the count
that the first rewriting replaces. -/
theorem rewriteEach_eq_boundText (hasLimit : dialect ≠ .sqlserver) (policy : PagePolicy)
    (offset : Option Int) {sql : String} (closed : LexicallyClosed (Lexis.ofDialect dialect) sql.toList)
    (apart : MarksApart (statementMask (Lexis.ofDialect dialect) sql.toList))
    (kept : ¬ LosesOffset (directiveOf policy none offset).offset
      (statementMask (Lexis.ofDialect dialect) sql.toList)) {requests : List (Option Int)}
    (seamless : ¬ Untouched dialect sql.toList → ∀ request ∈ requests,
      Seamless dialect (policy.clamp request) (directiveOf policy none offset).offset sql.toList)
    {least : Int} (member : least ∈ requests.map policy.clamp)
    (lower : ∀ request ∈ requests, least ≤ policy.clamp request) :
    rewriteEach dialect policy offset sql requests =
      String.ofList (boundText dialect least (directiveOf policy none offset).offset sql.toList) := by
  have offset_nonneg := directiveOf_offset_nonneg policy none offset
  rw [rewriteEach_eq_foldl]
  congr 1
  by_cases untouched : Untouched dialect sql.toList
  · rw [boundText_of_untouched untouched]
    generalize requests.map policy.clamp = limits
    induction limits with
    | nil => rfl
    | cons limit rest ih => rwa [List.foldl_cons, boundText_of_untouched untouched]
  · cases requests with
    | nil => cases member
    | cons request rest =>
        have clamped : ∀ limit ∈ policy.clamp request :: rest.map policy.clamp,
            ∃ request' ∈ request :: rest, policy.clamp request' = limit := fun limit inside =>
          List.mem_map.1 inside
        rw [List.map_cons, List.foldl_cons]
        have whole := @foldl_boundText dialect (policy.clamp request) _ sql.toList hasLimit closed
          (by have := one_le_clamp policy request; omega) offset_nonneg untouched apart kept
          (rest.map policy.clamp) ?_ ?_
        · rw [whole, foldl_min_eq member]
          intro limit inside
          obtain ⟨request', listed, rfl⟩ := clamped limit inside
          exact lower request' listed
        · intro limit inside
          obtain ⟨request', -, rfl⟩ := clamped limit (List.mem_cons_of_mem _ inside)
          have := one_le_clamp policy request'
          omega
        · intro limit inside
          obtain ⟨request', listed, rfl⟩ := clamped limit inside
          exact seamless untouched request' listed

/-- Three rewritings of a statement with a count of an own script, which stays where it fits. -/
theorem rewriteEach_of_two_counts :
    (LexicallyClosed (Lexis.ofDialect .mysql) "SELECT ';' FROM t LIMIT 3, 0٧; # last".toList ∧
      MarksApart (statementMask (Lexis.ofDialect .mysql) "SELECT ';' FROM t LIMIT 3, 0٧; # last".toList) ∧
      ¬ LosesOffset 4 (statementMask (Lexis.ofDialect .mysql) "SELECT ';' FROM t LIMIT 3, 0٧; # last".toList) ∧
      ∀ request ∈ [some 9, none, some 5], Seamless .mysql (PagePolicy.standard.clamp request) 4
        "SELECT ';' FROM t LIMIT 3, 0٧; # last".toList) ∧
    rewriteEach .mysql .standard (some 4) "SELECT ';' FROM t LIMIT 3, 0٧; # last" [some 9, none, some 5] =
      String.ofList (boundText .mysql 5 4 "SELECT ';' FROM t LIMIT 3, 0٧; # last".toList) := by
  have closed : LexicallyClosed (Lexis.ofDialect .mysql) "SELECT ';' FROM t LIMIT 3, 0٧; # last".toList :=
    ⟨by decide +kernel, by decide +kernel⟩
  have apart : MarksApart
      (statementMask (Lexis.ofDialect .mysql) "SELECT ';' FROM t LIMIT 3, 0٧; # last".toList) := by
    decide +kernel
  have kept : ¬ LosesOffset 4
      (statementMask (Lexis.ofDialect .mysql) "SELECT ';' FROM t LIMIT 3, 0٧; # last".toList) := by
    decide +kernel
  have seamless : ∀ request ∈ [some 9, none, some 5], Seamless .mysql (PagePolicy.standard.clamp request) 4
      "SELECT ';' FROM t LIMIT 3, 0٧; # last".toList := by
    decide +kernel
  exact ⟨⟨closed, apart, kept, seamless⟩, rewriteEach_eq_boundText (by decide) .standard (some 4) closed
    apart kept (fun _ => seamless) (by decide +kernel) (by decide +kernel)⟩

/-- The only OFFSET is the name of the placeholder that the first rewriting replaces. The second one adds
an offset, which one rewriting with the lesser limit does not. -/
theorem rewriteEach_ne_of_named_offset :
    LexicallyClosed (Lexis.ofDialect .postgres) "SELECT * FROM t LIMIT :offset".toList ∧
      MarksApart (statementMask (Lexis.ofDialect .postgres) "SELECT * FROM t LIMIT :offset".toList) ∧
      rewriteEach .postgres .standard (some 10) "SELECT * FROM t LIMIT :offset" [some 20, some 5] =
        "SELECT * FROM t LIMIT 5 OFFSET 10" ∧
      (paginate .postgres .standard (some 5) (some 10) "SELECT * FROM t LIMIT :offset").sql =
        "SELECT * FROM t LIMIT 5" :=
  ⟨⟨by decide +kernel, by decide +kernel⟩, by decide +kernel, by decide +kernel, by decide +kernel⟩

end QueryDesk.Sql
