/-
Module: QueryDesk.Proofs.Sql.Narrowed
Purpose: What holds of every match of a pattern outside of all parentheses. A rule holds of all of them
  exactly if the text is clear of the narrower pattern that has only the matches which break the rule; so
  a rule on matches is put together along a text as clearness is.
Imports: QueryDesk.Proofs.Sql.Tails
Main exports: narrowed, Keyed.narrowed, ClearThrough.narrowed, Solo.clear_narrowed_iff
-/
import QueryDesk.Proofs.Sql.Tails

namespace QueryDesk.Sql

variable {pattern : Pattern} {letter : Char} {kind : List Char → Match → Bool}

/-- The matches of a pattern that are of a kind, which is read off the text that begins with the match. -/
def narrowed (pattern : Pattern) (kind : List Char → Match → Bool) : Pattern := fun before text =>
  (pattern before text).filter (kind text)

theorem narrowed_eq_some_iff {before : Option Char} {text : List Char} {found : Match} :
    narrowed pattern kind before text = some found ↔
      pattern before text = some found ∧ kind text found = true :=
  Option.filter_eq_some_iff

theorem narrowed_eq_none_iff {before : Option Char} {text : List Char} :
    narrowed pattern kind before text = none ↔
      ∀ found, pattern before text = some found → kind text found = false := by
  rw [narrowed, Option.filter_eq_none_iff]
  simp

theorem Keyed.narrowed (keyed : Keyed pattern letter) (kind : List Char → Match → Bool) :
    Keyed (narrowed pattern kind) letter where
  isLetter := keyed.isLetter
  begins matched := keyed.begins (narrowed_eq_some_iff.1 matched).1
  extent matched := keyed.extent (narrowed_eq_some_iff.1 matched).1
  context same := by rw [QueryDesk.Sql.narrowed, QueryDesk.Sql.narrowed, keyed.context same]
  opens matched := keyed.opens (narrowed_eq_some_iff.1 matched).1

/-- A text that is clear of a pattern is clear of one that matches at fewer places. -/
theorem ClearThrough.mono {pattern' : Pattern} {depth : Nat} {before : Option Char} {text after : List Char}
    (clear : ClearThrough pattern depth before text after)
    (fewer : ∀ before text, pattern before text = none → pattern' before text = none) :
    ClearThrough pattern' depth before text after := by
  rw [clearThrough_iff] at clear ⊢
  exact fun init c rest split flat => fewer _ _ (clear init c rest split flat)

theorem ClearThrough.narrowed {depth : Nat} {before : Option Char} {text after : List Char}
    (clear : ClearThrough pattern depth before text after) (kind : List Char → Match → Bool) :
    ClearThrough (narrowed pattern kind) depth before text after :=
  clear.mono fun before text none => by
    rw [QueryDesk.Sql.narrowed, none]
    rfl

/-- A rule holds of every match of a solo pattern if the text is clear of the matches that break it. -/
theorem Solo.clear_narrowed_iff (solo : Solo pattern) (keyed : Keyed pattern letter) {masked : List Char}
    {good : Hit → Prop}
    (rule : ∀ front back found, masked = front ++ back → pattern (lastBefore none front) back = some found →
      (kind back found = false ↔ good (found.at front.length))) :
    Clear (narrowed pattern kind) 0 none masked ↔ ∀ hit ∈ topLevelHits pattern masked, good hit := by
  rw [Clear, QueryDesk.Sql.clearThrough_iff]
  constructor
  · intro clear hit member
    obtain ⟨front, back, found, split, flat, matched, rfl⟩ := (solo.mem_topLevelHits_iff keyed).1 member
    obtain ⟨c, rest, rfl⟩ : ∃ c rest, back = c :: rest := by
      obtain ⟨-, c, rest, same, -⟩ := keyed.begins matched
      exact ⟨c, rest, same⟩
    have none := clear front c rest split flat
    rw [List.append_nil, narrowed_eq_none_iff] at none
    exact (rule _ _ _ split matched).1 (none found matched)
  · intro all front c rest split flat
    rw [List.append_nil, narrowed_eq_none_iff]
    intro found matched
    exact (rule _ _ _ split matched).2 (all _ ((solo.mem_topLevelHits_iff keyed).2
      ⟨front, c :: rest, found, split, flat, matched, rfl⟩))

end QueryDesk.Sql
