/-
Module: QueryDesk.Proofs.Sql.PairedLimit
Purpose: LIMIT with two counts. What follows a part of a text may be exchanged without making a LIMIT of that
  part one with two counts. A named placeholder can read on into what follows; then the second count would
  be read behind its name, so that is what has to be looked at there.
Imports: QueryDesk.Proofs.Sql.Narrowed, QueryDesk.Proofs.Sql.Exchange
Main exports: pairedLimit, pairedLimit_eq_none_iff, ClearThrough.pairedLimit
-/
import QueryDesk.Proofs.Sql.Narrowed
import QueryDesk.Proofs.Sql.Exchange

namespace QueryDesk.Sql

open QueryDesk.Text

variable {text x y : List Char}

/-- LIMIT with two counts. -/
def pairedLimit : Pattern :=
  narrowed limitClause fun _ found => found.groups[1]?.join.isSome

theorem keyed_pairedLimit : Keyed pairedLimit 'l' :=
  keyed_limitClause.narrowed _

/-- There is no LIMIT with two counts at a place if there is no second count behind the first one. -/
theorem pairedLimit_eq_none_iff {before : Option Char} :
    pairedLimit before text = none ↔
      (wordBegins before = true → ∀ start, (keyword? "limit".toList text).bind blanks1? = some start →
        ∀ rest, rowCount? start = some rest → secondCount? rest = none) := by
  rw [pairedLimit, narrowed, limitClause]
  cases wordBegins before with
  | false => simp
  | true =>
      cases (keyword? "limit".toList text).bind blanks1? with
      | none => simp
      | some start =>
          cases counted : rowCount? start with
          | none => simp [counted]
          | some rest =>
              cases second : secondCount? rest with
              | none => simp [counted, second, upTo]
              | some read => simp [counted, second, upTo]

/-- Behind the first character of a row count there are word characters only. -/
theorem RowCountAt.isWord_tail {first : Char} {more rest : List Char}
    (shape : RowCountAt (first :: more) rest) : ∀ c ∈ more, isWord c = true := by
  have digits : ∀ {run : List Char}, IsRun isDigit run → ∀ c ∈ run, isWord c = true :=
    fun isRun c member => isWord_of_isDigit (isRun.2 c member)
  rcases shape with ⟨run, same, isRun, -⟩ | ⟨isRun, -⟩ | ⟨fold, -⟩ |
    mark | ⟨run, same, isRun, -⟩ | ⟨run, same, isRun, -⟩
  · cases same
    exact digits isRun
  · exact fun c member => digits isRun c (List.mem_cons_of_mem _ member)
  · exact fun c member => isWord_of_mem_key fold (by decide) (List.mem_cons_of_mem _ member)
  · cases mark
    exact nofun
  · cases same
    exact digits isRun
  · cases same
    exact isRun.2

/-- A row count that reads on into what follows a part of a text is a name there, and is read up to its
end. -/
theorem rest_of_crossing {part rest : List Char} (isSuffix : part <:+ text) (inert : Inert x)
    (edge : Edge text x) (read : rowCount? (part ++ x) = some rest) (short : rest.length < x.length) :
    rest = x.dropWhile isWord := by
  obtain ⟨count, split, shape⟩ := exists_rowCountAt read
  -- The count is the part and a beginning of what follows it.
  obtain ⟨inside, rfl, rfl⟩ : ∃ inside, count = part ++ inside ∧ x = inside ++ rest := by
    rcases List.append_eq_append_iff.1 split with ⟨more, same, tail⟩ | ⟨more, same, tail⟩
    · exact ⟨more, same, tail⟩
    · rw [tail, List.length_append] at short
      omega
  have some_inside : inside ≠ [] := by
    rintro rfl
    simp at short
  cases part with
  | nil =>
      have none := inert.count
      rw [List.nil_append] at read
      rw [read] at none
      cases none
  | cons first more =>
      have words := shape.isWord_tail
      have inside_words : ∀ c ∈ inside, isWord c = true := fun c member =>
        words c (List.mem_append_right _ member)
      -- A word does not go on from the part into what follows it.
      have sign : more = [] ∧ isWord first = false := by
        obtain ⟨d, behind, rfl⟩ := List.exists_cons_of_ne_nil some_inside
        have goes_on : isWord d = true := inside_words d (by simp)
        have apart : ∀ c, (first :: more).getLast? = some c → isWord c = false := by
          intro c last
          cases word : isWord c with
          | false => rfl
          | true => exact ((edge.of_suffix isSuffix c last word).false_of_head goes_on).elim
        cases more with
        | nil => exact ⟨rfl, apart first rfl⟩
        | cons e rest' =>
            have last := List.getLast?_eq_some_getLast (List.cons_ne_nil e rest')
            have word := words _ (List.mem_append_left _ (List.mem_of_getLast? last))
            rw [apart _ (by rw [List.getLast?_cons_cons, last])] at word
            cases word
      obtain ⟨rfl, no_word⟩ := sign
      have no_digits : ¬ IsRun isDigit inside := by
        intro isRun
        obtain ⟨d, behind, rfl⟩ := List.exists_cons_of_ne_nil some_inside
        exact inert.digit.false_of_head (isRun.2 d (by simp))
      rcases shape with ⟨run, same, isRun, -⟩ | ⟨isRun, -⟩ | ⟨fold, -⟩ |
        mark | ⟨run, same, isRun, -⟩ | ⟨run, same, -, stops⟩
      · cases same
        exact absurd isRun no_digits
      · have word := isWord_of_isDigit (isRun.2 first (by simp))
        rw [no_word] at word
        cases word
      · have word : isWord first = true := isWord_of_mem_key fold (by decide) (by simp)
        rw [no_word] at word
        cases word
      · cases mark
        exact absurd rfl some_inside
      · cases same
        exact absurd isRun no_digits
      · rw [List.dropWhile_append_of_pos inside_words, dropWhile_of_stops stops]

/-- A part of a text that has no LIMIT with two counts gets none by what follows it, if none is made
behind a name that goes on there. -/
theorem pairedLimit_of_ends {part : List Char} (nonempty : part ≠ []) (ends : Interchangeable x y)
    (edge : Edge part x) (edge' : Edge part y)
    (behind : secondCount? (x.dropWhile isWord) = none → secondCount? (y.dropWhile isWord) = none)
    {before : Option Char} (unpaired : pairedLimit before (part ++ x) = none) :
    pairedLimit before (part ++ y) = none := by
  rw [pairedLimit_eq_none_iff] at unpaired ⊢
  intro begins start' spelled' rest' counted'
  have key := agree_keyword? "limit".toList (by decide) nonempty edge edge'
  rcases key.blanks1? ends with ⟨start, t, spelled, right, along⟩ | ⟨-, stuck⟩
  · obtain rfl : start' = t := Option.some.inj (spelled'.symm.trans right)
    have single := unpaired begins start spelled
    rcases along with ⟨v, isSuffix, rfl, rfl⟩ | ⟨-, inert⟩
    · rcases cross_or_agree_rowCount? (.inl ⟨v, isSuffix, rfl, rfl⟩) ends edge edge' with
        (⟨-, right⟩ | ⟨u, rest_suffix, left, right⟩) | ⟨s, t, left, right, short, short'⟩
      · rw [counted'] at right
        cases right
      · obtain rfl : rest' = u ++ y := Option.some.inj (counted'.symm.trans right)
        rcases secondCount?_cases rest_suffix ends edge edge' with ⟨-, right⟩ |
          ⟨_, _, -, -, found, -⟩ | ⟨_, _, _, _, found, -⟩
        · exact right
        · rw [single _ left] at found
          cases found
        · rw [single _ left] at found
          cases found
      · obtain rfl : rest' = t := Option.some.inj (counted'.symm.trans right)
        have same := rest_of_crossing isSuffix ends.inert edge left short
        rw [rest_of_crossing isSuffix ends.inert' edge' right short']
        exact behind (same ▸ single _ left)
    · rw [inert.count] at counted'
      cases counted'
  · rw [(stuck start' spelled').count] at counted'
    cases counted'

/-- A text that is clear of LIMITs with two counts stays so before another end, if none is made behind a
name that goes on there. -/
theorem ClearThrough.pairedLimit {depth : Nat} {before : Option Char} (ends : Interchangeable x y)
    (edge : Edge text x) (edge' : Edge text y)
    (behind : secondCount? (x.dropWhile isWord) = none → secondCount? (y.dropWhile isWord) = none)
    (clear : ClearThrough pairedLimit depth before text x) :
    ClearThrough pairedLimit depth before text y := by
  induction text generalizing depth before with
  | nil => trivial
  | cons c rest ih =>
      have tail : rest <:+ c :: rest := List.suffix_cons c rest
      refine ⟨fun top => ?_, ih (edge.of_suffix tail) (edge'.of_suffix tail) clear.2⟩
      exact pairedLimit_of_ends (List.cons_ne_nil c rest) ends edge edge' behind (clear.1 top)

end QueryDesk.Sql
