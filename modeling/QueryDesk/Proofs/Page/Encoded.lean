/-
Module: QueryDesk.Proofs.Page.Encoded
Purpose: The row offset that a statement encodes: the number behind its last OFFSET, or the first count of a
  LIMIT that has two, or else zero. Trailing text does not matter to it, and an offset that was written into a
  statement is read there as long as nothing goes on with its digits.
Imports: QueryDesk.Proofs.Page.ServerBound, QueryDesk.Proofs.Sql.PairedLimit
Main exports: encodedOffset?, encodedOffset?_append_trailing, encodesOffset_iff_stops
-/
import QueryDesk.Proofs.Page.ServerBound
import QueryDesk.Proofs.Sql.PairedLimit

namespace QueryDesk.Sql

open QueryDesk.Text QueryDesk.Number

variable {limit offset : Int} {masked front back head count tail after key more rest : List Char}

/-- The number at a place, behind blanks, if the whole unbroken run there is one. -/
def numberAt? (masked : List Char) (place : Nat) : Option Int :=
  (countValue? ((blanks (masked.drop place)).takeWhile isRunChar)).map Int.ofNat

/-- The offset of a LIMIT: the first one of two counts, or zero. -/
def limitOffset? (masked : List Char) (found : Hit) : Option Int :=
  match found.group? 1, found.group? 0 with
  | some _, some count => numberAt? masked count.start
  | _, _ => some 0

/-- The row offset that a statement encodes: the number behind its last OFFSET, or the offset of its last
LIMIT, or else zero. -/
def encodedOffset? (masked : List Char) : Option Int :=
  match lastTopLevel? offsetKeyword masked, lastTopLevel? limitClause masked with
  | some keyword, _ => numberAt? masked keyword.stop
  | none, some found => limitOffset? masked found
  | none, none => some 0

theorem numberAt?_append (front back : List Char) (place : Nat) :
    numberAt? (front ++ back) (place + front.length) = numberAt? back place := by
  rw [numberAt?, Nat.add_comm, List.drop_length_add_append]
  rfl

/-- The offset behind the last OFFSET. -/
theorem encodedOffset?_of_keyword {found : Match} (last : LastAt offsetKeyword front back found) :
    encodedOffset? (front ++ back) = numberAt? back found.length := by
  have here := (lastTopLevel?_eq_some_iff keyed_offsetKeyword).2 ⟨front, back, found, rfl, last, rfl⟩
  have place := numberAt?_append front back found.length
  rw [encodedOffset?, here]
  simp only [Match.at]
  rwa [Nat.add_comm]

/-- The first count of a LIMIT that has two. -/
theorem encodedOffset?_of_pair {count second : Span} {size : Nat} (no_offset : Clear offsetKeyword 0 none (front ++ back))
    (last : LastAt limitClause front back ⟨size, [some count, some second]⟩) :
    encodedOffset? (front ++ back) = numberAt? back count.start := by
  have here := (lastTopLevel?_eq_some_iff keyed_limitClause).2 ⟨front, back, _, rfl, last, rfl⟩
  have place := numberAt?_append front back count.start
  rw [encodedOffset?, (lastTopLevel?_eq_none_iff keyed_offsetKeyword).2 no_offset, here]
  exact place

/-- The statements without an offset: they have no OFFSET, and their last LIMIT has one count. -/
theorem encodedOffset?_eq_zero (no_offset : Clear offsetKeyword 0 none masked)
    (single : ∀ found ∈ lastTopLevel? limitClause masked, found.group? 1 = none) :
    encodedOffset? masked = some 0 := by
  rw [encodedOffset?, (lastTopLevel?_eq_none_iff keyed_offsetKeyword).2 no_offset]
  cases found : lastTopLevel? limitClause masked with
  | none => rfl
  | some hit =>
      simp only [limitOffset?, single hit found]

/-- In a text that is clear of LIMITs with two counts the last LIMIT has one. -/
theorem single_of_clear (unpaired : Clear pairedLimit 0 none masked) :
    ∀ found ∈ lastTopLevel? limitClause masked, found.group? 1 = none := by
  intro hit found
  obtain ⟨front, back, matched, rfl, last, rfl⟩ := (lastTopLevel?_eq_some_iff keyed_limitClause).1 found
  cases second : matched.groups[1]?.join with
  | none => rw [Match.group?_at, second, Option.map_none]
  | some span =>
      have paired : pairedLimit (lastBefore none front) back = some matched :=
        narrowed_eq_some_iff.2 ⟨last.matched, by rw [second]; rfl⟩
      exact absurd unpaired (not_clear_of_matched keyed_pairedLimit last.depth paired)

/-- A text without a LIMIT has none with two counts. -/
theorem single_of_no_limit (no_limit : Clear limitClause 0 none masked) :
    ∀ found ∈ lastTopLevel? limitClause masked, found.group? 1 = none :=
  single_of_clear (no_limit.narrowed _)

theorem numberAt?_append_trailing {tail : List Char} (trailing : IsTrailing tail) {place : Nat}
    (inside : place ≤ masked.length) : numberAt? (masked ++ tail) place = numberAt? masked place := by
  rw [numberAt?, numberAt?, List.drop_append_of_le_length inside, run_append_trailing _ trailing]

/-- Trailing text does not matter to the encoded offset. -/
theorem encodedOffset?_append_trailing (masked : List Char) {tail : List Char} (trailing : IsTrailing tail) :
    encodedOffset? (masked ++ tail) = encodedOffset? masked := by
  have offsets : lastTopLevel? offsetKeyword (masked ++ tail) = lastTopLevel? offsetKeyword masked := by
    rw [lastTopLevel?, topLevelHits_append_trailing keyed_offsetKeyword local_offsetKeyword _ trailing]
    rfl
  have limits : lastTopLevel? limitClause (masked ++ tail) = lastTopLevel? limitClause masked := by
    rw [lastTopLevel?, topLevelHits_append_trailing keyed_limitClause local_limitClause _ trailing]
    rfl
  rw [encodedOffset?, encodedOffset?, offsets, limits]
  cases keyword : lastTopLevel? offsetKeyword masked with
  | some hit =>
      obtain ⟨front, back, found, rfl, last, rfl⟩ := (lastTopLevel?_eq_some_iff keyed_offsetKeyword).1 keyword
      refine numberAt?_append_trailing trailing ?_
      have size := (keyed_offsetKeyword.extent last.matched).2
      simp only [Match.at, List.length_append]
      omega
  | none =>
      cases found : lastTopLevel? limitClause masked with
      | none => rfl
      | some hit =>
          simp only [limitOffset?]
          cases group : hit.group? 0 with
          | none => cases hit.group? 1 <;> rfl
          | some count =>
              obtain ⟨-, before, inside⟩ :=
                Placed.of_lastTopLevel? (placed_limitClause 0) keyed_limitClause found group
              cases hit.group? 1 with
              | none => rfl
              | some second => exact numberAt?_append_trailing trailing (by omega)

/-! ### An offset that was written

The numeral of an offset is read with the whole run that it begins, so that it is read as it was written
only where nothing goes on with its digits. A longer run is no numeral, or that of another number. -/

/-- The last OFFSET of a statement in which one was written, and what is read there. -/
theorem encodedOffset?_written {gap : List Char} (nonneg : 0 ≤ offset) (depth : depthAfter 0 front = 0)
    (begins : wordBegins (lastBefore none front) = true) (isGap : IsRun isBlank gap)
    (clear : Clear offsetKeyword 0 (some '0') rest) :
    encodedOffset? (front ++ ("OFFSET".toList ++ (gap ++ (numeral offset ++ rest)))) =
      (countValue? (numeral offset ++ rest.takeWhile isRunChar)).map Int.ofNat := by
  have isRun : IsRun isDigit (numeral offset) := isCount_numeral nonneg
  have ends : wordEnds (gap ++ (numeral offset ++ rest)) = true :=
    stops_isWord_iff.1 (Stops.append isGap (fun _ => isWord_eq_false_of_isBlank) _)
  have matched := @offsetKeyword_spelled "OFFSET".toList _ _ begins fold_offset ends
  have behind : Clear offsetKeyword (depthAfter 0 "OFFSET".toList)
      (lastBefore (lastBefore none front) "OFFSET".toList) (gap ++ (numeral offset ++ rest)) := by
    rw [depthAfter_of_isWord fun c => isWord_of_mem_key fold_offset (by decide)]
    refine clear_of_quiet (keyed_offsetKeyword.quiet_of_isBlank isGap.2 _ _) ?_
    rw [depthAfter_of_isBlank isGap.2]
    refine clear_of_quiet (keyed_offsetKeyword.quiet_of_isDigit isRun.2 _ _) ?_
    rwa [depthAfter_of_isDigit isRun.2,
      clear_iff_of_not_begins keyed_offsetKeyword (wordBegins_of_isDigit isRun _)]
  have last := lastAt_of_split depth (@Solo.skipThrough_eq_zero _ _ solo_offsetKeyword keyed_offsetKeyword 0
    none front _ _ trivial matched) matched rfl behind
  have stops : Stops isBlank (numeral offset ++ rest) :=
    Stops.append isRun (fun _ digit => isBlank_eq_false_of_isWord (isWord_of_isDigit digit)) rest
  rw [encodedOffset?_of_keyword last, numberAt?, List.drop_left' (by decide : "OFFSET".toList.length = 6),
    blanks_append isGap.2 stops, takeWhile_append_of_digits isRun.2]

/-- A number that was written and that nothing goes on with is read. -/
theorem countValue?_of_stops (nonneg : 0 ≤ offset) (stops : Stops isRunChar rest) :
    (countValue? (numeral offset ++ rest.takeWhile isRunChar)).map Int.ofNat = some offset := by
  rw [takeWhile_of_stops stops, List.append_nil, countValue?, digitsValue?_numeral nonneg, Option.map_some,
    Option.some.injEq]
  exact Int.toNat_of_nonneg nonneg

/-- A number that was written and that something goes on with is not read as it was written. -/
theorem countValue?_of_not_stops (positive : 0 < offset) (goes_on : ¬ Stops isRunChar rest) :
    (countValue? (numeral offset ++ rest.takeWhile isRunChar)).map Int.ofNat ≠ some offset := by
  have some_run : rest.takeWhile isRunChar ≠ [] := by
    intro none
    cases rest with
    | nil => exact goes_on trivial
    | cons c more =>
        rw [List.takeWhile_cons] at none
        split_ifs at none with run
        exact goes_on (Bool.eq_false_iff.2 run)
  intro same
  obtain ⟨whole, read, value⟩ := Option.map_eq_some_iff.1 same
  have digits := (IsCount.of_value read).2
  obtain ⟨whole', read', greater⟩ := le_digitsValue?_append (digitsValue?_numeral (Int.le_of_lt positive)) some_run
    fun c member => digits c (List.mem_append_right _ member)
  obtain rfl : whole = whole' := Option.some.inj (read.symm.trans read')
  have : (whole : Int) = offset := value
  omega

/-- An offset that was written is encoded if nothing goes on with it. -/
theorem encodesOffset_of_stops {gap : List Char} (nonneg : 0 ≤ offset) (depth : depthAfter 0 front = 0)
    (begins : wordBegins (lastBefore none front) = true) (isGap : IsRun isBlank gap)
    (clear : Clear offsetKeyword 0 (some '0') rest) (stops : Stops isRunChar rest) :
    encodedOffset? (front ++ ("OFFSET".toList ++ (gap ++ (numeral offset ++ rest)))) = some offset := by
  rw [encodedOffset?_written nonneg depth begins isGap clear, countValue?_of_stops nonneg stops]

/-- An offset above zero that was written is encoded exactly if nothing goes on with it. -/
theorem encodesOffset_iff_stops {gap : List Char} (positive : 0 < offset) (depth : depthAfter 0 front = 0)
    (begins : wordBegins (lastBefore none front) = true) (isGap : IsRun isBlank gap)
    (clear : Clear offsetKeyword 0 (some '0') rest) :
    encodedOffset? (front ++ ("OFFSET".toList ++ (gap ++ (numeral offset ++ rest)))) = some offset ↔
      Stops isRunChar rest := by
  refine ⟨fun encoded => ?_, encodesOffset_of_stops (by omega) depth begins isGap clear⟩
  rw [encodedOffset?_written (by omega) depth begins isGap clear] at encoded
  by_contra goes_on
  exact countValue?_of_not_stops positive goes_on encoded

end QueryDesk.Sql
