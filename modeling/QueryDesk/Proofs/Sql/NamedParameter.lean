/-
Module: QueryDesk.Proofs.Sql.NamedParameter
Purpose: The named parameters of a masked text, place by place. Matches are collected from left to right
  and do not overlap, but no parameter begins inside of another one, so none is passed over: the names are
  those of all places at which a parameter stands, each listed where it stands first. Which blanks hide
  the quoted tokens and comments makes no difference.
Imports: QueryDesk.Sql.Parameter, QueryDesk.Proofs.Connection.Columns, QueryDesk.Proofs.Sql.LastMatch,
  QueryDesk.Proofs.Sql.Spacing
Main exports: Solo.mem_hits_iff, ParameterAt, solo_namedParameter, ListsParameters,
  listsParameters_parameterNames, parameterNames_spaced
-/
import QueryDesk.Sql.Parameter
import QueryDesk.Proofs.Connection.Columns
import QueryDesk.Proofs.Sql.LastMatch
import QueryDesk.Proofs.Sql.Spacing

namespace QueryDesk.Sql

open QueryDesk.Text

variable {pattern : Pattern} {hit : Hit} {before : Option Char} {masked text : List Char}

/-! ### Matches of a solo pattern

Matches are collected by skipping over each one that is found. If none begins inside of another one,
skipping passes none over, and the collected matches are those at all places. -/

/-- A hit is a match of the pattern at some place of a text that begins at a position. -/
def MatchedAt (pattern : Pattern) (position : Nat) (before : Option Char) (text : List Char)
    (hit : Hit) : Prop :=
  ∃ front back found, text = front ++ back ∧ pattern (lastBefore before front) back = some found ∧
    hit = found.at (position + front.length)

/-- A match in a text is one at its first character or one behind it. -/
theorem matchedAt_cons_iff {position : Nat} {c : Char} {rest : List Char} :
    MatchedAt pattern position before (c :: rest) hit ↔
      (∃ found, pattern before (c :: rest) = some found ∧ hit = found.at position) ∨
        MatchedAt pattern (position + 1) (some c) rest hit := by
  constructor
  · rintro ⟨front, back, found, split, matched, place⟩
    cases front with
    | nil =>
      obtain rfl : back = c :: rest := split.symm
      exact .inl ⟨found, matched, place⟩
    | cons d front =>
      obtain ⟨rfl, rfl⟩ := List.cons_eq_cons.1 split
      refine .inr ⟨front, back, found, rfl, matched, ?_⟩
      rw [place, List.length_cons]
      congr 1
      omega
  · rintro (⟨found, matched, place⟩ | ⟨front, back, found, rfl, matched, place⟩)
    · exact ⟨[], c :: rest, found, rfl, matched, place⟩
    · refine ⟨c :: front, back, found, rfl, matched, ?_⟩
      rw [place, List.length_cons]
      congr 1
      omega

/-- The matches that are collected from a text are all matches in it, if none begins in what is skipped. -/
theorem Solo.mem_hitsFrom_iff (solo : Solo pattern) (never : ∀ before, pattern before [] = none)
    {position skip : Nat} (quiet : Quiet pattern before (text.take skip) (text.drop skip)) :
    hit ∈ hitsFrom pattern position skip before text ↔ MatchedAt pattern position before text hit := by
  induction text generalizing position skip before with
  | nil =>
    refine iff_of_false List.not_mem_nil ?_
    rintro ⟨front, back, found, split, matched, -⟩
    obtain ⟨rfl, rfl⟩ := List.append_eq_nil_iff.1 split.symm
    rw [never] at matched
    cases matched
  | cons c rest ih =>
    rw [matchedAt_cons_iff]
    cases skip with
    | succ left =>
      have silent : pattern before (c :: rest) = none := by
        have here := quiet.1
        rwa [List.drop_succ_cons, List.take_append_drop] at here
      rw [hitsFrom, ih quiet.2, silent, or_iff_right]
      rintro ⟨found, matched, -⟩
      cases matched
    | zero =>
      cases matched : pattern before (c :: rest) with
      | none =>
        have unskipped : Quiet pattern (some c) (rest.take 0) (rest.drop 0) := trivial
        rw [hitsFrom, matched]
        dsimp only
        rw [ih unskipped, or_iff_right]
        rintro ⟨found, same, -⟩
        cases same
      | some found =>
        rw [hitsFrom, matched]
        dsimp only
        rw [List.mem_cons, ih (solo matched)]
        refine or_congr_left ⟨fun place => ⟨found, rfl, place⟩, ?_⟩
        rintro ⟨other, same, place⟩
        rw [place, Option.some.inj same]

/-- The matches of a solo pattern in a text are those at all its places. -/
theorem Solo.mem_hits_iff (solo : Solo pattern) (never : ∀ before, pattern before [] = none) :
    hit ∈ hits pattern text ↔ MatchedAt pattern 0 none text hit :=
  solo.mem_hitsFrom_iff never trivial

/-- Matches are collected from left to right. -/
theorem pairwise_hitsFrom (pattern : Pattern) (position skip : Nat) (before : Option Char)
    (text : List Char) :
    (hitsFrom pattern position skip before text).Pairwise (fun hit later => hit.start < later.start) ∧
      ∀ hit ∈ hitsFrom pattern position skip before text, position ≤ hit.start := by
  induction text generalizing position skip before with
  | nil => exact ⟨.nil, fun _ member => absurd member List.not_mem_nil⟩
  | cons c rest ih =>
    have next : ∀ skip, (∀ hit ∈ hitsFrom pattern (position + 1) skip (some c) rest, position ≤ hit.start) :=
      fun skip hit member => Nat.le_of_succ_le ((ih (position + 1) skip (some c)).2 hit member)
    cases skip with
    | succ left => exact ⟨(ih _ _ _).1, next left⟩
    | zero =>
      rw [hitsFrom]
      cases pattern before (c :: rest) with
      | none => exact ⟨(ih _ _ _).1, next 0⟩
      | some found =>
        dsimp only
        refine ⟨List.pairwise_cons.2 ⟨fun later member => ?_, (ih _ _ _).1⟩, List.forall_mem_cons.2 ⟨?_, next _⟩⟩
        · exact (ih (position + 1) (found.length - 1) (some c)).2 later member
        · exact Nat.le_refl _

/-- A parameter stands behind a front: a colon that neither a colon nor a word character precedes, and
directly behind it a name, which begins with an ASCII letter or an underscore and is as long as the run of
ASCII letters, digits and underscores there. -/
structure ParameterAt (masked front name rest : List Char) : Prop where
  split : masked = front ++ ':' :: (name ++ rest)
  free : ∀ c ∈ front.getLast?, c ≠ ':' ∧ isWord c = false
  begins : ∃ c ∈ name.head?, isNameStart c = true
  inside : ∀ c ∈ name, isNameChar c = true
  longest : Stops isNameChar rest

theorem lastBefore_none (front : List Char) : lastBefore none front = front.getLast? := by
  rcases front.eq_nil_or_concat with rfl | ⟨init, c, rfl⟩
  · rfl
  · rw [List.concat_eq_append, lastBefore_append, List.getLast?_concat]
    rfl

/-- The match of a name of so many characters. -/
def nameMatch (size : Nat) : Match :=
  ⟨size + 1, [some ⟨1, size + 1⟩]⟩

theorem upTo_name (name rest : List Char) :
    upTo (':' :: (name ++ rest)) rest [some (between (':' :: (name ++ rest)) (name ++ rest) rest)] =
      nameMatch name.length := by
  simp only [upTo, between, nameMatch, List.length_cons, List.length_append, Match.mk.injEq,
    List.cons.injEq, Option.some.injEq, Span.mk.injEq, and_true]
  omega

/-- A parameter read without a look at its characters. -/
theorem namedParameter_eq_char (before : Option Char) (text : List Char) :
    namedParameter before text = (char? ':' text).bind fun rest =>
      if before.all (fun c => !(c == ':' || isWord c)) && rest.head?.any isNameStart then
        some (upTo text (rest.dropWhile isNameChar)
          [some (between text rest (rest.dropWhile isNameChar))])
      else none := by
  cases text with
  | nil => rfl
  | cons c rest =>
    by_cases colon : c = ':'
    · subst colon
      cases before <;> rfl
    · rw [char?_of_ne colon, namedParameter]
      · rfl
      · rintro more same
        exact colon (List.cons.inj same).1

theorem namedParameter_eq_some_iff {found : Match} :
    namedParameter before text = some found ↔
      ∃ name rest, text = ':' :: (name ++ rest) ∧ (∀ c ∈ before, c ≠ ':' ∧ isWord c = false) ∧
        (∃ c ∈ name.head?, isNameStart c = true) ∧ (∀ c ∈ name, isNameChar c = true) ∧
        Stops isNameChar rest ∧ found = nameMatch name.length := by
  have free_iff : before.all (fun c => !(c == ':' || isWord c)) = true ↔
      ∀ c ∈ before, c ≠ ':' ∧ isWord c = false := by
    cases before <;> simp
  rw [namedParameter_eq_char, Option.bind_eq_some_iff]
  constructor
  · rintro ⟨tail, colon, matched⟩
    obtain rfl := char?_eq_some_iff.1 colon
    split_ifs at matched with opens
    rw [Bool.and_eq_true, free_iff] at opens
    obtain ⟨free, begins⟩ := opens
    have whole : tail.takeWhile isNameChar ++ tail.dropWhile isNameChar = tail :=
      List.takeWhile_append_dropWhile
    have head : ∃ c ∈ (tail.takeWhile isNameChar).head?, isNameStart c = true := by
      cases tail with
      | nil => cases begins
      | cons c more =>
        have start : isNameStart c = true := begins
        exact ⟨c, by rw [List.takeWhile_cons_of_pos (by simp [isNameChar, start])]; rfl, start⟩
    refine ⟨_, _, by rw [whole], free, head, fun c => List.mem_takeWhile_imp, stops_dropWhile tail, ?_⟩
    rw [← upTo_name (tail.takeWhile isNameChar) (tail.dropWhile isNameChar), whole, Option.some.inj matched]
  · rintro ⟨name, rest, rfl, free, ⟨c, head, start⟩, inside, longest, rfl⟩
    have behind : (name ++ rest).dropWhile isNameChar = rest := by
      rw [List.dropWhile_append_of_pos inside, dropWhile_of_stops longest]
    have begins : (name ++ rest).head?.any isNameStart = true := by
      rw [List.head?_append, Option.mem_def.1 head]
      exact start
    refine ⟨name ++ rest, rfl, ?_⟩
    rw [behind, upTo_name, if_pos (Bool.and_eq_true_iff.2 ⟨free_iff.2 free, begins⟩)]

/-- A parameter begins with a colon. -/
theorem quiet_namedParameter {front : List Char} (others : ∀ c ∈ front, c ≠ ':') (before : Option Char)
    (after : List Char) : Quiet namedParameter before front after := by
  induction front generalizing before with
  | nil => trivial
  | cons c rest ih =>
    refine ⟨?_, ih (fun d member => others d (List.mem_cons_of_mem c member)) _⟩
    cases matched : namedParameter before (c :: (rest ++ after)) with
    | none => rfl
    | some found =>
      obtain ⟨name, behind, same, -⟩ := namedParameter_eq_some_iff.1 matched
      exact absurd (List.cons.inj same).1 (others c List.mem_cons_self)

/-- No parameter begins in the name of another one. -/
theorem solo_namedParameter : Solo namedParameter := by
  intro before c tail found matched
  obtain ⟨name, rest, same, -, -, inside, -, rfl⟩ := namedParameter_eq_some_iff.1 matched
  obtain ⟨rfl, rfl⟩ := List.cons.inj same
  rw [nameMatch, Nat.add_sub_cancel, List.take_left]
  refine quiet_namedParameter ?_ _ _
  rintro d member rfl
  exact absurd (inside ':' member) (by decide)

theorem mem_hits_namedParameter_iff :
    hit ∈ hits namedParameter masked ↔
      ∃ front name rest, ParameterAt masked front name rest ∧
        hit = (nameMatch name.length).at front.length := by
  rw [solo_namedParameter.mem_hits_iff fun _ => rfl]
  constructor
  · rintro ⟨front, back, found, split, matched, place⟩
    obtain ⟨name, rest, rfl, free, begins, inside, longest, rfl⟩ := namedParameter_eq_some_iff.1 matched
    rw [lastBefore_none] at free
    exact ⟨front, name, rest, ⟨split, free, begins, inside, longest⟩, by rw [place, Nat.zero_add]⟩
  · rintro ⟨front, name, rest, ⟨split, free, begins, inside, longest⟩, place⟩
    refine ⟨front, _, _, split, namedParameter_eq_some_iff.2
      ⟨name, rest, rfl, by rwa [lastBefore_none], begins, inside, longest, rfl⟩, ?_⟩
    rw [place, Nat.zero_add]

/-- The parameters of a masked text with their places. -/
def placedNames (masked : List Char) : List (Nat × List Char) :=
  (hits namedParameter masked).filterMap fun hit =>
    (hit.group? 0).map fun span => (hit.start, span.slice masked)

theorem parameterNames_eq (masked : List Char) :
    parameterNames masked = distinct ((placedNames masked).map Prod.snd) := by
  rw [parameterNames, placedNames, List.map_filterMap]
  congr 2
  funext hit
  rw [Option.map_map]
  rfl

/-- What a match shows: its place and the name. -/
theorem placed_of_parameterAt {front name rest : List Char} (stands : ParameterAt masked front name rest) :
    (((nameMatch name.length).at front.length).group? 0).map
        (fun span => (((nameMatch name.length).at front.length).start, span.slice masked)) =
      some (front.length, name) := by
  have shown : Span.slice ⟨1 + front.length, name.length + 1 + front.length⟩ masked = name := by
    have longer : name.length + 1 + front.length = front.length + (name.length + 1) := Nat.add_comm _ _
    rw [Span.slice, stands.split, longer, Nat.add_comm 1, List.take_length_add_append,
      List.drop_length_add_append, List.take_succ_cons, List.take_left]
    rfl
  exact congrArg (fun name => some (front.length, name)) shown

theorem mem_placedNames_iff {place : Nat} {name : List Char} :
    (place, name) ∈ placedNames masked ↔
      ∃ front rest, ParameterAt masked front name rest ∧ front.length = place := by
  rw [placedNames, List.mem_filterMap]
  constructor
  · rintro ⟨hit, member, shown⟩
    obtain ⟨front, other, rest, stands, rfl⟩ := mem_hits_namedParameter_iff.1 member
    rw [placed_of_parameterAt stands] at shown
    cases shown
    exact ⟨front, rest, stands, rfl⟩
  · rintro ⟨front, rest, stands, rfl⟩
    exact ⟨_, mem_hits_namedParameter_iff.2 ⟨front, name, rest, stands, rfl⟩, placed_of_parameterAt stands⟩

theorem pairwise_placedNames (masked : List Char) :
    (placedNames masked).Pairwise fun earlier later => earlier.1 < later.1 := by
  refine List.Pairwise.filterMap _ (fun hit later before shown here shown' here' => ?_)
    (pairwise_hitsFrom namedParameter 0 0 none masked).1
  obtain ⟨span, -, rfl⟩ := Option.map_eq_some_iff.1 (Option.mem_def.1 here)
  obtain ⟨span', -, rfl⟩ := Option.map_eq_some_iff.1 (Option.mem_def.1 here')
  exact before

/-! ### First appearances

Of a list without its repetitions each name stands where it was first. The places of the parameters rise
along the list, so that the order of the names is that of their first places in the text. -/

section FirstPlaces

variable {α : Type} [BEq α] [LawfulBEq α]

theorem mem_distinct {items : List α} {item : α} : item ∈ distinct items ↔ item ∈ items := by
  induction items using List.reverseRecOn with
  | nil => exact Iff.rfl
  | append_singleton items last ih =>
    rw [distinct_concat, List.mem_append, List.mem_singleton]
    split_ifs with known
    · rw [ih, iff_self_or]
      rintro rfl
      exact ih.1 known
    · rw [List.mem_append, List.mem_singleton, ih]

theorem nodup_distinct (items : List α) : (distinct items).Nodup := by
  induction items using List.reverseRecOn with
  | nil => exact .nil
  | append_singleton items last ih =>
    rw [distinct_concat]
    split_ifs with known
    · exact ih
    · exact List.nodup_append'.2 ⟨ih, List.nodup_singleton _, List.disjoint_singleton.2 known⟩

/-- Without its repetitions a list is in the order of first places. -/
theorem pairwise_distinct (items : List α) :
    (distinct items).Pairwise fun earlier later => items.idxOf earlier < items.idxOf later := by
  induction items using List.reverseRecOn with
  | nil => exact .nil
  | append_singleton items item ih =>
    have kept : (distinct items).Pairwise fun earlier later =>
        (items ++ [item]).idxOf earlier < (items ++ [item]).idxOf later := by
      refine ih.imp_of_mem fun member member' before => ?_
      rwa [List.idxOf_append_of_mem (mem_distinct.1 member),
        List.idxOf_append_of_mem (mem_distinct.1 member')]
    rw [distinct_concat]
    split_ifs with known
    · exact kept
    · refine List.pairwise_append.2 ⟨kept, List.pairwise_singleton _ _, fun earlier member later last => ?_⟩
      obtain rfl := List.mem_singleton.1 last
      rw [mem_distinct] at member known
      rw [List.idxOf_append_of_mem member, List.idxOf_append_of_notMem known]
      exact Nat.lt_of_lt_of_le (List.idxOf_lt_length_of_mem member) (Nat.le_add_right _ _)

end FirstPlaces

/-- Of names that stand at rising places, the one that is listed first has a place before all places of
the other. -/
theorem exists_place_of_idxOf_lt {placed : List (Nat × List Char)}
    (rising : placed.Pairwise fun earlier later => earlier.1 < later.1) {name other : List Char}
    (before : (placed.map Prod.snd).idxOf name < (placed.map Prod.snd).idxOf other) :
    ∃ place, (place, name) ∈ placed ∧ ∀ place', (place', other) ∈ placed → place < place' := by
  have inside : (placed.map Prod.snd).idxOf name < placed.length := by
    rw [← List.length_map (f := Prod.snd)]
    exact Nat.lt_of_lt_of_le before List.idxOf_le_length
  have here : placed[(placed.map Prod.snd).idxOf name].2 = name := by
    have found := List.getElem_idxOf (show (placed.map Prod.snd).idxOf name < _ by rwa [List.length_map])
    rwa [List.getElem_map] at found
  refine ⟨placed[(placed.map Prod.snd).idxOf name].1, ?_, fun place' member => ?_⟩
  · have whole : (placed[(placed.map Prod.snd).idxOf name].1, name) =
        placed[(placed.map Prod.snd).idxOf name] := Prod.ext rfl here.symm
    rw [whole]
    exact List.getElem_mem inside
  · obtain ⟨j, bound, found⟩ := List.mem_iff_getElem.1 member
    have reached : (placed.map Prod.snd).idxOf other ≤ j := by
      by_contra early
      have other_there := List.not_of_lt_findIdx (Nat.lt_of_not_le early)
      rw [List.getElem_map, found, beq_self_eq_true] at other_there
      cases other_there
    have apart := List.pairwise_iff_getElem.1 rising _ j inside bound (Nat.lt_of_lt_of_le before reached)
    rwa [found] at apart

/-- A list holds the names of the parameters of a masked text, each once, in the order of their first
places. -/
structure ListsParameters (masked : List Char) (names : List (List Char)) : Prop where
  nodup : names.Nodup
  mem_iff : ∀ name, name ∈ names ↔ ∃ front rest, ParameterAt masked front name rest
  ordered : names.Pairwise fun earlier later => ∃ front rest, ParameterAt masked front earlier rest ∧
    ∀ front' rest', ParameterAt masked front' later rest' → front.length < front'.length

theorem listsParameters_parameterNames (masked : List Char) :
    ListsParameters masked (parameterNames masked) := by
  rw [parameterNames_eq]
  refine ⟨nodup_distinct _, fun name => ?_, (pairwise_distinct _).imp fun before => ?_⟩
  · rw [mem_distinct, List.mem_map]
    constructor
    · rintro ⟨⟨place, other⟩, member, rfl⟩
      obtain ⟨front, rest, stands, -⟩ := mem_placedNames_iff.1 member
      exact ⟨front, rest, stands⟩
    · rintro ⟨front, rest, stands⟩
      exact ⟨(front.length, name), mem_placedNames_iff.2 ⟨front, rest, stands, rfl⟩, rfl⟩
  · obtain ⟨place, member, first⟩ := exists_place_of_idxOf_lt (pairwise_placedNames masked) before
    obtain ⟨front, rest, stands, rfl⟩ := mem_placedNames_iff.1 member
    exact ⟨front, rest, stands, fun front' rest' stands' =>
      first _ (mem_placedNames_iff.2 ⟨front', rest', stands', rfl⟩)⟩

/-- A character that continues a name is no blank. -/
theorem isNameChar_eq_false_of_isBlank {c : Char} (blank : isBlank c = true) : isNameChar c = false := by
  cases name : isNameChar c with
  | false => rfl
  | true =>
    rw [isBlank_eq_false_of_isWord (isWord_of_isNameChar name)] at blank
    cases blank

theorem isNameChar_space (c : Char) : isNameChar (space c) = isNameChar c :=
  kind_space (fun _ => isNameChar_eq_false_of_isBlank) c

theorem isNameStart_space (c : Char) : isNameStart (space c) = isNameStart c :=
  kind_space (fun d blank => by
    have other := isNameChar_eq_false_of_isBlank blank
    rw [isNameChar, Bool.or_eq_false_iff] at other
    exact other.1) c

theorem spaceBlind_namedParameter : SpaceBlind namedParameter := by
  intro before text
  rw [namedParameter_eq_char, namedParameter_eq_char, char?_spaced (by decide)]
  cases char? ':' text with
  | none => rfl
  | some rest =>
    have free : (before.map space).all (fun c => !(c == ':' || isWord c)) =
        before.all (fun c => !(c == ':' || isWord c)) := by
      cases before with
      | none => rfl
      | some c => simp [beq_space (show isBlank ':' = false by decide)]
    have head : (spaced rest).head?.any isNameStart = rest.head?.any isNameStart := by
      cases rest with
      | nil => rfl
      | cons c more => exact isNameStart_space c
    simp only [Option.map_some, Option.bind_some, free, head, dropWhile_spaced isNameChar_space,
      upTo_spaced, between_spaced]

/-- The names do not depend on which blanks stand for what is hidden. -/
theorem parameterNames_spaced (masked : List Char) :
    parameterNames (spaced masked) = parameterNames masked := by
  have same_hits : hits namedParameter (spaced masked) = hits namedParameter masked :=
    hitsFrom_spaced spaceBlind_namedParameter 0 0 none masked
  rw [parameterNames_eq, parameterNames_eq, placedNames, placedNames, same_hits]
  congr 2
  refine List.filterMap_congr fun hit member => ?_
  obtain ⟨front, name, rest, stands, rfl⟩ := mem_hits_namedParameter_iff.1 member
  have same_name : ∀ span : Span, span.slice masked = name → span.slice (spaced masked) = name := by
    intro span shown
    have sliced : span.slice (spaced masked) = spaced (span.slice masked) := by
      simp only [Span.slice, spaced, List.map_take, List.map_drop]
    rw [sliced, shown, spaced]
    conv_rhs => rw [← List.map_id name]
    refine List.map_congr_left fun c inside => space_of_not_blank ?_
    exact isBlank_eq_false_of_isWord (isWord_of_isNameChar (stands.inside c inside))
  have shown := placed_of_parameterAt stands
  rw [shown]
  obtain ⟨span, at_zero, placed⟩ := Option.map_eq_some_iff.1 shown
  rw [at_zero, Option.map_some, same_name span (congrArg Prod.snd placed)]
  exact congrArg some (Prod.ext rfl rfl)

end QueryDesk.Sql
