/-
Module: QueryDesk.Proofs.Sql.Relaid
Purpose: Layout and letter case hide nothing from the rules. Two texts are laid out apart if blanks stand
  at the same places of both, in runs of any length and kind, and letters of ASCII may differ in case. A
  reader of such texts reads both or neither and leaves texts of the same relation; so a pattern occurs in
  both or in neither, and every rule fires on both or on neither.
Imports: QueryDesk.Sql.Warning, QueryDesk.Proofs.Sql.Reading
Main exports: Relaid, Coarse, LayoutBlind, FindsAlike, FindsAlike.occurs_eq, scan_congr,
  scan_ignores_layout
-/
import QueryDesk.Sql.Warning
import QueryDesk.Proofs.Sql.Reading

namespace QueryDesk.Sql

open QueryDesk.Text

/-- Two texts that differ in layout and in the case of ASCII letters at most. Where the one has a run of
blanks, as long as it goes on, the other has some run of blanks too. (`Char.toLower` moves the capital
letters of ASCII and nothing else.) -/
inductive Relaid : List Char → List Char → Prop where
  | nil : Relaid [] []
  | solid {c d : Char} {rest rest' : List Char} (shown : isBlank c = false)
      (same : c.toLower = d.toLower) (later : Relaid rest rest') : Relaid (c :: rest) (d :: rest')
  | gap {run run' rest rest' : List Char} (isRun : IsRun isBlank run) (isRun' : IsRun isBlank run')
      (stops : Stops isBlank rest) (later : Relaid rest rest') : Relaid (run ++ rest) (run' ++ rest')

section Letters

variable {c d : Char}

theorem isAsciiLetter_iff_toNat :
    isAsciiLetter c = true ↔ 97 ≤ c.toNat ∧ c.toNat ≤ 122 ∨ 65 ≤ c.toNat ∧ c.toNat ≤ 90 := by
  simp only [isAsciiLetter, Char.le_def, UInt32.le_iff_toNat_le, Bool.or_eq_true, Bool.and_eq_true,
    decide_eq_true_eq]
  rfl

theorem toNat_toLower (c : Char) :
    c.toLower.toNat = if 65 ≤ c.toNat ∧ c.toNat ≤ 90 then c.toNat + 32 else c.toNat := by
  have capital : c.val ≥ 'A'.val ∧ c.val ≤ 'Z'.val ↔ 65 ≤ c.toNat ∧ c.toNat ≤ 90 := by
    simp only [ge_iff_le, UInt32.le_iff_toNat_le]
    rfl
  unfold Char.toLower
  split_ifs with raised small small
  · have sum : (c.val + ('a'.val - 'A'.val)).toNat = (c.toNat + 32) % 2 ^ 32 := UInt32.toNat_add _ _
    rw [Char.toNat, sum]
    omega
  · exact absurd (capital.1 raised) small
  · exact absurd (capital.2 small) raised
  · rfl

/-- Characters of one lower case are equal, or letters of ASCII. -/
theorem cases_of_toLower_eq (same : c.toLower = d.toLower) :
    c = d ∨ isAsciiLetter c = true ∧ isAsciiLetter d = true := by
  have lowered := congrArg Char.toNat same
  rw [toNat_toLower, toNat_toLower] at lowered
  rw [isAsciiLetter_iff_toNat, isAsciiLetter_iff_toNat, ← Char.toNat_inj]
  split_ifs at lowered <;> omega

/-- What holds of all letters, or of none, does not tell their cases apart. -/
theorem kind_congr {kind : Char → Bool} {value : Bool}
    (letters : ∀ c, isAsciiLetter c = true → kind c = value) (same : c.toLower = d.toLower) :
    kind c = kind d := by
  rcases cases_of_toLower_eq same with rfl | ⟨letter, letter'⟩
  · rfl
  · rw [letters c letter, letters d letter']

theorem isWord_of_isAsciiLetter (letter : isAsciiLetter c = true) : isWord c = true := by
  refine isWord_of_isNameChar ?_
  simp [isNameChar, isNameStart, letter]

theorem isBlank_congr (same : c.toLower = d.toLower) : isBlank c = isBlank d :=
  kind_congr (fun _ letter => isBlank_eq_false_of_isWord (isWord_of_isAsciiLetter letter)) same

theorem foldKeyword_of_isAsciiLetter (letter : isAsciiLetter c = true) : foldKeyword c = c.toLower := by
  have low := isAsciiLetter_iff_toNat.1 letter
  unfold foldKeyword
  split
  case h_5 => rfl
  all_goals omega

theorem foldKeyword_congr (same : c.toLower = d.toLower) : foldKeyword c = foldKeyword d := by
  rcases cases_of_toLower_eq same with rfl | ⟨letter, letter'⟩
  · rfl
  · rw [foldKeyword_of_isAsciiLetter letter, foldKeyword_of_isAsciiLetter letter', same]

theorem isDigit_of_isAsciiLetter (letter : isAsciiLetter c = true) : isDigit c = false := by
  refine isDigit_eq_false_of_foldKeyword ?_
  rw [foldKeyword_of_isAsciiLetter letter]
  have range := isAsciiLetter_iff_toNat.1 letter
  have lowered := toNat_toLower c
  simp only [isKeywordLetter, Char.le_def, UInt32.le_iff_toNat_le, Bool.and_eq_true, decide_eq_true_eq]
  change 97 ≤ c.toLower.toNat ∧ c.toLower.toNat ≤ 122
  split_ifs at lowered <;> omega

/-- A class of characters that holds no blank and does not tell the case of a letter. -/
structure Coarse (kind : Char → Bool) : Prop where
  blank : ∀ {c}, isBlank c = true → kind c = false
  letter : ∀ {c d}, c.toLower = d.toLower → kind c = kind d

theorem coarse_isWord : Coarse isWord where
  blank := isWord_eq_false_of_isBlank
  letter := kind_congr fun _ => isWord_of_isAsciiLetter

theorem coarse_isDigit : Coarse isDigit where
  blank := fun blank => by
    cases digit : isDigit _ with
    | false => rfl
    | true => rw [isBlank_eq_false_of_isDigit digit] at blank; cases blank
  letter := kind_congr fun _ => isDigit_of_isAsciiLetter

/-- A sign that is neither a letter nor a blank is told from everything else. -/
theorem coarse_beq {sign : Char} (letter : isAsciiLetter sign = false) (blank : isBlank sign = false) :
    Coarse (· == sign) where
  blank := fun {c} is_blank => beq_false_of_ne fun (same : c = sign) => by
    rw [same, blank] at is_blank
    cases is_blank
  letter := kind_congr fun c is_letter => beq_false_of_ne fun (same : c = sign) => by
    rw [same, letter] at is_letter
    cases is_letter

theorem coarse_isStringQuote : Coarse isStringQuote := by
  have single : Coarse (· == '\x27') := coarse_beq rfl rfl
  have double : Coarse (· == '\x22') := coarse_beq rfl rfl
  constructor
  · intro c is_blank
    rw [isStringQuote, single.blank is_blank, double.blank is_blank]
    rfl
  · intro c d same
    rw [isStringQuote, isStringQuote, single.letter same, double.letter same]

theorem coarse_fold {k : Char} (letter : isKeywordLetter k = true) : Coarse (foldKeyword · == k) where
  blank := fun is_blank => beq_false_of_ne fun same => by
    rw [isBlank_eq_false_of_isWord (isWord_of_foldKeyword (same ▸ letter))] at is_blank
    cases is_blank
  letter := fun same => by rw [foldKeyword_congr same]

end Letters

/-! ### Readers

A reader that is `LayoutBlind` takes two texts that are laid out apart to two such texts, or reads neither.
This is kept when one reader is run after another, and so it is shown for the smallest readers only. -/

/-- The text behind its first character, if that is of a kind. -/
def one? (kind : Char → Bool) : List Char → Option (List Char)
  | c :: rest => if kind c then some rest else none
  | [] => none

/-- A reader that reads both of two texts that are laid out apart, or neither, and leaves two such texts. -/
def LayoutBlind (read : List Char → Option (List Char)) : Prop :=
  ∀ ⦃text text' : List Char⦄, Relaid text text' → Option.Rel Relaid (read text) (read text')

/-- A reader that reads no text which begins with a blank. -/
def StartsSolid (read : List Char → Option (List Char)) : Prop :=
  ∀ ⦃c : Char⦄ (rest : List Char), isBlank c = true → read (c :: rest) = none

variable {text text' : List Char} {read : List Char → Option (List Char)} {kind : Char → Bool}

theorem char?_eq_one? (sign : Char) : char? sign = one? (· == sign) := by
  funext text
  cases text <;> rfl

theorem keyword?_cons (k : Char) (word text : List Char) :
    keyword? (k :: word) text = (one? (foldKeyword · == k) text).bind (keyword? word) := by
  cases text with
  | nil => rfl
  | cons c rest =>
    rw [keyword?, one?]
    split_ifs <;> rfl

theorem Coarse.stops_run (coarse : Coarse kind) {run : List Char} (isRun : IsRun isBlank run)
    (rest : List Char) : Stops kind (run ++ rest) :=
  Stops.append isRun (fun _ => coarse.blank) rest

theorem one?_of_stops (stops : Stops kind text) : one? kind text = none := by
  cases text with
  | nil => rfl
  | cons c rest => rw [one?, if_neg (Bool.eq_false_iff.1 stops)]

theorem Coarse.layoutBlind_one (coarse : Coarse kind) : LayoutBlind (one? kind) := by
  intro text text' relaid
  cases relaid with
  | nil => exact .none
  | solid shown same later =>
    rw [one?, one?, coarse.letter same]
    split_ifs
    · exact .some later
    · exact .none
  | gap isRun isRun' stops later =>
    rw [one?_of_stops (coarse.stops_run isRun _), one?_of_stops (coarse.stops_run isRun' _)]
    exact .none

theorem Coarse.startsSolid_one (coarse : Coarse kind) : StartsSolid (one? kind) := fun _ _ blank =>
  if_neg (Bool.eq_false_iff.1 (coarse.blank blank))

theorem rel_bind {outcome outcome' : Option (List Char)} (both : Option.Rel Relaid outcome outcome')
    {next : List Char → Option (List Char)} (blind : LayoutBlind next) :
    Option.Rel Relaid (outcome.bind next) (outcome'.bind next) := by
  cases both with
  | some later => exact blind later
  | none => exact .none

theorem LayoutBlind.bind (first : LayoutBlind read) {next : List Char → Option (List Char)}
    (second : LayoutBlind next) : LayoutBlind fun text => (read text).bind next :=
  fun _ _ relaid => rel_bind (first relaid) second

theorem StartsSolid.bind (solid : StartsSolid read) (next : List Char → Option (List Char)) :
    StartsSolid fun text => (read text).bind next := by
  intro c rest blank
  change (read (c :: rest)).bind next = none
  rw [solid rest blank]
  rfl

/-- A step that leaves two texts laid out apart may come before a reader. -/
theorem LayoutBlind.after (blind : LayoutBlind read) {step : List Char → List Char}
    (keeps : ∀ {text text' : List Char}, Relaid text text' → Relaid (step text) (step text')) :
    LayoutBlind fun text => read (step text) := fun _ _ relaid => blind (keeps relaid)

theorem layoutBlind_keyword? {word : List Char} (letters : word.all isKeywordLetter = true) :
    LayoutBlind (keyword? word) := by
  induction word with
  | nil =>
    intro text text' relaid
    exact .some relaid
  | cons k word ih =>
    rw [List.all_cons, Bool.and_eq_true] at letters
    have split : keyword? (k :: word) = fun text => (one? (foldKeyword · == k) text).bind (keyword? word) :=
      funext (keyword?_cons k word)
    rw [split]
    exact (coarse_fold letters.1).layoutBlind_one.bind (ih letters.2)

theorem Relaid.dropWhile (coarse : Coarse kind) (relaid : Relaid text text') :
    Relaid (text.dropWhile kind) (text'.dropWhile kind) := by
  induction relaid with
  | nil => exact .nil
  | solid shown same later ih =>
    rw [List.dropWhile_cons, List.dropWhile_cons, coarse.letter same]
    split_ifs
    · exact ih
    · exact .solid shown same later
  | gap isRun isRun' stops later ih =>
    rw [dropWhile_of_stops (coarse.stops_run isRun _), dropWhile_of_stops (coarse.stops_run isRun' _)]
    exact .gap isRun isRun' stops later

theorem Relaid.stops_blank (relaid : Relaid text text') (stops : Stops isBlank text) :
    Stops isBlank text' := by
  cases relaid with
  | nil => trivial
  | solid shown same later => exact (isBlank_congr same).symm.trans shown
  | gap isRun isRun' stops' later =>
    obtain ⟨c, more, rfl⟩ := List.exists_cons_of_ne_nil isRun.1
    exact (stops.false_of_head (isRun.2 c List.mem_cons_self)).elim

theorem Relaid.blanks (relaid : Relaid text text') : Relaid (blanks text) (blanks text') := by
  cases relaid with
  | nil => exact .nil
  | solid shown same later =>
    rw [Sql.blanks, Sql.blanks, dropWhile_of_stops (show Stops isBlank (_ :: _) from shown),
      dropWhile_of_stops (show Stops isBlank (_ :: _) from (isBlank_congr same).symm.trans shown)]
    exact .solid shown same later
  | gap isRun isRun' stops later =>
    rw [blanks_append isRun.2 stops, blanks_append isRun'.2 (later.stops_blank stops)]
    exact later

theorem layoutBlind_char? {sign : Char} (letter : isAsciiLetter sign = false)
    (blank : isBlank sign = false) : LayoutBlind (char? sign) := by
  rw [char?_eq_one?]
  exact (coarse_beq letter blank).layoutBlind_one

theorem Relaid.wordEnds_eq (relaid : Relaid text text') : wordEnds text = wordEnds text' := by
  cases relaid with
  | nil => rfl
  | solid shown same later => rw [wordEnds, wordEnds, coarse_isWord.letter same]
  | gap isRun isRun' stops later =>
    rw [stops_isWord_iff.1 (coarse_isWord.stops_run isRun _),
      stops_isWord_iff.1 (coarse_isWord.stops_run isRun' _)]

theorem layoutBlind_wholeWord? {word : List Char} (letters : word.all isKeywordLetter = true) :
    LayoutBlind (wholeWord? word) := by
  have split : wholeWord? word = fun text =>
      (keyword? word text).bind fun rest => if wordEnds rest then some rest else none := by
    funext text
    rw [wholeWord?]
    cases keyword? word text <;> rfl
  rw [split]
  refine (layoutBlind_keyword? letters).bind fun text text' relaid => ?_
  rw [relaid.wordEnds_eq]
  split_ifs
  · exact .some relaid
  · exact .none

theorem layoutBlind_blanks1? : LayoutBlind blanks1? := by
  intro text text' relaid
  cases relaid with
  | nil => exact .none
  | solid shown same later =>
    rw [blanks1?, blanks1?, if_neg (Bool.eq_false_iff.1 shown),
      if_neg (Bool.eq_false_iff.1 ((isBlank_congr same).symm.trans shown))]
    exact .none
  | gap isRun isRun' stops later =>
    rw [blanks1?_eq_run1?, run1?_append isRun, run1?_append isRun', dropWhile_of_stops stops,
      dropWhile_of_stops (later.stops_blank stops)]
    exact .some later

theorem layoutBlind_digits1? : LayoutBlind digits1? := by
  have split : digits1? = fun text => (one? isDigit text).bind fun rest => some (rest.dropWhile isDigit) := by
    funext text
    cases text with
    | nil => rfl
    | cons c rest =>
      rw [digits1?, one?]
      split_ifs <;> rfl
  rw [split]
  exact coarse_isDigit.layoutBlind_one.bind fun _ _ relaid => .some (relaid.dropWhile coarse_isDigit)

theorem Relaid.optionalQuote (relaid : Relaid text text') :
    Relaid (optionalQuote text) (optionalQuote text') := by
  have quote : LayoutBlind (char? '\x27') := layoutBlind_char? rfl rfl
  have both := quote relaid
  rw [Sql.optionalQuote, Sql.optionalQuote]
  generalize char? '\x27' text = outcome at both
  generalize char? '\x27' text' = outcome' at both
  cases both with
  | some later => exact later
  | none => exact relaid

/-- One of several words is read alike, if each of them is. -/
theorem layoutBlind_oneOf? {after? : List Char → List Char → Option (List Char)} {words : List String}
    (each : ∀ word ∈ words, LayoutBlind (after? word.toList)) : LayoutBlind (oneOf? words after?) := by
  intro text text' relaid
  rw [oneOf?, oneOf?]
  induction words with
  | nil => exact .none
  | cons word rest ih =>
    have here := each word List.mem_cons_self relaid
    have later := ih fun other member => each other (List.mem_cons_of_mem word member)
    rw [List.findSome?_cons, List.findSome?_cons]
    generalize after? word.toList text = outcome at here
    generalize after? word.toList text' = outcome' at here
    cases here with
    | some rest_relaid => exact .some rest_relaid
    | none => exact later

/-! ### Patterns

A pattern is looked for at every place, and two texts that are laid out apart do not have the same places:
one run of blanks may be longer. Inside of a run no match begins, so that only the characters that are no
blanks are compared. -/

/-- A pattern that matches both of two texts that are laid out apart, or neither, and that does not begin
with a blank. Of what stands before it, it only asks whether a word can begin there. -/
structure FindsAlike (pattern : Pattern) : Prop where
  solid : ∀ (before : Option Char) {c : Char} (rest : List Char), isBlank c = true →
    pattern before (c :: rest) = none
  alike : ∀ {before before' : Option Char} {text text' : List Char},
    wordBegins before = wordBegins before' → Relaid text text' →
      (pattern before text).isSome = (pattern before' text').isSome

theorem isSome_eq_of_rel {outcome outcome' : Option (List Char)}
    (both : Option.Rel Relaid outcome outcome') : outcome.isSome = outcome'.isSome := by
  cases both <;> rfl

theorem findsAlike_plainPattern (blind : LayoutBlind read) (solid : StartsSolid read) :
    FindsAlike (plainPattern read) where
  solid := fun _ _ rest blank => by rw [plainPattern, solid rest blank]; rfl
  alike := fun _ relaid => by
    rw [plainPattern, plainPattern, Option.isSome_map, Option.isSome_map]
    exact isSome_eq_of_rel (blind relaid)

theorem findsAlike_wordPattern (blind : LayoutBlind read) (solid : StartsSolid read) :
    FindsAlike (wordPattern read) where
  solid := fun before _ rest blank => by
    rw [wordPattern, (findsAlike_plainPattern blind solid).solid before rest blank, ite_self]
  alike := fun {before before' text text'} begins relaid => by
    rw [wordPattern, wordPattern, begins]
    split_ifs
    · exact (findsAlike_plainPattern blind solid).alike begins relaid
    · rfl

/-- Inside of a run of blanks no match begins, and behind it a word can begin. -/
theorem FindsAlike.occursFrom_run {pattern : Pattern} (finds : FindsAlike pattern) {run : List Char}
    (isRun : IsRun isBlank run) (before : Option Char) (rest : List Char) :
    ∃ c, isBlank c = true ∧ occursFrom pattern before (run ++ rest) = occursFrom pattern (some c) rest := by
  obtain ⟨nonempty, all⟩ := isRun
  induction run generalizing before with
  | nil => exact absurd rfl nonempty
  | cons c more ih =>
    have blank := all c List.mem_cons_self
    have pass : occursFrom pattern before (c :: more ++ rest) = occursFrom pattern (some c) (more ++ rest) := by
      rw [List.cons_append, occursFrom, finds.solid before _ blank]
      rfl
    rw [pass]
    cases more with
    | nil => exact ⟨c, blank, rfl⟩
    | cons d others =>
      exact ih (some c) (List.cons_ne_nil d others) fun e member => all e (List.mem_cons_of_mem c member)

theorem wordBegins_blank {c : Char} (blank : isBlank c = true) : wordBegins (some c) = true := by
  rw [wordBegins, isWord_eq_false_of_isBlank blank]
  rfl

theorem FindsAlike.occursFrom_eq {pattern : Pattern} (finds : FindsAlike pattern)
    {before before' : Option Char} (begins : wordBegins before = wordBegins before')
    (relaid : Relaid text text') : occursFrom pattern before text = occursFrom pattern before' text' := by
  induction relaid generalizing before before' with
  | nil => rfl
  | solid shown same later ih =>
    have next : wordBegins (some _) = wordBegins (some _) := congrArg not (coarse_isWord.letter same)
    rw [occursFrom, occursFrom, finds.alike begins (.solid shown same later), ih next]
  | gap isRun isRun' stops later ih =>
    obtain ⟨c, blank, passed⟩ := finds.occursFrom_run isRun before _
    obtain ⟨d, blank', passed'⟩ := finds.occursFrom_run isRun' before' _
    have next : wordBegins (some c) = wordBegins (some d) :=
      (wordBegins_blank blank).trans (wordBegins_blank blank').symm
    rw [passed, passed', ih next]

/-- Such a pattern occurs in both of two texts that are laid out apart, or in neither. -/
theorem FindsAlike.occurs_eq {pattern : Pattern} (finds : FindsAlike pattern)
    (relaid : Relaid text text') : occurs pattern text = occurs pattern text' :=
  finds.occursFrom_eq rfl relaid

theorem startsSolid_char? {sign : Char} (letter : isAsciiLetter sign = false)
    (blank : isBlank sign = false) : StartsSolid (char? sign) := by
  rw [char?_eq_one?]
  exact (coarse_beq letter blank).startsSolid_one

theorem startsSolid_keyword? {word : List Char} (letters : word.all isKeywordLetter = true)
    (nonempty : word ≠ []) : StartsSolid (keyword? word) := by
  obtain ⟨k, more, rfl⟩ := List.exists_cons_of_ne_nil nonempty
  rw [List.all_cons, Bool.and_eq_true] at letters
  intro c rest blank
  rw [keyword?_cons, (coarse_fold letters.1).startsSolid_one rest blank]
  rfl

theorem startsSolid_wholeWord? {word : List Char} (letters : word.all isKeywordLetter = true)
    (nonempty : word ≠ []) : StartsSolid (wholeWord? word) := by
  intro c rest blank
  rw [wholeWord?, startsSolid_keyword? letters nonempty rest blank]

/-- A keyword with blanks behind it. -/
theorem layoutBlind_keywordGap {word : List Char} (letters : word.all isKeywordLetter = true) :
    LayoutBlind fun text => (keyword? word text).bind blanks1? :=
  (layoutBlind_keyword? letters).bind layoutBlind_blanks1?

theorem findsAlike_wholeWord {word : String} (letters : word.toList.all isKeywordLetter = true)
    (nonempty : word.toList ≠ []) : FindsAlike (wholeWord word) :=
  findsAlike_wordPattern (layoutBlind_wholeWord? letters) (startsSolid_wholeWord? letters nonempty)

theorem findsAlike_dropStatement : FindsAlike dropStatement := by
  refine findsAlike_wordPattern ?_ ?_
  · refine (layoutBlind_keywordGap (by decide)).bind (layoutBlind_oneOf? fun word member => ?_)
    simp only [List.mem_cons, List.not_mem_nil, or_false] at member
    rcases member with rfl | rfl | rfl | rfl <;> exact layoutBlind_wholeWord? (by decide)
  · exact ((startsSolid_keyword? (by decide) (by decide)).bind _).bind _

theorem findsAlike_deleteFrom : FindsAlike deleteFrom :=
  findsAlike_wordPattern ((layoutBlind_keywordGap (by decide)).bind (layoutBlind_wholeWord? (by decide)))
    (((startsSolid_keyword? (by decide) (by decide)).bind _).bind _)

theorem findsAlike_quotedTermination : FindsAlike quotedTermination := by
  have split : quotedTermination = plainPattern fun text => (one? isStringQuote text).bind fun rest =>
      ((char? ';' (blanks rest)).bind fun after => char? '-' (blanks after)).bind (char? '-') := by
    rw [quotedTermination]
    congr 1
    funext text
    cases text with
    | nil => rfl
    | cons c rest =>
      rw [one?]
      dsimp only
      split_ifs <;> rfl
  have semicolon : LayoutBlind (char? ';') := layoutBlind_char? rfl rfl
  have dash : LayoutBlind (char? '-') := layoutBlind_char? rfl rfl
  rw [split]
  refine findsAlike_plainPattern (coarse_isStringQuote.layoutBlind_one.bind ?_)
    (coarse_isStringQuote.startsSolid_one.bind _)
  exact ((semicolon.after Relaid.blanks).bind (dash.after Relaid.blanks)).bind dash

theorem findsAlike_quotedTautology : FindsAlike quotedTautology := by
  have quote : LayoutBlind (char? '\x27') := layoutBlind_char? rfl rfl
  have number : LayoutBlind fun text => (keyword? "or".toList (blanks text)).bind blanks1? :=
    (layoutBlind_keywordGap (by decide)).after Relaid.blanks
  have left : LayoutBlind fun text => digits1? (optionalQuote text) :=
    layoutBlind_digits1?.after Relaid.optionalQuote
  have equals : LayoutBlind fun text => char? '=' (blanks (optionalQuote text)) :=
    (layoutBlind_char? rfl rfl).after fun relaid => relaid.optionalQuote.blanks
  have right : LayoutBlind fun text => digits1? (optionalQuote (blanks text)) :=
    layoutBlind_digits1?.after fun relaid => relaid.blanks.optionalQuote
  exact findsAlike_plainPattern
    (fun _ _ relaid => rel_bind (quote relaid) fun _ _ opened => rel_bind (number opened)
      fun _ _ first => rel_bind (left first) fun _ _ sign => rel_bind (equals sign) right)
    ((startsSolid_char? rfl rfl).bind _)

theorem findsAlike_selectStar : FindsAlike selectStar :=
  findsAlike_wordPattern ((layoutBlind_keywordGap (by decide)).bind (layoutBlind_char? rfl rfl))
    (((startsSolid_keyword? (by decide) (by decide)).bind _).bind _)

theorem findsAlike_leadingWildcard : FindsAlike leadingWildcard := by
  have split : leadingWildcard = wordPattern fun text => ((keyword? "like".toList text).bind blanks1?).bind
      fun rest => (one? isStringQuote rest).bind (char? '%') := by
    rw [leadingWildcard]
    congr 1
    funext text
    cases (keyword? "like".toList text).bind blanks1? with
    | none => rfl
    | some rest =>
      cases rest with
      | nil => rfl
      | cons c more =>
        rw [Option.bind_some, one?]
        dsimp only
        split_ifs <;> rfl
  rw [split]
  exact findsAlike_wordPattern
    ((layoutBlind_keywordGap (by decide)).bind
      (coarse_isStringQuote.layoutBlind_one.bind (layoutBlind_char? rfl rfl)))
    (((startsSolid_keyword? (by decide) (by decide)).bind _).bind _)

theorem findsAlike_columnFunction : FindsAlike columnFunction := by
  have letters : ∀ word ∈ ["upper", "lower", "trim", "substring", "cast", "convert"],
      word.toList.all isKeywordLetter = true ∧ word.toList ≠ [] := by decide
  refine findsAlike_wordPattern ?_ (StartsSolid.bind (fun c rest blank => ?_) _)
  · refine (layoutBlind_oneOf? fun word member => layoutBlind_keyword? (letters word member).1).bind ?_
    exact (layoutBlind_char? rfl rfl).after Relaid.blanks
  · rw [oneOf?, List.findSome?_eq_none_iff]
    intro word member
    exact startsSolid_keyword? (letters word member).1 (letters word member).2 rest blank

/-- WHERE with something behind it is found alike, if that is. -/
theorem findsAlike_whereThen {later : Pattern} (finds : FindsAlike later) : FindsAlike (whereThen later) := by
  have split : whereThen later = wordPattern fun text => (wholeWord? "where".toList text).bind
      fun rest => if occursFrom later (some 'e') rest then some rest else none := by
    rw [whereThen]
    congr 1
    funext text
    cases wholeWord? "where".toList text <;> rfl
  rw [split]
  refine findsAlike_wordPattern ((layoutBlind_wholeWord? (by decide)).bind fun rest rest' relaid => ?_)
    ((startsSolid_wholeWord? (by decide) (by decide)).bind _)
  rw [finds.occursFrom_eq rfl relaid]
  split_ifs
  · exact .some relaid
  · exact .none

/-! ### Rules

A rule fires if its patterns occur and nothing excuses it. Each pattern of the two tables finds alike, and
so each rule judges alike. -/

/-- A rule whose patterns and excuses find the same in texts of other layout. -/
structure Rule.JudgesAlike (rule : Rule) : Prop where
  patterns : ∀ pattern ∈ rule.patterns, FindsAlike pattern
  excuses : ∀ pattern ∈ rule.excuses, FindsAlike pattern

theorem any_occurs_eq {patterns : List Pattern} (each : ∀ pattern ∈ patterns, FindsAlike pattern)
    (relaid : Relaid text text') :
    (patterns.any fun pattern => occurs pattern text) = patterns.any fun pattern => occurs pattern text' := by
  rw [Bool.eq_iff_iff, List.any_eq_true, List.any_eq_true]
  refine exists_congr fun pattern => and_congr_right fun member => ?_
  rw [(each pattern member).occurs_eq relaid]

theorem Rule.JudgesAlike.fires_eq {rule : Rule} (alike : rule.JudgesAlike) (relaid : Relaid text text') :
    rule.fires text = rule.fires text' := by
  rw [Rule.fires, Rule.fires, any_occurs_eq alike.patterns relaid, any_occurs_eq alike.excuses relaid]

theorem scan_congr {rules : List Rule} (alike : ∀ rule ∈ rules, rule.JudgesAlike)
    (relaid : Relaid text text') : scan rules text = scan rules text' := by
  rw [scan, scan, List.filter_congr fun rule member => (alike rule member).fires_eq relaid]

/-- A rule that looks for patterns and is not excused. -/
theorem judgesAlike_of_patterns {patterns : List Pattern} (each : ∀ pattern ∈ patterns, FindsAlike pattern)
    (message : String) (type : WarningType) :
    Rule.JudgesAlike { patterns := patterns, message := message, type := type } :=
  ⟨each, List.forall_mem_nil _⟩

theorem securityRules_judgeAlike : ∀ rule ∈ securityRules, rule.JudgesAlike := by
  have truncate : FindsAlike (wholeWord "truncate") := findsAlike_wholeWord (by decide) (by decide)
  have update : FindsAlike (wholeWord "update") := findsAlike_wholeWord (by decide) (by decide)
  have only_where : ∀ pattern ∈ [wholeWord "where"], FindsAlike pattern :=
    List.forall_mem_singleton.2 (findsAlike_wholeWord (by decide) (by decide))
  simp only [securityRules, List.forall_mem_cons]
  refine ⟨?_, ?_, ⟨?_, only_where⟩, ⟨?_, only_where⟩, ?_, List.forall_mem_nil _⟩
  · exact judgesAlike_of_patterns (List.forall_mem_singleton.2 findsAlike_dropStatement) _ _
  · exact judgesAlike_of_patterns (List.forall_mem_singleton.2 truncate) _ _
  · exact List.forall_mem_singleton.2 findsAlike_deleteFrom
  · exact List.forall_mem_singleton.2 update
  · refine judgesAlike_of_patterns (List.forall_mem_cons.2 ⟨findsAlike_quotedTermination, ?_⟩) _ _
    exact List.forall_mem_singleton.2 findsAlike_quotedTautology

theorem performanceRules_judgeAlike : ∀ rule ∈ performanceRules, rule.JudgesAlike := by
  have select : FindsAlike (wholeWord "select") := findsAlike_wholeWord (by decide) (by decide)
  have limit : FindsAlike (wholeWord "limit") := findsAlike_wholeWord (by decide) (by decide)
  have top : FindsAlike (wholeWord "top") := findsAlike_wholeWord (by decide) (by decide)
  have or : FindsAlike (wholeWord "or") := findsAlike_wholeWord (by decide) (by decide)
  simp only [performanceRules, List.forall_mem_cons]
  refine ⟨?_, ⟨?_, ?_⟩, ?_, ?_, ?_, List.forall_mem_nil _⟩
  · exact judgesAlike_of_patterns (List.forall_mem_singleton.2 findsAlike_selectStar) _ _
  · exact List.forall_mem_singleton.2 select
  · exact List.forall_mem_cons.2 ⟨limit, List.forall_mem_singleton.2 top⟩
  · exact judgesAlike_of_patterns (List.forall_mem_singleton.2 findsAlike_leadingWildcard) _ _
  · exact judgesAlike_of_patterns (List.forall_mem_singleton.2 (findsAlike_whereThen or)) _ _
  · exact judgesAlike_of_patterns
      (List.forall_mem_singleton.2 (findsAlike_whereThen findsAlike_columnFunction)) _ _

/-- Layout and letter case hide no finding: the rules find the same in two texts that differ in the length
and kind of their runs of blanks, and in the case of ASCII letters. -/
theorem scan_ignores_layout (relaid : Relaid text text') :
    scanSecurity text = scanSecurity text' ∧ scanPerformance text = scanPerformance text' :=
  ⟨scan_congr securityRules_judgeAlike relaid, scan_congr performanceRules_judgeAlike relaid⟩

/-- A word in another case, at the head of two texts that are laid out apart. -/
theorem Relaid.word {word word' : List Char} (shown : word.all (!isBlank ·) = true)
    (same : word.map Char.toLower = word'.map Char.toLower) (relaid : Relaid text text') :
    Relaid (word ++ text) (word' ++ text') := by
  induction word generalizing word' with
  | nil =>
    rw [List.map_nil, eq_comm, List.map_eq_nil_iff] at same
    subst same
    exact relaid
  | cons c word ih =>
    obtain ⟨d, more, rfl, same_head, same_tail⟩ := List.map_eq_cons_iff.1 same.symm
    rw [List.all_cons, Bool.and_eq_true, Bool.not_eq_true'] at shown
    exact .solid shown.1 same_head.symm (ih shown.2 same_tail.symm)

/-- A DROP over two lines and in mixed case is found like one on a single line. -/
theorem scan_ignores_layout_of_drop :
    Relaid "DROP TABLE t".toList "drOP\n\t \x85table\x0bT".toList ∧
      scanSecurity "DROP TABLE t".toList = scanSecurity "drOP\n\t \x85table\x0bT".toList ∧
      scanPerformance "DROP TABLE t".toList = scanPerformance "drOP\n\t \x85table\x0bT".toList ∧
      (scanSecurity "drOP\n\t \x85table\x0bT".toList).length = 1 := by
  have relaid : Relaid "DROP TABLE t".toList "drOP\n\t \x85table\x0bT".toList := by
    have gap : IsRun isBlank " ".toList := ⟨by simp, List.all_eq_true.1 (by decide)⟩
    have wide : IsRun isBlank "\n\t \x85".toList := ⟨by simp, List.all_eq_true.1 (by decide)⟩
    have thin : IsRun isBlank "\x0b".toList := ⟨by simp, List.all_eq_true.1 (by decide)⟩
    have last : Relaid "t".toList "T".toList := .solid (by decide) (by decide) .nil
    have table : Relaid ("TABLE".toList ++ (" ".toList ++ "t".toList))
        ("table".toList ++ ("\x0b".toList ++ "T".toList)) :=
      .word (by decide) (by decide) (.gap gap thin rfl last)
    have drop : Relaid ("DROP".toList ++ (" ".toList ++ "TABLE t".toList))
        ("drOP".toList ++ ("\n\t \x85".toList ++ "table\x0bT".toList)) :=
      .word (by decide) (by decide) (.gap gap wide rfl table)
    exact drop
  exact ⟨relaid, (scan_ignores_layout relaid).1, (scan_ignores_layout relaid).2, by decide +kernel⟩

end QueryDesk.Sql
