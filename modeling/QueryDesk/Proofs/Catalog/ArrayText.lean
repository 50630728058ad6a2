/-
Module: QueryDesk.Proofs.Catalog.ArrayText
Purpose: The text of an array as Postgres prints it: elements between braces, joined by commas, in quotes
  where that is needed. The columns of an index are read off this text without regard to the quotes, so
  the names that come back are the printed ones exactly if no name has a comma, a double quote or a
  backslash. Braces, blanks and the word NULL do no harm.
Imports: QueryDesk.Catalog.Postgres, QueryDesk.Proofs.Text.Splitting, Mathlib.Data.List.Basic
Main exports: count_stripEnds, elementText, arrayText, IsUnescaped, readElement_elementText_iff,
  flatMap_eq_self_iff, indexColumns_arrayText_iff
-/
import QueryDesk.Catalog.Postgres
import QueryDesk.Proofs.Text.Splitting
import Mathlib.Data.List.Basic

namespace QueryDesk.Catalog

open QueryDesk.Text

section Ends

variable {strips : Char → Bool} {text : List Char}

/-- A text is left as it is if neither its first nor its last character is one to be stripped. -/
theorem stripEnds_of_ends (first : ∀ c ∈ text.head?, strips c = false)
    (last : ∀ c ∈ text.getLast?, strips c = false) : stripEnds strips text = text := by
  have unled : ∀ {list : List Char}, (∀ c ∈ list.head?, strips c = false) →
      list.dropWhile strips = list := by
    intro list kept
    cases list with
    | nil => rfl
    | cons c rest => exact List.dropWhile_cons_of_neg (by simpa using kept c rfl)
  have ended : ∀ c ∈ text.reverse.head?, strips c = false := by rwa [List.head?_reverse]
  rw [stripEnds, unled first, unled ended, List.reverse_reverse]

/-- A character to be stripped is taken away from either end. -/
theorem stripEnds_wrap {opening closing : Char} (opens : strips opening = true)
    (closes : strips closing = true) (first : ∀ c ∈ text.head?, strips c = false)
    (last : ∀ c ∈ text.getLast?, strips c = false) :
    stripEnds strips (opening :: (text ++ [closing])) = text := by
  cases text with
  | nil => simp [stripEnds, opens, closes]
  | cons c rest =>
      have kept : strips c = false := first c rfl
      have bare := stripEnds_of_ends first last
      rw [stripEnds] at bare ⊢
      rw [List.dropWhile_cons_of_pos opens, List.cons_append,
        List.dropWhile_cons_of_neg (by simp [kept]), ← List.cons_append, List.reverse_append,
        List.reverse_singleton, List.singleton_append, List.dropWhile_cons_of_pos closes]
      rwa [List.dropWhile_cons_of_neg (by simp [kept])] at bare

/-- Stripping takes nothing away but what is to be stripped. -/
theorem count_stripEnds {c : Char} (kept : strips c = false) :
    (stripEnds strips text).count c = text.count c := by
  have dropped : ∀ list : List Char, (list.dropWhile strips).count c = list.count c := by
    intro list
    induction list with
    | nil => rfl
    | cons d rest ih =>
        rw [List.dropWhile_cons]
        split
        next stripped =>
          have other : d ≠ c := fun same => by rw [same, kept] at stripped; cases stripped
          rw [ih, List.count_cons_of_ne other]
        next => rfl
  rw [stripEnds, List.count_reverse, dropped, List.count_reverse, dropped]

end Ends

/-- Whether an element of an array is printed in quotes: it is empty, it is the word NULL, or it has a
brace, a comma, a double quote, a backslash or a blank in it. -/
def quotesElement (blank : Char → Bool) (name : List Char) : Bool :=
  name.isEmpty || name.map Char.toUpper == "NULL".toList ||
    name.any fun c => isBrace c || c == ',' || c == '\x22' || c == '\\' || blank c

/-- A character as it is printed between quotes. -/
def escapedChar (c : Char) : List Char :=
  if c == '\x22' || c == '\\' then ['\\', c] else [c]

/-- An element of an array as it is printed. -/
def elementText (blank : Char → Bool) (name : List Char) : List Char :=
  if quotesElement blank name then '\x22' :: (name.flatMap escapedChar ++ ['\x22']) else name

/-- The text of an array of names. -/
def arrayText (blank : Char → Bool) (names : List String) : String :=
  String.ofList ('\x7b' ::
    (List.intercalate [','] (names.map fun name => elementText blank name.toList) ++ ['\x7d']))

/-- Whether a name has no character that is escaped between quotes or that divides elements. -/
def IsUnescaped (name : List Char) : Prop :=
  ',' ∉ name ∧ '\x22' ∉ name ∧ '\\' ∉ name

/-- The names that are read off the text of one element. -/
def readElement (element : List Char) : List String :=
  ((splitAtChar ',' element).filter fun part => !part.isEmpty).map fun part =>
    String.ofList (stripEnds (· == '\x22') part)

section Elements

variable {blank : Char → Bool} {name : List Char}

theorem elementText_of_quotes (quotes : quotesElement blank name = true) :
    elementText blank name = '\x22' :: (name.flatMap escapedChar ++ ['\x22']) :=
  if_pos quotes

/-- A name that is printed bare has something in it, and none of the characters that matter. -/
theorem elementText_of_bare (bare : quotesElement blank name = false) :
    elementText blank name = name ∧ name ≠ [] ∧ IsUnescaped name ∧ ∀ c ∈ name, isBrace c = false := by
  have printed : elementText blank name = name := if_neg (by simp [bare])
  simp only [quotesElement, Bool.or_eq_false_iff, List.isEmpty_eq_false_iff, List.any_eq_false,
    Bool.or_eq_true, beq_iff_eq, not_or] at bare
  obtain ⟨⟨some_name, -⟩, plain⟩ := bare
  exact ⟨printed, some_name, ⟨fun comma => (plain _ comma).1.1.1.2 rfl,
    fun quote => (plain _ quote).1.1.2 rfl, fun backslash => (plain _ backslash).1.2 rfl⟩,
    fun c member => by simpa using (plain c member).1.1.1.1⟩

/-- A text that has something in it, and no brace at either end. -/
structure Unbraced (text : List Char) : Prop where
  some_text : text ≠ []
  first : ∀ c ∈ text.head?, isBrace c = false
  last : ∀ c ∈ text.getLast?, isBrace c = false

theorem unbraced_elementText (blank : Char → Bool) (name : List Char) :
    Unbraced (elementText blank name) := by
  cases quotes : quotesElement blank name with
  | true =>
      rw [elementText_of_quotes quotes]
      refine ⟨List.cons_ne_nil _ _, ?_, ?_⟩
      · rintro c ⟨⟩
        decide
      · intro c last
        rw [← List.cons_append, List.getLast?_append_of_ne_nil _ (List.cons_ne_nil _ _)] at last
        cases last
        decide
  | false =>
      obtain ⟨printed, some_name, -, unbraced⟩ := elementText_of_bare quotes
      rw [printed]
      exact ⟨some_name, fun c first => unbraced c (List.mem_of_mem_head? first),
        fun c last => unbraced c (List.mem_of_mem_getLast? last)⟩

theorem Unbraced.append {front back : List Char} (before : Unbraced front) (behind : Unbraced back)
    (middle : List Char) : Unbraced (front ++ (middle ++ back)) where
  some_text := List.append_ne_nil_of_left_ne_nil before.some_text _
  first := by
    rw [List.head?_append_of_ne_nil _ before.some_text]
    exact before.first
  last := by
    rw [← List.append_assoc, List.getLast?_append_of_ne_nil _ behind.some_text]
    exact behind.last

/-- Between quotes, backslashes and double quotes have a backslash before them. -/
theorem count_flatMap_escapedChar (name : List Char) :
    (name.flatMap escapedChar).count '\\' = 2 * name.count '\\' + name.count '\x22' := by
  induction name with
  | nil => rfl
  | cons c rest ih =>
      rw [List.flatMap_cons, List.count_append, ih, List.count_cons, List.count_cons, escapedChar]
      by_cases quote : c = '\x22'
      · subst quote
        simp
        omega
      · by_cases backslash : c = '\\'
        · subst backslash
          simp
          omega
        · simp [quote, backslash]

theorem flatMap_escapedChar_of_unescaped (unescaped : IsUnescaped name) :
    name.flatMap escapedChar = name := by
  obtain ⟨-, unquoted, unslashed⟩ := unescaped
  have each : ∀ c ∈ name, escapedChar c = [c] := by
    intro c member
    have other : c ≠ '\x22' ∧ c ≠ '\\' :=
      ⟨fun same => unquoted (same ▸ member), fun same => unslashed (same ▸ member)⟩
    simp [escapedChar, other]
  rw [List.flatMap_congr each]
  exact List.flatMap_singleton' name

theorem comma_mem_flatMap_escapedChar : ',' ∈ name.flatMap escapedChar ↔ ',' ∈ name := by
  rw [List.mem_flatMap]
  constructor
  · rintro ⟨c, member, among⟩
    unfold escapedChar at among
    split at among
    next =>
      rcases List.mem_pair.1 among with slash | rfl
      · cases slash
      · exact member
    next => exact List.mem_singleton.1 among ▸ member
  · exact fun member => ⟨',', member, by decide⟩

/-! ### Which elements are read back

A bare element is its own name. Of a quoted one the reader takes the quotes away and nothing else, so that
it comes back as its name exactly if nothing was escaped in it: an escape leaves a backslash too many, and a
comma leaves at least two pieces. -/

theorem readElement_of_no_comma {element : List Char} (some_text : element ≠ []) (whole : ',' ∉ element) :
    readElement element = [String.ofList (stripEnds (· == '\x22') element)] := by
  rw [readElement, splitAtChar_of_not_mem whole, List.filter_cons_of_pos (by simpa using some_text)]
  rfl

theorem readElement_append (front back : List Char) :
    readElement (front ++ ',' :: back) = readElement front ++ readElement back := by
  rw [readElement, splitAtChar_append, List.filter_append, List.map_append]
  rfl

/-- Something is read off every text that is not commas alone. -/
theorem length_readElement_pos {element : List Char} {c : Char} (member : c ∈ element) (other : c ≠ ',') :
    0 < (readElement element).length := by
  have among : c ∈ (splitAtChar ',' element).flatten := by
    rw [flatten_splitAtChar, List.mem_filter]
    exact ⟨member, by simpa using other⟩
  obtain ⟨piece, found, inside⟩ := List.mem_flatten.1 among
  have kept : piece ∈ (splitAtChar ',' element).filter fun part => !part.isEmpty := by
    rw [List.mem_filter]
    exact ⟨found, by simpa using List.ne_nil_of_mem inside⟩
  rw [readElement, List.length_map]
  exact List.length_pos_of_mem kept

/-- A printed name is read as itself, and as nothing else, exactly if it has no comma and nothing is
escaped in it. -/
theorem readElement_elementText_iff (blank : Char → Bool) (name : List Char) :
    readElement (elementText blank name) = [String.ofList name] ↔ IsUnescaped name := by
  cases quotes : quotesElement blank name with
  | false =>
      obtain ⟨printed, some_name, unescaped, -⟩ := elementText_of_bare quotes
      refine iff_of_true ?_ unescaped
      have unquoted : ∀ c ∈ name, (c == '\x22') = false := fun c member =>
        beq_false_of_ne fun same => unescaped.2.1 (same ▸ member)
      rw [printed, readElement_of_no_comma some_name unescaped.1,
        stripEnds_of_ends (fun c first => unquoted c (List.mem_of_mem_head? first))
          fun c last => unquoted c (List.mem_of_mem_getLast? last)]
  | true =>
      rw [elementText_of_quotes quotes]
      by_cases comma : ',' ∈ name
      · -- The quotes stay with different pieces, so there are at least two of them.
        refine iff_of_false (fun read => ?_) fun unescaped => unescaped.1 comma
        obtain ⟨front, back, parts⟩ :=
          List.append_of_mem (comma_mem_flatMap_escapedChar.2 comma)
        have apart : '\x22' :: (name.flatMap escapedChar ++ ['\x22']) =
            ('\x22' :: front) ++ ',' :: (back ++ ['\x22']) := by
          rw [parts, List.append_assoc]
          rfl
        have before : 0 < (readElement ('\x22' :: front)).length :=
          length_readElement_pos List.mem_cons_self (by decide)
        have behind : 0 < (readElement (back ++ ['\x22'])).length :=
          length_readElement_pos (List.mem_append_right back List.mem_cons_self) (by decide)
        rw [apart, readElement_append] at read
        have one := congrArg List.length read
        rw [List.length_append, List.length_singleton] at one
        omega
      · have whole : ',' ∉ '\x22' :: (name.flatMap escapedChar ++ ['\x22']) := by
          rw [List.mem_cons, List.mem_append, comma_mem_flatMap_escapedChar]
          simp [comma]
        rw [readElement_of_no_comma (List.cons_ne_nil _ _) whole, List.singleton_inj,
          String.ofList_inj]
        constructor
        · intro read
          -- What is left has one backslash too many for each character that was escaped.
          have count := congrArg (List.count '\\') read
          rw [count_stripEnds (by decide), List.count_cons_of_ne (by decide), List.count_append,
            List.count_eq_zero_of_not_mem (l := ['\x22']) (by decide),
            count_flatMap_escapedChar] at count
          exact ⟨comma, List.count_eq_zero.1 (by omega), List.count_eq_zero.1 (by omega)⟩
        · intro unescaped
          have unquoted : ∀ c ∈ name, (c == '\x22') = false := fun c member =>
            beq_false_of_ne fun same => unescaped.2.1 (same ▸ member)
          rw [flatMap_escapedChar_of_unescaped unescaped]
          exact stripEnds_wrap (by decide) (by decide)
            (fun c first => unquoted c (List.mem_of_mem_head? first))
            fun c last => unquoted c (List.mem_of_mem_getLast? last)

theorem length_readElement_elementText_pos (blank : Char → Bool) (name : List Char) :
    0 < (readElement (elementText blank name)).length := by
  cases quotes : quotesElement blank name with
  | true =>
      rw [elementText_of_quotes quotes]
      exact length_readElement_pos List.mem_cons_self (by decide)
  | false =>
      obtain ⟨printed, some_name, unescaped, -⟩ := elementText_of_bare quotes
      obtain ⟨c, member⟩ := List.exists_mem_of_ne_nil name some_name
      rw [printed]
      exact length_readElement_pos member fun same => unescaped.1 (same ▸ member)

end Elements

/-- Joined elements neither begin nor end with a brace. -/
theorem unbraced_intercalate {elements : List (List Char)} (some_elements : elements ≠ [])
    (unbraced : ∀ element ∈ elements, Unbraced element) : Unbraced (List.intercalate [','] elements) := by
  induction elements with
  | nil => exact absurd rfl some_elements
  | cons element rest ih =>
      obtain ⟨here, others⟩ := List.forall_mem_cons.1 unbraced
      cases rest with
      | nil => rwa [List.intercalate_singleton]
      | cons other more =>
          rw [List.intercalate_cons_cons, List.append_assoc]
          exact here.append (ih (List.cons_ne_nil _ _) others) _

/-- Joined elements are read one by one. -/
theorem readElement_intercalate (elements : List (List Char)) :
    readElement (List.intercalate [','] elements) = elements.flatMap readElement := by
  induction elements with
  | nil => rfl
  | cons element rest ih =>
      cases rest with
      | nil => rw [List.intercalate_singleton, List.flatMap_singleton]
      | cons other more =>
          rw [List.intercalate_cons_cons, List.append_assoc, List.singleton_append,
            readElement_append, ih]
          rfl

/-- The elements between the braces of an array are read one by one. -/
theorem arrayTextElements_arrayText (blank : Char → Bool) (names : List String) :
    arrayTextElements (arrayText blank names).toList =
      names.flatMap fun name => readElement (elementText blank name.toList) := by
  let elements := names.map fun name => elementText blank name.toList
  have stripped : stripEnds isBrace (arrayText blank names).toList = List.intercalate [','] elements := by
    rw [arrayText, String.toList_ofList]
    cases names with
    | nil => rfl
    | cons name rest =>
        have inside : Unbraced (List.intercalate [','] elements) :=
          unbraced_intercalate (List.cons_ne_nil _ _) fun element member => by
            obtain ⟨name, -, rfl⟩ := List.mem_map.1 member
            exact unbraced_elementText blank name.toList
        exact stripEnds_wrap (by decide) (by decide) inside.first inside.last
  calc arrayTextElements (arrayText blank names).toList
      = readElement (List.intercalate [','] elements) := congrArg readElement stripped
    _ = elements.flatMap readElement := readElement_intercalate elements
    _ = _ := List.flatMap_map _ _ names

/-- If something is read off each of several items, then the items themselves are what is read off all of
them exactly if each is read as itself. -/
theorem flatMap_eq_self_iff {α : Type} {read : α → List α} (some_read : ∀ item, 0 < (read item).length)
    (items : List α) : items.flatMap read = items ↔ ∀ item ∈ items, read item = [item] := by
  have longer : ∀ items : List α, items.length ≤ (items.flatMap read).length := by
    intro items
    induction items with
    | nil => exact Nat.le_refl 0
    | cons item rest ih =>
        have here := some_read item
        rw [List.flatMap_cons, List.length_append, List.length_cons]
        omega
  induction items with
  | nil => exact iff_of_true rfl (List.forall_mem_nil _)
  | cons item rest ih =>
      rw [List.flatMap_cons, List.forall_mem_cons]
      constructor
      · intro same
        have here := some_read item
        have more := longer rest
        have lengths := congrArg List.length same
        rw [List.length_append, List.length_cons] at lengths
        have one : (read item).length = [item].length := by
          rw [List.length_singleton]
          omega
        obtain ⟨alone, others⟩ := List.append_inj same one
        exact ⟨alone, ih.1 others⟩
      · rintro ⟨alone, others⟩
        rw [alone, ih.2 others]
        rfl

/-- Whatever characters count as blanks, the columns of an index are read off the printed array of their
names exactly if no name has a comma, a double quote or a backslash in it. Off the array itself they are
read in any case. -/
theorem indexColumns_arrayText_iff (blank : Char → Bool) (names : List String) :
    indexColumns (.list (names.map .text)) = names ∧
      (indexColumns (.text (arrayText blank names)) = names ↔
        ∀ name ∈ names, IsUnescaped name.toList) := by
  have listed : indexColumns (.list (names.map .text)) = names := by
    rw [indexColumns, List.map_map]
    exact List.map_id names
  refine ⟨listed, ?_⟩
  rw [indexColumns, arrayTextElements_arrayText,
    flatMap_eq_self_iff fun name => length_readElement_elementText_pos blank name.toList]
  refine forall₂_congr fun name _ => ?_
  rw [← readElement_elementText_iff blank name.toList, String.ofList_toList]

/-- A name with a comma in it comes back as two names, and an escaped double quote as a backslash. -/
theorem indexColumns_arrayText_ne :
    arrayText isBlank ["a,b"] = "\x7b\"a,b\"\x7d" ∧
      indexColumns (.text (arrayText isBlank ["a,b"])) = ["a", "b"] ∧
      indexColumns (.text (arrayText isBlank ["a,b"])) ≠ ["a,b"] ∧
      indexColumns (.text (arrayText isBlank ["a\""])) = ["a\\"] ∧
      indexColumns (.text (arrayText isBlank ["a\""])) ≠ ["a\""] := by
  decide

end QueryDesk.Catalog
