/-
Module: QueryDesk.Proofs.Value.Reader
Purpose: Reading JSON. A plain value, that is one that JSON has a form for, is read back from its text on
  one line, whatever its texts hold; and no control character stands in that text.
Imports: QueryDesk.Proofs.Connection.Forms, QueryDesk.Proofs.Number.NumberText
Main exports: readText, readValue, readJson, Plain, readText_json, readValue_compact, readJson_compact,
  isShown_compact
-/
import QueryDesk.Proofs.Connection.Forms
import QueryDesk.Proofs.Number.NumberText

namespace QueryDesk.Json

open QueryDesk.Text QueryDesk.Number QueryDesk.Number.Binary64

/-- The value of a hexadecimal digit. -/
def hexValue? (c : Char) : Option Nat :=
  if isAsciiDigit c then some (c.toNat - 0x30)
  else if 'a' ≤ c && c ≤ 'f' then some (c.toNat - 0x57)
  else if 'A' ≤ c && c ≤ 'F' then some (c.toNat - 0x37)
  else none

/-- The number that four hexadecimal digits at the head of a text write, and the rest. -/
def readUnit : List Char → Option (Nat × List Char)
  | first :: second :: third :: fourth :: rest =>
    match hexValue? first, hexValue? second, hexValue? third, hexValue? fourth with
    | some a, some b, some c, some d => some (16 * (16 * (16 * a + b) + c) + d, rest)
    | _, _, _, _ => none
  | _ => none

/-- The second half of a pair of surrogates, read behind the first one. -/
def readSurrogate (high : Nat) : List Char → Option (Char × List Char)
  | '\\' :: 'u' :: rest =>
    match readUnit rest with
    | some (low, left) =>
      if 0xdc00 ≤ low && low < 0xe000 then
        some (Char.ofNat (0x10000 + 0x400 * (high - 0xd800) + (low - 0xdc00)), left)
      else none
    | none => none
  | _ => none

/-- The characters that an escape of one letter stands for. -/
def letterEscapes : List (Char × Char) :=
  [('\x22', '\x22'), ('\\', '\\'), ('/', '/'), ('b', '\x08'), ('f', '\x0c'), ('n', '\n'), ('r', '\r'),
    ('t', '\t')]

/-- The character of an escape, read behind its backslash. Half a pair of surrogates is no character. -/
def readEscape : List Char → Option (Char × List Char)
  | [] => none
  | c :: rest =>
    if c == 'u' then
      match readUnit rest with
      | some (unit, left) =>
        if 0xd800 ≤ unit && unit < 0xdc00 then readSurrogate unit left
        else if 0xdc00 ≤ unit && unit < 0xe000 then none
        else some (Char.ofNat unit, left)
      | none => none
    else (letterEscapes.lookup c).map fun found => (found, rest)

/-- The characters of a text up to its closing quote, and the rest. Controls have to be escaped. Each
character takes some fuel. -/
def readText : Nat → List Char → Option (List Char × List Char)
  | 0, _ => none
  | _ + 1, [] => none
  | fuel + 1, c :: rest =>
    if c == '\x22' then some ([], rest)
    else if c == '\\' then
      match readEscape rest with
      | some (found, left) => (readText fuel left).map fun (chars, left) => (found :: chars, left)
      | none => none
    else if c.toNat < 0x20 then none
    else (readText fuel rest).map fun (chars, left) => (c :: chars, left)

variable {text rest : List Char} {fuel : Nat}

theorem hexValue?_hexDigit : ∀ digit < 16, hexValue? (hexDigit digit) = some digit := by
  decide

theorem readUnit_hexDigits {number : Nat} (small : number < 0x10000) (rest : List Char) :
    readUnit (hexDigits 4 number ++ rest) = some (number, rest) := by
  have digit : ∀ part, hexValue? (hexDigit (part % 16)) = some (part % 16) :=
    fun part => hexValue?_hexDigit _ (Nat.mod_lt _ (by decide))
  simp only [hexDigits, List.nil_append, List.cons_append, readUnit, digit]
  congr 2
  omega

theorem readEscape_control {c : Char} (control : c.toNat < 0x20) (rest : List Char) :
    readEscape ('u' :: (hexDigits 4 c.toNat ++ rest)) = some (c, rest) := by
  have no_half : ¬ 0xd800 ≤ c.toNat := by omega
  have no_half' : ¬ 0xdc00 ≤ c.toNat := by omega
  have small : c.toNat < 0x10000 := by omega
  simp [readEscape, readUnit_hexDigits small, no_half, no_half', Char.ofNat_toNat]

/-- A character is read back from its form in a JSON string. -/
theorem readText_jsonChar (c : Char) (rest : List Char) :
    readText (fuel + 1) (jsonChar c ++ rest) =
      (readText fuel rest).map fun (chars, left) => (c :: chars, left) := by
  have escaped : ∀ {letters : List Char}, readEscape (letters ++ rest) = some (c, rest) →
      readText (fuel + 1) ('\\' :: letters ++ rest) =
        (readText fuel rest).map fun (chars, left) => (c :: chars, left) := by
    intro letters found
    rw [List.cons_append, readText, if_neg (by decide), if_pos (by decide), found]
  rw [jsonChar]
  split_ifs with quote backslash feed carriage tab back form control
  · exact escaped (by rw [beq_iff_eq.1 quote]; rfl)
  · exact escaped (by rw [beq_iff_eq.1 backslash]; rfl)
  · exact escaped (by rw [beq_iff_eq.1 feed]; rfl)
  · exact escaped (by rw [beq_iff_eq.1 carriage]; rfl)
  · exact escaped (by rw [beq_iff_eq.1 tab]; rfl)
  · have same : c = '\x08' := by rw [← c.ofNat_toNat, beq_iff_eq.1 back]
    exact escaped (by rw [same]; rfl)
  · have same : c = '\x0c' := by rw [← c.ofNat_toNat, beq_iff_eq.1 form]
    exact escaped (by rw [same]; rfl)
  · exact escaped (readEscape_control control rest)
  · rw [List.singleton_append, readText, if_neg quote, if_neg backslash, if_neg control]

/-- A text is read back from its JSON string, whatever characters it has. -/
theorem readText_json (enough : text.length < fuel) :
    readText fuel (text.flatMap jsonChar ++ '\x22' :: rest) = some (text, rest) := by
  induction text generalizing fuel with
  | nil =>
      obtain ⟨fuel, rfl⟩ := Nat.exists_eq_succ_of_ne_zero (Nat.ne_of_gt enough)
      rfl
  | cons c text ih =>
      obtain ⟨fuel, rfl⟩ := Nat.exists_eq_succ_of_ne_zero (Nat.ne_of_gt (Nat.zero_lt_of_lt enough))
      rw [List.flatMap_cons, List.append_assoc, readText_jsonChar, ih (Nat.lt_of_succ_lt_succ enough)]
      rfl

/-- The blanks that may stand between the parts of JSON. -/
def isJsonBlank (c : Char) : Bool :=
  c == ' ' || c == '\n' || c == '\r' || c == '\t'

/-- The text from its first character on that is no blank. -/
def skipBlanks (text : List Char) : List Char :=
  text.dropWhile isJsonBlank

/-- One of the three words at the head of a text, and the rest. -/
def readWord : List Char → Option (Value × List Char)
  | 'n' :: 'u' :: 'l' :: 'l' :: rest => some (.null, rest)
  | 't' :: 'r' :: 'u' :: 'e' :: rest => some (.bool true, rest)
  | 'f' :: 'a' :: 'l' :: 's' :: 'e' :: rest => some (.bool false, rest)
  | _ => none

/-- A word or a number at the head of a text, and the rest. -/
def readLeaf (text : List Char) : Option (Value × List Char) :=
  match readWord text with
  | some found => some found
  | none => (readNumberParts text).map fun (parts, rest) => (parts.value, rest)

section

variable {α : Type} (part : List Char → Option (α × List Char)) (closing : Char)

/-- Parts with commas between them, at least one, up to the closing bracket, and the rest. -/
def readParts : Nat → List Char → Option (List α × List Char)
  | 0, _ => none
  | fuel + 1, text =>
    match part text with
    | none => none
    | some (first, left) =>
      match skipBlanks left with
      | [] => none
      | c :: rest =>
        if c == ',' then (readParts fuel rest).map fun (others, rest) => (first :: others, rest)
        else if c == closing then some ([first], rest)
        else none

/-- Parts up to the closing bracket, possibly none. -/
def readBracketed (fuel : Nat) (text : List Char) : Option (List α × List Char) :=
  match skipBlanks text with
  | [] => none
  | c :: rest => if c == closing then some ([], rest) else readParts part closing fuel text

end

/-- A name and the value behind its colon, and the rest. -/
def readEntry (value : List Char → Option (Value × List Char)) (fuel : Nat) (text : List Char) :
    Option ((Key × Value) × List Char) :=
  match skipBlanks text with
  | [] => none
  | c :: rest =>
    if c == '\x22' then
      match readText fuel rest with
      | none => none
      | some (name, left) =>
        match skipBlanks left with
        | [] => none
        | c :: rest =>
          if c == ':' then (value rest).map fun (found, rest) => ((.name (String.ofList name), found), rest)
          else none
    else none

/-- The value at the head of a text, and the rest. Of the entries with one name in a mapping the last one
counts. The fuel bounds the depth of the value and the lengths of its parts. -/
def readValue : Nat → List Char → Option (Value × List Char)
  | 0, _ => none
  | fuel + 1, text =>
    match skipBlanks text with
    | [] => none
    | c :: rest =>
      if c == '\x22' then
        (readText fuel rest).map fun (chars, rest) => (.text (String.ofList chars), rest)
      else if c == '[' then
        (readBracketed (readValue fuel) ']' fuel rest).map fun (items, rest) => (.list items, rest)
      else if c == '\x7b' then
        (readBracketed (readEntry (readValue fuel) fuel) '\x7d' fuel rest).map fun (pairs, rest) =>
          (.mapping (Mapping.ofPairs pairs), rest)
      else readLeaf (c :: rest)

/-- The value that a text of JSON writes. Nothing but blanks may stand behind it. -/
def readJson (text : List Char) : Option Value :=
  match readValue (text.length + 1) text with
  | some (value, rest) => if (skipBlanks rest).isEmpty then some value else none
  | none => none

/-- The values that JSON has a form for. The keys of a mapping are names, and no two of them are the same. -/
inductive Plain : Value → Prop
  | null : Plain .null
  | bool (value : Bool) : Plain (.bool value)
  | int (value : Int) : Plain (.int value)
  | float {negative : Bool} {mantissa : Nat} {exponent : Int} (fits : Mantissa mantissa exponent) :
      Plain (.float (.finite negative mantissa exponent))
  | text (value : String) : Plain (.text value)
  | list {items : List Value} (all : ∀ item ∈ items, Plain item) : Plain (.list items)
  | mapping {entries : List (Key × Value)} (names : ∀ entry ∈ entries, ∃ name, entry.1 = .name name)
      (distinct : (entries.map Prod.fst).Nodup) (all : ∀ entry ∈ entries, Plain entry.2) :
      Plain (.mapping entries)

variable {value : Value} {α : Type} {parts : List α} {part : List Char → Option (α × List Char)}
  {write : α → List Char} {closing : Char}

theorem compactItems_eq (items : List Value) : Value.compactItems items = items.map Value.compact := by
  induction items with
  | nil => rfl
  | cons item rest ih => rw [Value.compactItems, ih, List.map_cons]

/-- An entry of a mapping on one line. -/
def entryText (entry : Key × Value) : List Char :=
  entry.1.json ++ ':' :: entry.2.compact

theorem compactEntries_eq (entries : List (Key × Value)) :
    Value.compactEntries entries = entries.map entryText := by
  induction entries with
  | nil => rfl
  | cons entry rest ih => rw [Value.compactEntries, ih, List.map_cons, entryText]

theorem compact_list (items : List Value) :
    (Value.list items).compact = '[' :: (joinWith [','] (items.map Value.compact) ++ [']']) := by
  rw [← compactItems_eq]
  rfl

theorem compact_mapping (entries : List (Key × Value)) :
    (Value.mapping entries).compact = '\x7b' :: (joinWith [','] (entries.map entryText) ++ ['\x7d']) := by
  rw [← compactEntries_eq]
  rfl

/-! ### Parts between brackets

Lists and mappings are read by one reader, which is given the reader of a part. That reader has less fuel,
and the parts are shorter than the whole, so that the fuel of the whole is enough for each of them. -/

/-- What a part of JSON may begin with: no blank and no closing bracket. -/
def Begins (text : List Char) : Prop :=
  ∃ c more, text = c :: more ∧ isJsonBlank c = false ∧ c ≠ ']' ∧ c ≠ '\x7d'

theorem skipBlanks_cons {c : Char} (solid : isJsonBlank c = false) (rest : List Char) :
    skipBlanks (c :: rest) = c :: rest := by
  rw [skipBlanks, List.dropWhile_cons, solid]
  rfl

theorem delimited_closing (closes : closing = ']' ∨ closing = '\x7d') (rest : List Char) :
    Delimited (closing :: rest) := by
  intro c head
  obtain rfl : closing = c := Option.some.inj head
  exact .inr closes

theorem joinWith_cons_cons (separator first second : List Char) (others : List (List Char)) :
    joinWith separator (first :: second :: others) = first ++ separator ++ joinWith separator (second :: others) :=
  rfl

theorem readParts_joinWith (closes : closing = ']' ∨ closing = '\x7d')
    (reads : ∀ item ∈ parts, ∀ rest, Delimited rest → part (write item ++ rest) = some (item, rest))
    (some_parts : parts ≠ []) (enough : parts.length ≤ fuel) :
    readParts part closing fuel (joinWith [','] (parts.map write) ++ closing :: rest) = some (parts, rest) := by
  have solid : isJsonBlank closing = false := by rcases closes with rfl | rfl <;> rfl
  have no_comma : (closing == ',') = false := by rcases closes with rfl | rfl <;> rfl
  induction parts generalizing fuel with
  | nil => exact absurd rfl some_parts
  | cons first others ih =>
      obtain ⟨fuel, rfl⟩ := Nat.exists_eq_succ_of_ne_zero (Nat.ne_of_gt (Nat.zero_lt_of_lt enough))
      have reads_first := reads first List.mem_cons_self
      cases others with
      | nil =>
          rw [List.map_cons, List.map_nil, joinWith, readParts, reads_first _ (delimited_closing closes rest)]
          simp only [skipBlanks_cons solid, no_comma, beq_self_eq_true, if_true, Bool.false_eq_true, if_false]
      | cons second others =>
          have onward := ih (fun item member => reads item (List.mem_cons_of_mem _ member)) (List.cons_ne_nil _ _)
            (Nat.le_of_succ_le_succ enough)
          have comma : Delimited (',' :: (joinWith [','] ((second :: others).map write) ++ closing :: rest)) := by
            intro c head
            exact .inl (Option.some.inj head).symm
          rw [List.map_cons, List.map_cons, joinWith_cons_cons, List.append_assoc, List.append_assoc, readParts,
            List.singleton_append]
          rw [List.map_cons] at comma onward
          rw [reads_first _ comma]
          simp only [skipBlanks_cons (by decide : isJsonBlank ',' = false), beq_self_eq_true, if_true]
          rw [onward]
          rfl

/-- Parts between brackets are read back if each of them is. -/
theorem readBracketed_joinWith (closes : closing = ']' ∨ closing = '\x7d')
    (reads : ∀ item ∈ parts, ∀ rest, Delimited rest → part (write item ++ rest) = some (item, rest))
    (begins : ∀ item ∈ parts, Begins (write item)) (enough : parts.length ≤ fuel) :
    readBracketed part closing fuel (joinWith [','] (parts.map write) ++ closing :: rest) =
      some (parts, rest) := by
  have read := fun some_parts =>
    @readParts_joinWith rest fuel α parts part write closing closes reads some_parts enough
  cases parts with
  | nil =>
      have solid : isJsonBlank closing = false := by rcases closes with rfl | rfl <;> rfl
      rw [List.map_nil, joinWith, List.nil_append, readBracketed, skipBlanks_cons solid]
      exact if_pos (beq_self_eq_true closing)
  | cons first others =>
      obtain ⟨c, more, begun, solid, no_bracket, no_brace⟩ := begins first List.mem_cons_self
      obtain ⟨after, joined⟩ : ∃ after, joinWith [','] ((first :: others).map write) ++ closing :: rest =
          c :: after := by
        rw [List.map_cons, begun]
        cases others <;> exact ⟨_, rfl⟩
      have open_yet : (c == closing) = false := by
        rcases closes with rfl | rfl
        · exact beq_false_of_ne no_bracket
        · exact beq_false_of_ne no_brace
      rw [← read (List.cons_ne_nil _ _), readBracketed, joined, skipBlanks_cons solid]
      simp only [open_yet, Bool.false_eq_true, if_false]

/-- Joined parts are as long as each of them, and as all the commas between them. -/
theorem length_joinWith (texts : List (List Char)) :
    (∀ text ∈ texts, text.length ≤ (joinWith [','] texts).length) ∧
      texts.length ≤ (joinWith [','] texts).length + 1 := by
  induction texts with
  | nil => exact ⟨List.forall_mem_nil _, Nat.zero_le _⟩
  | cons first rest ih =>
      cases rest with
      | nil => exact ⟨by simp [joinWith], by simp⟩
      | cons second rest =>
          obtain ⟨each, all⟩ := ih
          rw [joinWith_cons_cons, List.length_append, List.length_append, List.length_singleton]
          refine ⟨?_, by simp only [List.length_cons] at all ⊢; omega⟩
          rintro text (_ | ⟨_, later⟩)
          · omega
          · have := each text later
            omega

/-- A number begins with a minus or a digit. -/
theorem exists_head_of_number {number : NumberParts} (good : number.WellFormed) :
    ∃ c more, number.text = c :: more ∧ (c = '-' ∨ isAsciiDigit c = true) := by
  obtain ⟨first, more, whole⟩ := List.exists_cons_of_ne_nil good.some_whole
  have digit := good.whole_digits first (whole ▸ List.mem_cons_self)
  rw [NumberParts.text, whole]
  cases number.negative with
  | true => exact ⟨'-', _, rfl, .inl rfl⟩
  | false => exact ⟨first, _, rfl, .inr digit⟩

theorem readWord_of_number {c : Char} (number : c = '-' ∨ isAsciiDigit c = true) (rest : List Char) :
    readWord (c :: rest) = none := by
  unfold readWord
  split
  next same => cases same; exact absurd number (by decide)
  next same => cases same; exact absurd number (by decide)
  next same => cases same; exact absurd number (by decide)
  next => rfl

theorem solid_of_number {c : Char} (number : c = '-' ∨ isAsciiDigit c = true) :
    isJsonBlank c = false ∧ c ≠ '\x22' ∧ c ≠ '[' ∧ c ≠ '\x7b' ∧ c ≠ ']' ∧ c ≠ '\x7d' := by
  refine ⟨Bool.eq_false_iff.2 fun blank => ?_, ?_, ?_, ?_, ?_, ?_⟩
  · simp only [isJsonBlank, Bool.or_eq_true, beq_iff_eq] at blank
    rcases blank with ((rfl | rfl) | rfl) | rfl <;> exact absurd number (by decide)
  all_goals
    rintro rfl
    exact absurd number (by decide)

theorem readValue_leaf {c : Char} (solid : isJsonBlank c = false) (no_quote : c ≠ '\x22') (no_bracket : c ≠ '[')
    (no_brace : c ≠ '\x7b') (rest : List Char) : readValue (fuel + 1) (c :: rest) = readLeaf (c :: rest) := by
  rw [readValue, skipBlanks_cons solid]
  simp only [beq_iff_eq, no_quote, no_bracket, no_brace, if_false]

theorem readValue_number {number : NumberParts} (good : number.WellFormed) (delimited : Delimited rest) :
    readValue (fuel + 1) (number.text ++ rest) = some (number.value, rest) := by
  obtain ⟨c, more, text, head⟩ := exists_head_of_number good
  obtain ⟨solid, no_quote, no_bracket, no_brace, -⟩ := solid_of_number head
  have read := readNumberParts_text good delimited
  rw [text, List.cons_append] at read ⊢
  rw [readValue_leaf solid no_quote no_bracket no_brace, readLeaf, readWord_of_number head, read]
  rfl

/-- The text of a plain number. -/
theorem exists_parts_of_number (plain : Plain value)
    (number : (∃ n, value = .int n) ∨ ∃ x, value = .float x) : ∃ number : NumberParts,
      value.compact = number.text ∧ number.WellFormed ∧ number.value = value := by
  cases plain with
  | int n => exact exists_parts_int n
  | @float negative _ _ fits => exact exists_parts_float negative fits
  | _ => simp at number

theorem begins_compact (plain : Plain value) : Begins value.compact := by
  have number : (∃ n, value = .int n) ∨ (∃ x, value = .float x) → Begins value.compact := by
    intro number
    obtain ⟨parts, text, good, -⟩ := exists_parts_of_number plain number
    obtain ⟨c, more, same, head⟩ := exists_head_of_number good
    obtain ⟨solid, -, -, -, no_bracket, no_brace⟩ := solid_of_number head
    exact ⟨c, more, text.trans same, solid, no_bracket, no_brace⟩
  cases plain with
  | null => exact ⟨'n', _, rfl, rfl, by decide, by decide⟩
  | bool value => cases value <;> exact ⟨_, _, rfl, rfl, by decide, by decide⟩
  | int n => exact number (.inl ⟨n, rfl⟩)
  | float fits => exact number (.inr ⟨_, rfl⟩)
  | text value => exact ⟨'\x22', _, rfl, rfl, by decide, by decide⟩
  | list all => exact ⟨'[', _, rfl, rfl, by decide, by decide⟩
  | mapping names distinct all => exact ⟨'\x7b', _, rfl, rfl, by decide, by decide⟩

theorem length_le_jsonString (text : List Char) : text.length + 2 ≤ (jsonString text).length := by
  have each : ∀ c, 1 ≤ (jsonChar c).length := by
    intro c
    rw [jsonChar]
    split_ifs <;> simp
  have all : text.length ≤ (text.flatMap jsonChar).length := by
    induction text with
    | nil => exact Nat.le_refl 0
    | cons c text ih =>
        have := each c
        rw [List.flatMap_cons, List.length_append, List.length_cons]
        omega
  rw [jsonString, List.length_cons, List.length_append, List.length_singleton]
  omega

/-- An entry is read back if its value is. -/
theorem readEntry_entryText {entry : Key × Value} {name : String} (named : entry.1 = .name name)
    {read : List Char → Option (Value × List Char)} (enough : entry.1.json.length ≤ fuel)
    (reads : read (entry.2.compact ++ rest) = some (entry.2, rest)) :
    readEntry read fuel (entryText entry ++ rest) = some (entry, rest) := by
  obtain ⟨key, found⟩ := entry
  obtain rfl : key = .name name := named
  have size := length_le_jsonString name.toList
  have short : name.toList.length < fuel := by
    have : (jsonString name.toList).length ≤ fuel := enough
    omega
  dsimp only at reads
  rw [entryText, Key.json, jsonString, readEntry, List.cons_append, List.cons_append, skipBlanks_cons (by decide)]
  simp only [List.append_assoc, List.cons_append, List.nil_append, beq_self_eq_true, if_true, readText_json short,
    skipBlanks_cons (by decide : isJsonBlank ':' = false), reads, Option.map_some, String.ofList_toList]

theorem begins_entryText {entry : Key × Value} {name : String} (named : entry.1 = .name name) :
    Begins (entryText entry) := by
  rw [entryText, named]
  exact ⟨'\x22', _, rfl, rfl, by decide, by decide⟩

theorem readValue_quote (fuel : Nat) (text : List Char) : readValue (fuel + 1) ('\x22' :: text) =
    (readText fuel text).map fun (chars, rest) => (.text (String.ofList chars), rest) :=
  rfl

theorem readValue_bracket (fuel : Nat) (text : List Char) : readValue (fuel + 1) ('[' :: text) =
    (readBracketed (readValue fuel) ']' fuel text).map fun (items, rest) => (.list items, rest) :=
  rfl

theorem readValue_brace (fuel : Nat) (text : List Char) : readValue (fuel + 1) ('\x7b' :: text) =
    (readBracketed (readEntry (readValue fuel) fuel) '\x7d' fuel text).map fun (pairs, rest) =>
      (.mapping (Mapping.ofPairs pairs), rest) :=
  rfl

/-- A plain value is read back from its text on one line. -/
theorem readValue_compact (plain : Plain value) (enough : value.compact.length < fuel)
    (delimited : Delimited rest) : readValue fuel (value.compact ++ rest) = some (value, rest) := by
  obtain ⟨fuel, rfl⟩ := Nat.exists_eq_succ_of_ne_zero (Nat.ne_of_gt (Nat.zero_lt_of_lt enough))
  induction plain generalizing fuel rest with
  | null => rfl
  | bool value => cases value <;> rfl
  | int n =>
      obtain ⟨parts, text, good, same⟩ := exists_parts_of_number (.int n) (.inl ⟨n, rfl⟩)
      rw [text, readValue_number good delimited, same]
  | float fits =>
      obtain ⟨parts, text, good, same⟩ := exists_parts_of_number (.float fits) (.inr ⟨_, rfl⟩)
      rw [text, readValue_number good delimited, same]
  | text value =>
      have size := length_le_jsonString value.toList
      have short : value.toList.length < fuel := by
        have : (jsonString value.toList).length < fuel.succ := enough
        omega
      change readValue (fuel + 1) (jsonString value.toList ++ rest) = _
      rw [jsonString, List.cons_append, List.append_assoc, List.singleton_append, readValue_quote,
        readText_json short, Option.map_some]
      dsimp only
      rw [String.ofList_toList]
  | @list items all ih =>
      -- The brackets leave fuel for each item, since all of them are shorter, and for their number.
      rw [compact_list, List.length_cons, List.length_append, List.length_singleton] at enough
      obtain ⟨each, many⟩ := length_joinWith (items.map Value.compact)
      rw [List.length_map] at many
      obtain ⟨fuel, rfl⟩ := Nat.exists_eq_succ_of_ne_zero (by omega : fuel ≠ 0)
      have reads : ∀ item ∈ items, ∀ rest, Delimited rest →
          readValue (fuel + 1) (item.compact ++ rest) = some (item, rest) := by
        intro item member rest delimited
        have short := each item.compact (List.mem_map_of_mem member)
        exact ih item member delimited fuel (by omega)
      rw [compact_list, List.cons_append, List.append_assoc, List.singleton_append, readValue_bracket,
        readBracketed_joinWith (.inl rfl) reads (fun item member => begins_compact (all item member)) (by omega)]
      rfl
  | @mapping entries names distinct all ih =>
      rw [compact_mapping, List.length_cons, List.length_append, List.length_singleton] at enough
      obtain ⟨each, many⟩ := length_joinWith (entries.map entryText)
      rw [List.length_map] at many
      obtain ⟨fuel, rfl⟩ := Nat.exists_eq_succ_of_ne_zero (by omega : fuel ≠ 0)
      have reads : ∀ entry ∈ entries, ∀ rest, Delimited rest →
          readEntry (readValue (fuel + 1)) (fuel + 1) (entryText entry ++ rest) = some (entry, rest) := by
        intro entry member rest delimited
        obtain ⟨name, named⟩ := names entry member
        have short := each _ (List.mem_map_of_mem member)
        rw [entryText, List.length_append, List.length_cons] at short
        exact readEntry_entryText named (by omega) (ih entry member delimited fuel (by omega))
      have begins : ∀ entry ∈ entries, Begins (entryText entry) := fun entry member =>
        begins_entryText (names entry member).choose_spec
      -- No later entry takes the place of an earlier one, for the names are different.
      rw [compact_mapping, List.cons_append, List.append_assoc, List.singleton_append, readValue_brace,
        readBracketed_joinWith (.inr rfl) reads begins (by omega), Option.map_some]
      dsimp only
      rw [Mapping.ofPairs_of_nodup distinct]

/-- Reading the text of a plain value on one line gives the value. -/
theorem readJson_compact (plain : Plain value) : readJson value.compact = some value := by
  have nothing : Delimited [] := fun c head => absurd head (Option.not_mem_none c)
  have read := readValue_compact plain (Nat.lt_succ_self value.compact.length) nothing
  rw [List.append_nil] at read
  rw [readJson, read]
  rfl

/-- No character of the text is a control. -/
def IsShown (text : List Char) : Prop :=
  ∀ c ∈ text, 0x20 ≤ c.toNat

instance : DecidablePred IsShown :=
  List.decidableBAll fun c : Char => 0x20 ≤ c.toNat

theorem isShown_nil : IsShown [] :=
  List.forall_mem_nil _

theorem isShown_append {first second : List Char} (shown : IsShown first) (shown' : IsShown second) :
    IsShown (first ++ second) :=
  fun c member => (List.mem_append.1 member).elim (shown c) (shown' c)

theorem isShown_cons {c : Char} (shown : 0x20 ≤ c.toNat) (shown' : IsShown text) : IsShown (c :: text) := by
  rintro d (_ | ⟨_, later⟩)
  · exact shown
  · exact shown' d later

theorem isShown_digits {digits : List Char} (all : ∀ c ∈ digits, isAsciiDigit c = true) : IsShown digits := by
  intro c member
  have digit := all c member
  simp only [isAsciiDigit, Char.le_def, UInt32.le_iff_toNat_le, Bool.and_eq_true, decide_eq_true_eq] at digit
  exact le_trans (by decide) digit.1

theorem isShown_hexDigits (width number : Nat) : IsShown (hexDigits width number) := by
  have digit : ∀ digit < 16, IsShown [hexDigit digit] := by decide
  induction width generalizing number with
  | zero => exact isShown_nil
  | succ width ih => exact isShown_append (ih _) (digit _ (Nat.mod_lt _ (by decide)))

/-- A JSON string has no controls, whatever it is a string of. -/
theorem isShown_jsonString (text : List Char) : IsShown (jsonString text) := by
  have each : ∀ c, IsShown (jsonChar c) := by
    intro c
    rw [jsonChar]
    split_ifs with quote backslash feed carriage tab back form control
    all_goals try decide
    · exact isShown_append (by decide : IsShown ['\\', 'u']) (isShown_hexDigits 4 _)
    · exact isShown_cons (not_lt.1 control) isShown_nil
  have all : IsShown (text.flatMap jsonChar) := by
    intro c member
    obtain ⟨of, -, inside⟩ := List.mem_flatMap.1 member
    exact each of c inside
  exact isShown_cons (by decide) (isShown_append all (by decide))

theorem isShown_number {number : NumberParts} (good : number.WellFormed) : IsShown number.text := by
  have sign : IsShown (if number.negative then ['-'] else []) := by split_ifs <;> decide
  have places : IsShown (NumberParts.placesText number.places) := by
    rw [NumberParts.placesText]
    split_ifs
    · exact isShown_nil
    · exact isShown_cons (by decide) (isShown_digits good.places_digits)
  have power : IsShown (NumberParts.powerText number.power) := by
    cases number.power with
    | none => exact isShown_nil
    | some power =>
        obtain ⟨digits, text, -, all, -⟩ := exists_exponentText power
        rw [NumberParts.powerText, text]
        refine isShown_cons (by decide) (isShown_cons ?_ (isShown_digits all))
        split_ifs <;> decide
  exact isShown_append sign (isShown_append (isShown_digits good.whole_digits) (isShown_append places power))

theorem isShown_joinWith {texts : List (List Char)} (all : ∀ text ∈ texts, IsShown text) :
    IsShown (joinWith [','] texts) := by
  induction texts with
  | nil => exact isShown_nil
  | cons first rest ih =>
      have shown := all first List.mem_cons_self
      cases rest with
      | nil => exact shown
      | cons second rest =>
          exact isShown_append (isShown_append shown (by decide))
            (ih fun text later => all text (List.mem_cons_of_mem _ later))

/-- The text of a plain value on one line has no controls, whatever texts the value is made of. -/
theorem isShown_compact (plain : Plain value) : IsShown value.compact := by
  induction plain with
  | null => decide
  | bool value => cases value <;> decide
  | int n =>
      obtain ⟨parts, text, good, -⟩ := exists_parts_of_number (.int n) (.inl ⟨n, rfl⟩)
      exact text ▸ isShown_number good
  | float fits =>
      obtain ⟨parts, text, good, -⟩ := exists_parts_of_number (.float fits) (.inr ⟨_, rfl⟩)
      exact text ▸ isShown_number good
  | text value => exact isShown_jsonString value.toList
  | @list items all ih =>
      rw [compact_list]
      refine isShown_cons (by decide) (isShown_append ?_ (by decide))
      refine isShown_joinWith fun text member => ?_
      obtain ⟨item, among, rfl⟩ := List.mem_map.1 member
      exact ih item among
  | @mapping entries names distinct all ih =>
      rw [compact_mapping]
      refine isShown_cons (by decide) (isShown_append ?_ (by decide))
      refine isShown_joinWith fun text member => ?_
      obtain ⟨entry, among, rfl⟩ := List.mem_map.1 member
      obtain ⟨name, named⟩ := names entry among
      rw [entryText, named]
      exact isShown_append (isShown_jsonString name.toList) (isShown_cons (by decide) (ih entry among))

end QueryDesk.Json
