/-
Module: QueryDesk.Text.CharClass
Purpose: The character classes that SQL text is read with (blanks, word characters, decimal digits)
  and trimming. A blank is any Unicode white space together with the four information separators; a
  word character is a letter, a numeral or the underscore.
Imports: QueryDesk.Text.CharTable
Main exports: isBlank, isWhiteSpace, isWord, digitValue?, trimStart, trimEnd, trim, isBlankText, firstLine
-/
import QueryDesk.Text.CharTable

namespace QueryDesk.Text

/-- White space: the Unicode property and the separators U+001C to U+001F. -/
def isBlank (c : Char) : Bool :=
  let n := c.toNat
  n == 0x20 || (0x09 ≤ n && n ≤ 0x0d) || (0x1c ≤ n && n ≤ 0x1f) || n == 0x85 || n == 0xa0 ||
    n == 0x1680 || (0x2000 ≤ n && n ≤ 0x200a) || n == 0x2028 || n == 0x2029 || n == 0x202f ||
    n == 0x205f || n == 0x3000

/-- White space by the Unicode property alone. -/
def isWhiteSpace (c : Char) : Bool :=
  isBlank c && !(0x1c ≤ c.toNat && c.toNat ≤ 0x1f)

/-- An ASCII letter. -/
def isAsciiLetter (c : Char) : Bool :=
  ('a' ≤ c && c ≤ 'z') || ('A' ≤ c && c ≤ 'Z')

/-- An ASCII digit. -/
def isAsciiDigit (c : Char) : Bool :=
  '0' ≤ c && c ≤ '9'

/-- A letter, a numeral or the underscore. -/
def isWord (c : Char) : Bool :=
  if c.toNat < 128 then isAsciiLetter c || isAsciiDigit c || c == '_'
  else inRanges wordRanges c.toNat

/-- The value of a decimal digit of any script. Above ASCII the digits of a script are ten
consecutive code points, so the offset in the run, modulo ten, is the value. -/
def digitValue? (c : Char) : Option Nat :=
  if isAsciiDigit c then some (c.toNat - '0'.toNat)
  else if c.toNat < 128 then none
  else
    match digitRanges.find? fun range => range.1 ≤ c.toNat && c.toNat ≤ range.2 with
    | some range => some ((c.toNat - range.1) % 10)
    | none => none

/-- A decimal digit of any script. -/
def isDigit (c : Char) : Bool :=
  (digitValue? c).isSome

/-- An ASCII letter or the underscore, which may begin a name. -/
def isNameStart (c : Char) : Bool :=
  isAsciiLetter c || c == '_'

/-- A character that continues a name. -/
def isNameChar (c : Char) : Bool :=
  isNameStart c || isAsciiDigit c

/-- The text without its leading blanks. -/
def trimStart (text : List Char) : List Char :=
  text.dropWhile isBlank

/-- The text without its trailing blanks. -/
def trimEnd : List Char → List Char
  | [] => []
  | c :: rest =>
    match trimEnd rest with
    | [] => if isBlank c then [] else [c]
    | kept => c :: kept

/-- The text without blanks at either end. -/
def trim (text : List Char) : List Char :=
  trimEnd (trimStart text)

/-- Whether the text holds nothing but blanks. -/
def isBlankText (text : List Char) : Bool :=
  text.all isBlank

/-- A character that ends a line: the line feed, the carriage return and their Unicode kin. -/
def isLineBreak (c : Char) : Bool :=
  let n := c.toNat
  (0x0a ≤ n && n ≤ 0x0d) || (0x1c ≤ n && n ≤ 0x1e) || n == 0x85 || n == 0x2028 || n == 0x2029

/-- The first line of a text, without its line break. -/
def firstLine (text : List Char) : List Char :=
  text.takeWhile fun c => !isLineBreak c

/-- The pieces of a text between the occurrences of one character. A text without it is one
piece, so the result is never empty. -/
def splitAtChar (separator : Char) : List Char → List (List Char)
  | [] => [[]]
  | c :: rest =>
    if c == separator then [] :: splitAtChar separator rest
    else
      match splitAtChar separator rest with
      | [] => [[c]]
      | piece :: pieces => (c :: piece) :: pieces

/-- Whether the text occurs in the other one. -/
def occursIn (part : List Char) : List Char → Bool
  | [] => part.isEmpty
  | c :: rest => part.isPrefixOf (c :: rest) || occursIn part rest

end QueryDesk.Text
