/-
Module: QueryDesk.Text.Case
Purpose: Upper, lower and title case of whole texts by the full Unicode maps, and the coarser fold
  under which SQL keywords are compared.
Imports: QueryDesk.Text.CaseTable, QueryDesk.Text.CharClass
Main exports: upper, lower, titleWords, foldKeyword, upperString, lowerString
-/
import QueryDesk.Text.CaseTable
import QueryDesk.Text.CharClass

namespace QueryDesk.Text

/-- The image of a code point under the first run that covers it, or the code point itself. -/
def mapByRuns (runs : List CaseRun) (code : Nat) : Nat :=
  (runs.findSome? fun run => run.image? code).getD code

/-- The upper-case image of one character, which may be several characters. -/
def upperChar (c : Char) : List Char :=
  if c.toNat < 128 then [c.toUpper]
  else
    match upperExpansions.lookup c.toNat with
    | some image => image.map Char.ofNat
    | none => [Char.ofNat (mapByRuns upperRuns c.toNat)]

/-- The lower-case image of one character without regard to its neighbours. -/
def lowerChar (c : Char) : List Char :=
  if c.toNat < 128 then [c.toLower]
  else if c.toNat == 0x130 then ['i', Char.ofNat 0x307]
  else [Char.ofNat (mapByRuns lowerRuns c.toNat)]

/-- The title-case image of one character. -/
def titleChar (c : Char) : List Char :=
  match titleExceptions.lookup c.toNat with
  | some image => image.map Char.ofNat
  | none => upperChar c

/-- Whether a character has a case. -/
def isCased (c : Char) : Bool :=
  if c.toNat < 128 then isAsciiLetter c else inRanges casedRanges c.toNat

/-- Whether a character is passed over when a sigma looks for its neighbours. -/
def isCaseIgnorable (c : Char) : Bool :=
  inRanges caseIgnorableRanges c.toNat

/-- Whether the nearest character that counts has a case. -/
def meetsCased (text : List Char) : Bool :=
  match text.dropWhile isCaseIgnorable with
  | c :: _ => isCased c
  | [] => false

/-- Lower-case image of a character between the reversed text before it and the text after it: a
capital sigma at the end of a word becomes the final sigma. -/
def lowerCharBetween (before : List Char) (c : Char) (after : List Char) : List Char :=
  if c.toNat == 0x3a3 then
    if meetsCased before && !meetsCased after then [Char.ofNat 0x3c2] else [Char.ofNat 0x3c3]
  else lowerChar c

/-- The text in upper case. -/
def upper (text : List Char) : List Char :=
  text.flatMap upperChar

/-- Lower case of a text that follows the given reversed text. -/
def lowerAfter (before : List Char) : List Char → List Char
  | [] => []
  | c :: rest => lowerCharBetween before c rest ++ lowerAfter (c :: before) rest

/-- The text in lower case. -/
def lower (text : List Char) : List Char :=
  lowerAfter [] text

/-- Title case of a text that follows the given reversed text. -/
def titleAfter (before : List Char) : List Char → List Char
  | [] => []
  | c :: rest =>
    let image :=
      match before with
      | previous :: _ => if isCased previous then lowerCharBetween before c rest else titleChar c
      | [] => titleChar c
    image ++ titleAfter (c :: before) rest

/-- The text with the first letter of every run of letters in title case and the others in lower
case. -/
def titleWords (text : List Char) : List Char :=
  titleAfter [] text

/-- The fold under which keywords are compared: ASCII case, and the four characters outside ASCII
that fold to an ASCII letter (long s, Kelvin sign, and the two Turkish letters i). -/
def foldKeyword (c : Char) : Char :=
  match c.toNat with
  | 0x17f => 's'
  | 0x212a => 'k'
  | 0x130 => 'i'
  | 0x131 => 'i'
  | _ => c.toLower

/-- Upper case of a string. -/
def upperString (text : String) : String :=
  String.ofList (upper text.toList)

/-- Lower case of a string. -/
def lowerString (text : String) : String :=
  String.ofList (lower text.toList)

/-- A string without blanks at either end. -/
def trimString (text : String) : String :=
  String.ofList (trim text.toList)

end QueryDesk.Text
