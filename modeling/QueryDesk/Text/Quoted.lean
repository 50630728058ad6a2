/-
Module: QueryDesk.Text.Quoted
Purpose: Texts between quotes: the literal form that messages show a text in, and JSON strings. Both
  escape the delimiter, the backslash and what has no printed form, and nothing else.
Imports: QueryDesk.Text.CharTable, QueryDesk.Text.CharClass
Main exports: hexDigits, literalForm, octetsLiteralForm, jsonString
-/
import QueryDesk.Text.CharTable
import QueryDesk.Text.CharClass

namespace QueryDesk.Text

/-- A hexadecimal digit in lower case. -/
def hexDigit (value : Nat) : Char :=
  if value < 10 then Char.ofNat (0x30 + value) else Char.ofNat (0x57 + value)

/-- A number in hexadecimal with the given count of digits. -/
def hexDigits : Nat → Nat → List Char
  | 0, _ => []
  | width + 1, value => hexDigits width (value / 16) ++ [hexDigit (value % 16)]

/-- Whether a character has a printed form. -/
def isPrinted (c : Char) : Bool :=
  !inRanges unprintedRanges c.toNat

/-- The escape of a code point, as short as its size allows. -/
def codeEscape (code : Nat) : List Char :=
  if code < 0x100 then '\\' :: 'x' :: hexDigits 2 code
  else if code < 0x10000 then '\\' :: 'u' :: hexDigits 4 code
  else '\\' :: 'U' :: hexDigits 8 code

/-- One character of a literal under its delimiter. -/
def literalChar (delimiter c : Char) : List Char :=
  if c == delimiter || c == '\\' then ['\\', c]
  else if c == '\n' then ['\\', 'n']
  else if c == '\r' then ['\\', 'r']
  else if c == '\t' then ['\\', 't']
  else if isPrinted c then [c]
  else codeEscape c.toNat

/-- The delimiter of a literal: the single quote, unless only single quotes occur inside. -/
def literalDelimiter (text : List Char) : Char :=
  if text.contains '\x27' && !text.contains '\x22' then '\x22' else '\x27'

/-- A text as a literal between quotes. -/
def literalForm (text : List Char) : List Char :=
  let delimiter := literalDelimiter text
  delimiter :: (text.flatMap (literalChar delimiter) ++ [delimiter])

/-- One octet of an octet literal under its delimiter. -/
def octetLiteralChar (delimiter : Char) (octet : Nat) : List Char :=
  if octet < 128 then literalChar delimiter (Char.ofNat octet) else '\\' :: 'x' :: hexDigits 2 octet

/-- Octets as a literal between quotes. -/
def octetsLiteralForm (octets : List Nat) : List Char :=
  let delimiter := literalDelimiter (octets.map Char.ofNat)
  'b' :: delimiter :: (octets.flatMap (octetLiteralChar delimiter) ++ [delimiter])

/-- One character of a JSON string. Only the delimiter, the backslash and the controls below the
space are escaped. -/
def jsonChar (c : Char) : List Char :=
  if c == '\x22' then ['\\', '\x22']
  else if c == '\\' then ['\\', '\\']
  else if c == '\n' then ['\\', 'n']
  else if c == '\r' then ['\\', 'r']
  else if c == '\t' then ['\\', 't']
  else if c.toNat == 8 then ['\\', 'b']
  else if c.toNat == 12 then ['\\', 'f']
  else if c.toNat < 0x20 then '\\' :: 'u' :: hexDigits 4 c.toNat
  else [c]

/-- A text as a JSON string. -/
def jsonString (text : List Char) : List Char :=
  '\x22' :: (text.flatMap jsonChar ++ ['\x22'])

end QueryDesk.Text
