/-
Module: QueryDesk.Text.Utf8
Purpose: UTF-8 encoding, and decoding that never fails: every maximal part of an ill-formed sequence
  becomes one replacement character.
Imports: none
Main exports: utf8Encode, utf8Decode
-/

namespace QueryDesk.Text

/-- The octets of one character. -/
def utf8Char (c : Char) : List Nat :=
  let n := c.toNat
  if n < 0x80 then [n]
  else if n < 0x800 then [0xc0 + n / 0x40, 0x80 + n % 0x40]
  else if n < 0x10000 then [0xe0 + n / 0x1000, 0x80 + n / 0x40 % 0x40, 0x80 + n % 0x40]
  else [0xf0 + n / 0x40000, 0x80 + n / 0x1000 % 0x40, 0x80 + n / 0x40 % 0x40, 0x80 + n % 0x40]

/-- The octets of a text. -/
def utf8Encode (text : List Char) : List Nat :=
  text.flatMap utf8Char

/-- The replacement character. -/
def replacement : Char := Char.ofNat 0xfffd

/-- What a sequence still needs: how many octets, the range of the next one, and the code point
so far. -/
structure Pending where
  owed : Nat
  low : Nat
  high : Nat
  code : Nat
deriving Repr, Inhabited, DecidableEq

/-- What the first octet of a character asks for. Overlong forms, surrogates and code points
beyond the last one are excluded by the range of the second octet. -/
def Pending.start? (octet : Nat) : Option Pending :=
  if 0xc2 ≤ octet && octet ≤ 0xdf then some ⟨1, 0x80, 0xbf, octet - 0xc0⟩
  else if octet == 0xe0 then some ⟨2, 0xa0, 0xbf, 0⟩
  else if octet == 0xed then some ⟨2, 0x80, 0x9f, 0xd⟩
  else if 0xe1 ≤ octet && octet ≤ 0xef then some ⟨2, 0x80, 0xbf, octet - 0xe0⟩
  else if octet == 0xf0 then some ⟨3, 0x90, 0xbf, 0⟩
  else if octet == 0xf4 then some ⟨3, 0x80, 0x8f, 4⟩
  else if 0xf1 ≤ octet && octet ≤ 0xf3 then some ⟨3, 0x80, 0xbf, octet - 0xf0⟩
  else none

/-- The characters that one octet completes between characters, and what is pending after it. -/
def utf8Fresh (octet : Nat) : List Char × Option Pending :=
  if octet < 0x80 then ([Char.ofNat octet], none)
  else
    match Pending.start? octet with
    | some pending => ([], some pending)
    | none => ([replacement], none)

/-- The characters of the octets that follow a possibly incomplete sequence. An octet that does
not continue the sequence ends it with a replacement and is read afresh. -/
def utf8DecodeFrom : Option Pending → List Nat → List Char
  | none, [] => []
  | some _, [] => [replacement]
  | none, octet :: rest =>
    let (chars, pending) := utf8Fresh octet
    chars ++ utf8DecodeFrom pending rest
  | some p, octet :: rest =>
    if p.low ≤ octet && octet ≤ p.high then
      let code := p.code * 0x40 + octet % 0x40
      if p.owed == 1 then Char.ofNat code :: utf8DecodeFrom none rest
      else utf8DecodeFrom (some ⟨p.owed - 1, 0x80, 0xbf, code⟩) rest
    else
      let (chars, pending) := utf8Fresh octet
      replacement :: (chars ++ utf8DecodeFrom pending rest)

/-- The text of octets. -/
def utf8Decode (octets : List Nat) : List Char :=
  utf8DecodeFrom none octets

end QueryDesk.Text
