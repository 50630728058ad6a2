/-
Module: QueryDesk.Connection.HostAddress
Purpose: Numeric host addresses as they are written: four decimal octets between dots, and eight
  hexadecimal groups between colons, a run of which may be left out.
Imports: QueryDesk.Text.CharClass
Main exports: isDottedAddress, isColonAddress
-/
import QueryDesk.Text.CharClass

namespace QueryDesk

open QueryDesk.Text

/-- An octet in decimal: at most 255, and without leading zeros. -/
def isOctet (part : List Char) : Bool :=
  match part with
  | [] => false
  | ['0'] => true
  | first :: _ =>
    part.all isAsciiDigit && part.length ≤ 3 && first != '0' &&
      part.foldl (fun sum c => 10 * sum + (c.toNat - '0'.toNat)) 0 ≤ 255

/-- An address of four octets. -/
def isDottedAddress (text : List Char) : Bool :=
  let parts := splitAtChar '.' text
  parts.length == 4 && parts.all isOctet

/-- A hexadecimal digit. -/
def isHexDigit (c : Char) : Bool :=
  isAsciiDigit c || ('a' ≤ c && c ≤ 'f') || ('A' ≤ c && c ≤ 'F')

/-- A group of one to four hexadecimal digits. -/
def isHexGroup (part : List Char) : Bool :=
  part.all isHexDigit && 0 < part.length && part.length ≤ 4

/-- The number of groups on one side of the run that is left out. Nothing at all may stand there. -/
def groupsBeside? (parts : List (List Char)) : Option Nat :=
  if parts == [[]] then some 0
  else if parts.all isHexGroup then some parts.length
  else none

/-- Whether parts between colons are an address: eight groups, or fewer with one run left out,
which is an empty part that is neither the first nor the last one. -/
def areGroups (parts : List (List Char)) : Bool :=
  let before := parts.take 1 ++ (parts.drop 1).dropLast.takeWhile (!·.isEmpty)
  if before.length + 1 < parts.length then
    match groupsBeside? before, groupsBeside? (parts.drop (before.length + 1)) with
    | some front, some back => front + back < 8
    | _, _ => false
  else parts.length == 8 && parts.all isHexGroup

/-- The parts between colons, where an address of four octets at the end stands for two groups. -/
def colonParts? (text : List Char) : Option (List (List Char)) :=
  let parts := splitAtChar ':' text
  let last := parts.getLastD []
  if last.contains '.' then
    if isDottedAddress last then some (parts.dropLast ++ [['0'], ['0']]) else none
  else some parts

/-- Whether what follows an address is a zone: a percent sign and a name without one. -/
def isZone (text : List Char) : Bool :=
  match text with
  | [] => true
  | _ :: name => !name.isEmpty && !name.contains '%'

/-- An address of eight groups, which may have a zone. There are at least three parts. -/
def isColonAddress (text : List Char) : Bool :=
  let address := text.takeWhile (· != '%')
  isZone (text.dropWhile (· != '%')) && 3 ≤ (splitAtChar ':' address).length &&
    (colonParts? address).any areGroups

end QueryDesk
