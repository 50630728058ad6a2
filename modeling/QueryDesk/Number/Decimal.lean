/-
Module: QueryDesk.Number.Decimal
Purpose: Decimal numbers that keep their scale: reading them, and writing them back in scientific
  notation where the scale asks for it.
Imports: QueryDesk.Number.Numeral
Main exports: Decimal, Decimal.ofText?, Decimal.text, Decimal.truncate?, Decimal.equalsInt
-/
import QueryDesk.Number.Numeral

namespace QueryDesk.Number

open QueryDesk.Text

/-- A decimal number. A finite one is `coefficient * 10 ^ exponent` under its sign, and two numbers
of one value may differ in scale. -/
inductive Decimal where
  | finite (negative : Bool) (coefficient : Nat) (exponent : Int)
  | infinite (negative : Bool)
  | nan (negative signaling : Bool) (payload : List Char)
deriving Repr, Inhabited, DecidableEq

namespace Decimal

/-- The decimal number that a numeral writes, its scale kept. -/
def ofText? (text : List Char) : Option Decimal :=
  let (negative, body) := readSign (trim text)
  let folded := body.map Char.toLower
  if folded == "inf".toList || folded == "infinity".toList then some (.infinite negative)
  else if "nan".toList.isPrefixOf folded then some (.nan negative false (folded.drop 3))
  else if "snan".toList.isPrefixOf folded then some (.nan negative true (folded.drop 4))
  else
    let (whole, afterWhole) := readDigits body
    let (places, afterPoint) :=
      match afterWhole with
      | '.' :: rest => readDigits rest
      | rest => ([], rest)
    if whole.isEmpty && places.isEmpty then none
    else
      match readExponent afterPoint with
      | some (exponent, []) =>
        some (.finite negative (digitsToNat (whole ++ places)) (exponent - places.length))
      | _ => none

/-- A finite number is written positionally when its scale is not positive and its leading digit
is not more than six places behind the point, and in scientific notation otherwise. -/
def finiteText (coefficient : Nat) (exponent : Int) : List Char :=
  let digits := (toString coefficient).toList
  let lead : Int := exponent + digits.length - 1
  if exponent ≤ 0 && -6 ≤ lead then
    let point : Int := digits.length + exponent
    if exponent == 0 then digits
    else if 0 < point then digits.take point.toNat ++ '.' :: digits.drop point.toNat
    else '0' :: '.' :: (List.replicate (-point).toNat '0' ++ digits)
  else
    let tail := digits.drop 1
    digits.take 1 ++ (if tail.isEmpty then [] else '.' :: tail) ++
      'E' :: (if lead < 0 then '-' else '+') :: (toString lead.natAbs).toList

/-- The text of a decimal number. -/
def text : Decimal → String
  | .finite negative coefficient exponent =>
    (if negative then "-" else "") ++ String.ofList (finiteText coefficient exponent)
  | .infinite negative => if negative then "-Infinity" else "Infinity"
  | .nan negative signaling payload =>
    (if negative then "-" else "") ++ (if signaling then "sNaN" else "NaN") ++
      String.ofList payload

/-- Whether the number is a zero. -/
def isZero : Decimal → Bool
  | .finite _ 0 _ => true
  | _ => false

/-- The integer part, absent unless the number is finite. -/
def truncate? : Decimal → Option Int
  | .finite negative coefficient exponent =>
    let part : Int :=
      if 0 ≤ exponent then coefficient * tenTo exponent.toNat
      else (coefficient / tenTo (-exponent).toNat : Nat)
    some (if negative then -part else part)
  | _ => none

/-- Whether the number has the value of an integer. -/
def equalsInt (value : Int) : Decimal → Bool
  | .finite negative coefficient exponent =>
    let signed : Int := if negative then -(coefficient : Int) else coefficient
    if 0 ≤ exponent then signed * tenTo exponent.toNat == value
    else signed == value * tenTo (-exponent).toNat
  | _ => false

end Decimal

end QueryDesk.Number
