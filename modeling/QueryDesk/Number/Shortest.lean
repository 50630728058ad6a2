/-
Module: QueryDesk.Number.Shortest
Purpose: Decimal text of binary64 numbers: the fewest digits that read back as the number, and a
  fixed count of significant digits. The digits are found in exact arithmetic; a style record says
  how they are laid out.
Imports: QueryDesk.Number.Binary64
Main exports: DecimalDigits, shortestDigits, significantDigits, FloatStyle, Binary64.text,
  Binary64.generalText
-/
import QueryDesk.Number.Binary64

namespace QueryDesk.Number

/-- The number `coefficient * 10 ^ exponent`. -/
structure DecimalDigits where
  coefficient : Nat
  exponent : Int
deriving Repr, Inhabited, DecidableEq

/-- How often a quotient below one has to be multiplied by ten to reach one. -/
def stepsToOne (den : Nat) : Nat → Nat → Nat
  | 0, _ => 0
  | fuel + 1, num => if den ≤ num then 0 else stepsToOne den fuel (num * 10) + 1

/-- The position of the decimal point: the number lies from `10 ^ (p - 1)` up to `10 ^ p`. The
fuel bounds the leading zeros of the least positive binary64 number. -/
def pointPosition (num den : Nat) : Int :=
  if den ≤ num then ((toString (num / den)).length : Int)
  else 1 - (stepsToOne den 400 num : Int)

/-- A quotient divided by a power of ten, as a quotient. -/
def scaleDown (num den : Nat) (power : Int) : Nat × Nat :=
  if 0 ≤ power then (num, den * tenTo power.toNat) else (num * tenTo (-power).toNat, den)

/-- The binary64 number that decimal digits read back as. -/
def DecimalDigits.toBinary64 (digits : DecimalDigits) : Binary64 :=
  if 0 ≤ digits.exponent then
    .ofRatio false (digits.coefficient * tenTo digits.exponent.toNat) 1
  else .ofRatio false digits.coefficient (tenTo (-digits.exponent).toNat)

/-- The one of the two neighbours of a quotient on the decimal grid of the given exponent that
reads back as the target. If both do, the nearer one is taken, and the even one of two equally
near. -/
def neighbour? (target : Binary64) (num den : Nat) (exponent : Int) : Option DecimalDigits :=
  let (n, d) := scaleDown num den exponent
  let below : DecimalDigits := ⟨n / d, exponent⟩
  let above : DecimalDigits := ⟨n / d + 1, exponent⟩
  let nearest : DecimalDigits := ⟨divHalfEven n d, exponent⟩
  if nearest.toBinary64 == target then some nearest
  else if below.toBinary64 == target then some below
  else if above.toBinary64 == target then some above
  else none

/-- The digits on the first grid, from the given count of digits on, that reads back. -/
def shortestFrom (target : Binary64) (num den : Nat) (point : Int) : Nat → Nat → DecimalDigits
  | 0, count =>
    let (n, d) := scaleDown num den (point - count)
    ⟨divHalfEven n d, point - count⟩
  | fuel + 1, count =>
    match neighbour? target num den (point - count) with
    | some digits => digits
    | none => shortestFrom target num den point fuel (count + 1)

/-- The fewest digits that read back as a positive number. Seventeen digits always do. -/
def shortestDigits (mantissa : Nat) (exponent : Int) : DecimalDigits :=
  let (num, den) := Binary64.magnitude mantissa exponent
  shortestFrom (.finite false mantissa exponent) num den (pointPosition num den) 16 1

/-- A positive number rounded to the given count of significant digits. -/
def significantDigits (count mantissa : Nat) (exponent : Int) : DecimalDigits :=
  let (num, den) := Binary64.magnitude mantissa exponent
  let power := pointPosition num den - count
  let (n, d) := scaleDown num den power
  ⟨divHalfEven n d, power⟩

/-- How digits are laid out: the decimal exponents from `positionalFrom` up to `positionalBelow`
are written without an exponent, and a whole number keeps a point and a zero or not. -/
structure FloatStyle where
  positionalFrom : Int
  positionalBelow : Int
  keepsPointZero : Bool
deriving Repr, Inhabited, DecidableEq

/-- The text of a value: positional from 0.0001 to below 10 to the 16th, and never a bare whole
number. -/
def valueStyle : FloatStyle := ⟨-4, 16, true⟩

/-- The text of an amount of seconds in a message: six significant digits. -/
def generalStyle : FloatStyle := ⟨-4, 6, false⟩

/-- The digits without trailing zeros, as characters; never empty. -/
def trimZeros (digits : List Char) : List Char :=
  match (digits.reverse.dropWhile (· == '0')).reverse with
  | [] => ['0']
  | kept => kept

/-- An exponent with its sign and at least two digits. -/
def exponentText (exponent : Int) : List Char :=
  let digits := (toString exponent.natAbs).toList
  (if exponent < 0 then '-' else '+') :: (if digits.length < 2 then '0' :: digits else digits)

/-- Digits laid out in a style. The point stands after `point` digits. -/
def layOut (style : FloatStyle) (digits : List Char) (point : Int) : List Char :=
  let lead := point - 1
  if style.positionalFrom ≤ lead && lead < style.positionalBelow then
    if point ≤ 0 then
      '0' :: '.' :: (List.replicate (-point).toNat '0' ++ digits)
    else if digits.length ≤ point.toNat then
      digits ++ List.replicate (point.toNat - digits.length) '0' ++
        (if style.keepsPointZero then ['.', '0'] else [])
    else digits.take point.toNat ++ '.' :: digits.drop point.toNat
  else
    let head := digits.take 1
    let tail := digits.drop 1
    head ++ (if tail.isEmpty then [] else '.' :: tail) ++ 'e' :: exponentText lead

/-- A number in a style, its digits found by the given function. -/
def render (style : FloatStyle) (find : Nat → Int → DecimalDigits) : Binary64 → String
  | .nan => "nan"
  | .infinite negative => if negative then "-inf" else "inf"
  | .finite negative mantissa exponent =>
    let sign := if negative then "-" else ""
    let body :=
      if mantissa == 0 then layOut style ['0'] 1
      else
        let found := find mantissa exponent
        let digits := (toString found.coefficient).toList
        layOut style (trimZeros digits) (found.exponent + digits.length)
    sign ++ String.ofList body

/-- The fewest digits that read back. -/
def Binary64.text (x : Binary64) : String :=
  render valueStyle shortestDigits x

/-- Six significant digits without trailing zeros. -/
def Binary64.generalText (x : Binary64) : String :=
  render generalStyle (significantDigits 6) x

end QueryDesk.Number
