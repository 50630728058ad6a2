/-
Module: QueryDesk.Number.Binary64
Purpose: Binary64 numbers as exact values, and the rounding of quotients to them. Every operation
  computes its exact result and rounds it once, to the nearest number and to the even one of two
  equally near.
Imports: none
Main exports: divHalfEven, Binary64, Binary64.ofRatio, Binary64.ofInt, Binary64.sub, Binary64.mul,
  Binary64.toRat?, Binary64.compare?
-/

namespace QueryDesk.Number

/-- A power of two. -/
def twoTo (exponent : Nat) : Nat := Nat.pow 2 exponent

/-- A power of ten. -/
def tenTo (exponent : Nat) : Nat := Nat.pow 10 exponent

/-- The quotient rounded to the nearest natural number, a half going to the even neighbour. -/
def divHalfEven (num den : Nat) : Nat :=
  let quotient := num / den
  let twice := 2 * (num % den)
  if twice < den then quotient
  else if den < twice then quotient + 1
  else if quotient % 2 == 0 then quotient
  else quotient + 1

/-- A binary64 number. A finite one is `mantissa * 2 ^ exponent` under its sign, with the mantissa
below `2 ^ 53` and the exponent the least one, from -1074 on, that the mantissa fits. -/
inductive Binary64 where
  | finite (negative : Bool) (mantissa : Nat) (exponent : Int)
  | infinite (negative : Bool)
  | nan
deriving Repr, Inhabited, DecidableEq

namespace Binary64

/-- Positive zero. -/
def zero : Binary64 :=
  .finite false 0 (-1074)

/-- The greatest `k` with `2 ^ k * den ≤ num`, for positive arguments. -/
def floorLog2 (num den : Nat) : Int :=
  let guess : Int := (num.log2 : Int) - den.log2
  let fits :=
    if 0 ≤ guess then den * twoTo guess.toNat ≤ num else den ≤ num * twoTo (-guess).toNat
  if fits then guess else guess - 1

/-- The binary64 number nearest to a non-negative quotient, under a sign. -/
def ofRatio (negative : Bool) (num den : Nat) : Binary64 :=
  if num == 0 then .finite negative 0 (-1074)
  else
    let exponent := max (floorLog2 num den - 52) (-1074)
    let mantissa :=
      if 0 ≤ exponent then divHalfEven num (den * twoTo exponent.toNat)
      else divHalfEven (num * twoTo (-exponent).toNat) den
    let (mantissa, exponent) :=
      if mantissa == twoTo 53 then (twoTo 52, exponent + 1) else (mantissa, exponent)
    if 971 < exponent then .infinite negative else .finite negative mantissa exponent

/-- The binary64 number nearest to a rational number. -/
def ofRat (value : Rat) : Binary64 :=
  ofRatio (value.num < 0) value.num.natAbs value.den

/-- The binary64 number nearest to an integer. -/
def ofInt (value : Int) : Binary64 :=
  ofRatio (value < 0) value.natAbs 1

/-- The magnitude of a finite number as a quotient. -/
def magnitude (mantissa : Nat) (exponent : Int) : Nat × Nat :=
  if 0 ≤ exponent then (mantissa * twoTo exponent.toNat, 1) else (mantissa, twoTo (-exponent).toNat)

/-- The exact value of a finite number. -/
def toRat? : Binary64 → Option Rat
  | .finite negative mantissa exponent =>
    let (num, den) := magnitude mantissa exponent
    let value := mkRat num den
    some (if negative then -value else value)
  | _ => none

/-- The sign bit. -/
def isNegative : Binary64 → Bool
  | .finite negative _ _ => negative
  | .infinite negative => negative
  | .nan => false

/-- Whether the number is a zero of either sign. -/
def isZero : Binary64 → Bool
  | .finite _ 0 _ => true
  | _ => false

/-- The number with the other sign. -/
def neg : Binary64 → Binary64
  | .finite negative mantissa exponent => .finite (!negative) mantissa exponent
  | .infinite negative => .infinite (!negative)
  | .nan => .nan

/-- The rounded sum. The sum of two zeros is negative only if both are. -/
def add (x y : Binary64) : Binary64 :=
  match x, y with
  | .nan, _ => .nan
  | _, .nan => .nan
  | .infinite a, .infinite b => if a == b then .infinite a else .nan
  | .infinite a, _ => .infinite a
  | _, .infinite b => .infinite b
  | .finite a _ _, .finite b _ _ =>
    match x.toRat?, y.toRat? with
    | some p, some q =>
      if p + q = 0 then .finite (a && b) 0 (-1074) else ofRat (p + q)
    | _, _ => .nan

/-- The rounded difference. -/
def sub (x y : Binary64) : Binary64 :=
  x.add y.neg

/-- The rounded product. -/
def mul (x y : Binary64) : Binary64 :=
  let negative := x.isNegative != y.isNegative
  match x, y with
  | .nan, _ => .nan
  | _, .nan => .nan
  | .infinite _, other => if other.isZero then .nan else .infinite negative
  | other, .infinite _ => if other.isZero then .nan else .infinite negative
  | .finite _ m e, .finite _ n f =>
    let (a, b) := magnitude m e
    let (c, d) := magnitude n f
    ofRatio negative (a * c) (b * d)

/-- The order of two numbers, absent when one of them is no number. -/
def compare? (x y : Binary64) : Option Ordering :=
  match x, y with
  | .nan, _ => none
  | _, .nan => none
  | .infinite a, .infinite b =>
    some (if a == b then .eq else if a then .lt else .gt)
  | .infinite a, _ => some (if a then .lt else .gt)
  | _, .infinite b => some (if b then .gt else .lt)
  | _, _ =>
    match x.toRat?, y.toRat? with
    | some p, some q => some (if p < q then .lt else if p = q then .eq else .gt)
    | _, _ => none

/-- The integer part, absent unless the number is finite. -/
def truncate? : Binary64 → Option Int
  | .finite negative mantissa exponent =>
    let (num, den) := magnitude mantissa exponent
    let part : Int := (num / den : Nat)
    some (if negative then -part else part)
  | _ => none

/-- The least integer that is not below the number, absent unless the number is finite. -/
def ceil? (x : Binary64) : Option Int :=
  x.toRat?.map fun value => -((-value).floor)

/-- The number rounded to the given count of decimal places, a half in the exact value going to
the even digit. -/
def roundPlaces (places : Nat) : Binary64 → Binary64
  | .finite negative mantissa exponent =>
    let (num, den) := magnitude mantissa exponent
    ofRatio negative (divHalfEven (num * tenTo places) den) (tenTo places)
  | other => other

end Binary64

end QueryDesk.Number
