/-
Module: QueryDesk.Number.Measure
Purpose: Amounts of time and size as callers give them: whole numbers, or binary64 numbers. The two
  keep their form when they are shown or rounded, and are compared by their exact values.
Imports: QueryDesk.Number.Shortest
Main exports: Measure, Measure.text, Measure.isZero, Measure.lessThan, Measure.round
-/
import QueryDesk.Number.Shortest

namespace QueryDesk.Number

/-- A whole number or a binary64 number. -/
inductive Measure where
  | whole (value : Int)
  | binary (value : Binary64)
deriving Repr, Inhabited, DecidableEq

namespace Measure

/-- The text of a measure. -/
def text : Measure → String
  | .whole value => toString value
  | .binary value => value.text

/-- Whether a measure is zero. -/
def isZero : Measure → Bool
  | .whole value => value == 0
  | .binary value => value.isZero

/-- The exact value of a finite measure. -/
def toRat? : Measure → Option Rat
  | .whole value => some value
  | .binary value => value.toRat?

/-- Whether one measure is less than another one. No number is less than what is not a number. -/
def lessThan (x y : Measure) : Bool :=
  match x.toRat?, y.toRat? with
  | some p, some q => p < q
  | some _, none => y == .binary (.infinite false)
  | none, some _ => x == .binary (.infinite true)
  | none, none => x == .binary (.infinite true) && y == .binary (.infinite false)

/-- The measure rounded to decimal places. A whole number stays as it is. -/
def round (places : Nat) : Measure → Measure
  | .whole value => .whole value
  | .binary value => .binary (value.roundPlaces places)

end Measure

end QueryDesk.Number
