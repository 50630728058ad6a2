/-
Module: QueryDesk.Number.Numeral
Purpose: Reading whole and decimal numerals. A numeral may stand between blanks, carry a sign, use
  the decimal digits of any script, and group its digits by single underscores. A whole numeral of too
  many digits is neither read nor written.
Imports: QueryDesk.Text.Case, QueryDesk.Number.Binary64
Main exports: digitsValue?, numeralLimit, Writable, readDigits, trimNumeral, readInt?, readBinary64?
-/
import QueryDesk.Text.Case
import QueryDesk.Number.Binary64

namespace QueryDesk.Number

open QueryDesk.Text

/-- The value of a run of decimal digits, read after the digits already seen. -/
def digitsValueFrom (seen : Nat) : List Char → Option Nat
  | [] => some seen
  | c :: rest =>
    match digitValue? c with
    | some value => digitsValueFrom (10 * seen + value) rest
    | none => none

/-- The value of a text of at least one character, all of them decimal digits. -/
def digitsValue? : List Char → Option Nat
  | [] => none
  | text => digitsValueFrom 0 text

/-- The most digits of a whole numeral that is read or written. -/
def numeralLimit : Nat := 4300

/-- The least number of more digits than are written. It stays folded in proofs. -/
@[irreducible]
def numeralBound : Nat := tenTo numeralLimit

/-- An integer of no more digits than are written. Its sign does not count. -/
def Writable (value : Int) : Prop :=
  value.natAbs < numeralBound

instance : DecidablePred Writable := fun value =>
  inferInstanceAs (Decidable (value.natAbs < numeralBound))

/-- Digits after a digit (or at the start of a numeral): their values and the rest. One underscore
between two digits is passed over. -/
def readDigitsAfter (afterDigit : Bool) : List Char → List Nat × List Char
  | [] => ([], [])
  | c :: rest =>
    match digitValue? c with
    | some value =>
      let (values, left) := readDigitsAfter true rest
      (value :: values, left)
    | none =>
      if c == '_' && afterDigit && rest.head?.any isDigit then readDigitsAfter true rest
      else ([], c :: rest)

/-- Digits at the head of a text, grouped by single underscores: their values and the rest. -/
def readDigits (text : List Char) : List Nat × List Char :=
  readDigitsAfter false text

/-- The number that a list of digit values writes. -/
def digitsToNat (values : List Nat) : Nat :=
  values.foldl (fun sum value => 10 * sum + value) 0

/-- A sign at the head of a text: whether it is a minus, and the rest. -/
def readSign : List Char → Bool × List Char
  | '-' :: rest => (true, rest)
  | '+' :: rest => (false, rest)
  | text => (false, text)

/-- A numeral without the white space around it. The separators U+001C to U+001F are blanks, but may not
stand there. -/
def trimNumeral (text : List Char) : List Char :=
  ((text.dropWhile isWhiteSpace).reverse.dropWhile isWhiteSpace).reverse

/-- The integer that a whole numeral writes. A numeral of too many digits is not read. -/
def readInt? (text : List Char) : Option Int :=
  let (negative, body) := readSign (trimNumeral text)
  match readDigits body with
  | ([], _) => none
  | (values, []) =>
    if numeralLimit < values.length then none
    else
      let value : Int := digitsToNat values
      some (if negative then -value else value)
  | _ => none

/-- The binary64 number nearest to `coefficient * 10 ^ exponent` under a sign. Exponents beyond any
finite number are answered without computing the power. -/
def ofDecimal (negative : Bool) (coefficient : Nat) (exponent : Int) : Binary64 :=
  let size : Int := ((toString coefficient).length : Int) + exponent
  if coefficient == 0 || size < -400 then .finite negative 0 (-1074)
  else if 400 < size then .infinite negative
  else if 0 ≤ exponent then .ofRatio negative (coefficient * tenTo exponent.toNat) 1
  else .ofRatio negative coefficient (tenTo (-exponent).toNat)

/-- An exponent mark with its value at the head of a text, or zero and the text itself. -/
def readExponent (text : List Char) : Option (Int × List Char) :=
  match text with
  | c :: rest =>
    if c == 'e' || c == 'E' then
      let (negative, body) := readSign rest
      match readDigits body with
      | ([], _) => none
      | (values, left) =>
        let value : Int := digitsToNat values
        some (if negative then -value else value, left)
    else some (0, text)
  | [] => some (0, [])

/-- The number that a decimal numeral writes: digits with an optional point and an optional
exponent, or one of the words for infinity and no number. -/
def readBinary64? (text : List Char) : Option Binary64 :=
  let (negative, body) := readSign (trimNumeral text)
  let word := String.ofList (body.map Char.toLower)
  if word == "inf" || word == "infinity" then some (.infinite negative)
  else if word == "nan" then some .nan
  else
    let (whole, afterWhole) := readDigits body
    let (places, afterPoint) :=
      match afterWhole with
      | '.' :: rest => readDigits rest
      | rest => ([], rest)
    if whole.isEmpty && places.isEmpty then none
    else
      match readExponent afterPoint with
      | some (exponent, []) =>
        some (ofDecimal negative (digitsToNat (whole ++ places)) (exponent - places.length))
      | _ => none

end QueryDesk.Number
