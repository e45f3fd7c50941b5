import TextSchema.Decimal.Binary64

/-!
# Shortest decimal text of a number

Of all decimals that read back as a given number, one with the fewest digits is
written, and of those the nearest to the number. What a format decides on top of
that is one `FloatFormat`: which of two equally near decimals is taken, and for
which sizes the digits are written without an exponent.
-/

set_option autoImplicit false

namespace TextSchema.Decimal

/-- The number `coefficient * 10 ^ exponent`. -/
structure Scaled where
  coefficient : Nat
  exponent : Int
deriving DecidableEq, Repr

structure Ratio where
  numerator : Nat
  denominator : Nat

namespace Ratio

def scaled (value base : Nat) (exponent : Int) : Ratio :=
  ⟨value * base.pow exponent.toNat, base.pow (-exponent).toNat⟩

def le (left right : Ratio) : Bool :=
  left.numerator * right.denominator ≤ right.numerator * left.denominator

def lt (left right : Ratio) : Bool :=
  left.numerator * right.denominator < right.numerator * left.denominator

def quotient (left right : Ratio) : Nat :=
  left.numerator * right.denominator / (left.denominator * right.numerator)

end Ratio

namespace Binary64

def quarters (number : Binary64) (count : Nat) : Ratio :=
  .scaled count 2 (number.exponent - 2)

/-- Whether a size reads back as the size of a number: it lies between the middles
towards the two neighbours, which themselves count if the significand is even. -/
def readsBack (number : Binary64) (size : Ratio) : Bool :=
  let low := number.quarters (4 * number.significand - if number.narrowBelow then 1 else 2)
  let high := number.quarters (4 * number.significand + 2)
  if number.significand % 2 = 0 then low.le size && size.le high
  else low.lt size && size.lt high

end Binary64

/-- The decimal places before the point: the least `k` with `size < 10 ^ k`, found
from an estimate that is at most two below it. -/
def leadingPlace (size : Ratio) : Nat → Int → Int
  | 0, place => place
  | steps + 1, place =>
      if size.lt (.scaled 1 10 place) then place else leadingPlace size steps (place + 1)

/-- An estimate of the decimal places before the point of `m * 2 ^ q` that is not
above their number, from the length of `m` and the exponent. -/
def placeEstimate (number : Binary64) : Int :=
  (Int.ofNat number.significand.log2 + number.exponent) * 30103 / 100000 - 1

def Scaled.stripped : Nat → Scaled → Scaled
  | 0, scaled => scaled
  | steps + 1, scaled =>
      if scaled.coefficient % 10 = 0 ∧ scaled.coefficient ≠ 0 then
        stripped steps ⟨scaled.coefficient / 10, scaled.exponent + 1⟩
      else
        scaled

/-- What a format decides about the text of a number. -/
structure FloatFormat where
  /-- Whether the upper of two equally near decimals is taken. If not, it is the
  one with an even last digit. -/
  tieUp : Bool
  /-- The least and the greatest number of decimal places before the point for
  which no exponent is written. -/
  leastPlace : Int
  greatestPlace : Int
  nan : String
  infinity : String

def shortestFrom (tieUp : Bool) (number : Binary64) (size : Ratio) : Nat → Int → Scaled
  | 0, place => ⟨size.quotient (.scaled 1 10 place), place⟩
  | steps + 1, place =>
      let lower := size.quotient (.scaled 1 10 place)
      let lowerReads := number.readsBack (.scaled lower 10 place)
      let upperReads := number.readsBack (.scaled (lower + 1) 10 place)
      -- Twice the size against the sum of the two neighbours.
      let double : Ratio := ⟨2 * size.numerator, size.denominator⟩
      let middle := Ratio.scaled (2 * lower + 1) 10 place
      let preferLower :=
        double.lt middle || (!middle.lt double && !tieUp && lower % 2 == 0)
      if lowerReads && (!upperReads || preferLower) then ⟨lower, place⟩
      else if upperReads then ⟨lower + 1, place⟩
      else shortestFrom tieUp number size steps (place - 1)

def shortest (tieUp : Bool) (number : Binary64) : Scaled :=
  let size := Ratio.scaled number.significand 2 number.exponent
  let places := leadingPlace size 4 (placeEstimate number)
  (shortestFrom tieUp number size 17 (places - 1)).stripped 20

def zeros (count : Nat) : List Char :=
  List.replicate count '0'

namespace FloatFormat

def layout (format : FloatFormat) (scaled : Scaled) : List Char :=
  let digits := Nat.toDigits 10 scaled.coefficient
  let place := Int.ofNat digits.length + scaled.exponent
  if format.leastPlace ≤ place ∧ place ≤ format.greatestPlace then
    if 0 ≤ scaled.exponent then
      digits ++ zeros scaled.exponent.toNat ++ ['.', '0']
    else if 0 < place then
      digits.take place.toNat ++ '.' :: digits.drop place.toNat
    else
      '0' :: '.' :: zeros (-place).toNat ++ digits
  else
    let exponent := (toString (place - 1)).toList
    match digits with
    | [digit] => digit :: 'e' :: exponent
    | digit :: rest => digit :: '.' :: rest ++ 'e' :: exponent
    | [] => []

def render (format : FloatFormat) (number : Binary64) : String :=
  if number.isNaN then format.nan
  else
    let sign := if number.negative then "-" else ""
    if number.isInfinite then sign ++ format.infinity
    else if number.isZero then sign ++ "0.0"
    else sign ++ String.ofList (format.layout (shortest format.tieUp number))

end FloatFormat

end TextSchema.Decimal
