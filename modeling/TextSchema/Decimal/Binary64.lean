/-!
# Binary floating point numbers

Double precision numbers as their 64 bits. Equality is that of numbers: the two
zeros are equal and nothing equals a NaN.
-/

set_option autoImplicit false

namespace TextSchema.Decimal

/-- A double precision number given by its bits. -/
structure Binary64 where
  bits : UInt64
deriving DecidableEq, Repr

namespace Binary64

def negative (number : Binary64) : Bool :=
  1 <<< 63 ≤ number.bits.toNat

def exponentBits (number : Binary64) : Nat :=
  number.bits.toNat / (1 <<< 52) % (1 <<< 11)

def fractionBits (number : Binary64) : Nat :=
  number.bits.toNat % (1 <<< 52)

def isNaN (number : Binary64) : Bool :=
  number.exponentBits == 2047 && number.fractionBits != 0

def isInfinite (number : Binary64) : Bool :=
  number.exponentBits == 2047 && number.fractionBits == 0

def isZero (number : Binary64) : Bool :=
  number.exponentBits == 0 && number.fractionBits == 0

/-- The whole number `m` in the size `m * 2 ^ q` of a finite number. -/
def significand (number : Binary64) : Nat :=
  if number.exponentBits = 0 then number.fractionBits else (1 <<< 52) + number.fractionBits

def exponent (number : Binary64) : Int :=
  Int.ofNat (max number.exponentBits 1) - 1075

/-- Whether the gap to the next smaller size is half the gap to the next larger:
so at powers of two, unless the smaller one is subnormal. -/
def narrowBelow (number : Binary64) : Bool :=
  number.fractionBits == 0 && 1 < number.exponentBits

def sameNumber (left right : Binary64) : Bool :=
  !left.isNaN && !right.isNaN && (left.bits == right.bits || (left.isZero && right.isZero))

end Binary64

end TextSchema.Decimal
