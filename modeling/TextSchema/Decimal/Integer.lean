/-!
# Reading integers

Decimal integers in a bounded range: an optional sign and ASCII digits. The
text is read from the left and the first problem decides, so a letter before
the point where the number leaves the range is reported as a bad digit, and one
after it is not.
-/

set_option autoImplicit false

namespace TextSchema.Decimal

/-- Why a text is no integer of the range. -/
inductive IntegerError where
  | empty
  | invalidDigit
  | tooLarge
  | tooSmall
deriving DecidableEq, Repr

def IntegerError.message : IntegerError → String
  | .empty => "cannot parse integer from empty string"
  | .invalidDigit => "invalid digit found in string"
  | .tooLarge => "number too large to fit in target type"
  | .tooSmall => "number too small to fit in target type"

def digit? (char : Char) : Option Nat :=
  if '0' ≤ char ∧ char ≤ '9' then some (char.toNat - '0'.toNat) else none

def isAsciiDigit (char : Char) : Bool :=
  (digit? char).isSome

def readDigits (limit : Nat) (overflow : IntegerError) : List Char → Nat → Except IntegerError Nat
  | [], magnitude => .ok magnitude
  | char :: rest, magnitude =>
      match digit? char with
      | none => .error .invalidDigit
      | some digit =>
          if 10 * magnitude + digit ≤ limit then
            readDigits limit overflow rest (10 * magnitude + digit)
          else
            .error overflow

/-- An integer from `-below` to `above`. Where `signed` is false, a minus sign
is no part of a number. -/
def readInteger (signed : Bool) (below above : Nat) (text : List Char) :
    Except IntegerError Int :=
  match text with
  | [] => .error .empty
  | ['+'] | ['-'] => .error .invalidDigit
  | '+' :: digits => do return Int.ofNat (← readDigits above .tooLarge digits 0)
  | '-' :: digits =>
      if signed then do return -Int.ofNat (← readDigits below .tooSmall digits 0)
      else .error .invalidDigit
  | digits => do return Int.ofNat (← readDigits above .tooLarge digits 0)

def readInt64 (text : List Char) : Except IntegerError Int :=
  readInteger true (1 <<< 63) ((1 <<< 63) - 1) text

def readByte (text : List Char) : Except IntegerError Int :=
  readInteger false 0 255 text

end TextSchema.Decimal
