import TextSchema.Decimal.Integer
import TextSchema.Error

/-!
# Formats of fields

The format of a field is `[[fill]align][0][width][.precision]type`. A fill is any
character, but only before an alignment. Width and precision are kept as written.
-/

set_option autoImplicit false

namespace TextSchema

open Decimal

/-- The parts of a format. Absent parts are `none` or empty. -/
structure FieldFormat where
  fill : Option Char
  align : Option Char
  zero : Bool
  width : String
  precision : String
  typeName : String
deriving DecidableEq, Repr

namespace FieldFormat

def alignments : String := "<>=^"

def isAlignment (char : Char) : Bool :=
  alignments.toList.contains char

def ofType (typeName : String) : FieldFormat :=
  ⟨none, none, false, "", "", typeName⟩

/-- The fill and the alignment at the start of a format, and the rest. The second
character is looked at first, so an alignment can be a fill. -/
def splitAlignment : List Char → Option Char × Option Char × List Char
  | first :: second :: rest =>
      if isAlignment second then (some first, some second, rest)
      else if isAlignment first then (none, some first, second :: rest)
      else (none, none, first :: second :: rest)
  | [single] => if isAlignment single then (none, some single, []) else (none, none, [single])
  | [] => (none, none, [])

def splitZero : List Char → Bool × List Char
  | '0' :: rest => (true, rest)
  | text => (false, text)

def splitDigits (text : List Char) : List Char × List Char :=
  (text.takeWhile isAsciiDigit, text.dropWhile isAsciiDigit)

/-- The digits after a point at the start of a text, and the rest. A point is
passed over even if no digit follows. -/
def splitPrecision : List Char → List Char × List Char
  | '.' :: rest => splitDigits rest
  | text => ([], text)

def split (text : List Char) : FieldFormat :=
  let (fill, align, afterAlign) := splitAlignment text
  let (zero, afterZero) := splitZero afterAlign
  let (width, afterWidth) := splitDigits afterZero
  let (precision, typeName) := splitPrecision afterWidth
  ⟨fill, align, zero, String.ofList width, String.ofList precision, String.ofList typeName⟩

def read (text : String) : Except BuildError FieldFormat :=
  if text.isEmpty then .error .emptyFormat
  else
    let format := split text.toList
    if format.typeName.isEmpty then .error (.formatWithoutType text) else .ok format

/-- A format as text. A fill is written only with an alignment, and a point only
with a precision. -/
def render (format : FieldFormat) : String :=
  (match format.align with
    | some align => String.ofList (format.fill.toList ++ [align])
    | none => "") ++
  (if format.zero then "0" else "") ++
  format.width ++
  (if format.precision.isEmpty then "" else "." ++ format.precision) ++
  format.typeName

end FieldFormat

end TextSchema
