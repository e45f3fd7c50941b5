/-!
# Range tables

A set of code points written as ascending ranges. Every character property of
the library is given by such a table.
-/

set_option autoImplicit false

namespace TextSchema.Text

abbrev RangeTable := List (Nat × Nat)

/-- Whether a code point lies in one of the ranges. The search stops at the
first range above the code point, so it is exact for ascending tables only. -/
def RangeTable.contains : RangeTable → Nat → Bool
  | [], _ => false
  | (first, last) :: rest, code =>
      if code < first then false else decide (code ≤ last) || contains rest code

/-- The codes at which a range begins or has ended. -/
def RangeTable.cuts (table : RangeTable) : List Nat :=
  table.flatMap fun range => [range.1, range.2 + 1]

end TextSchema.Text
