import TextSchema.Decimal.Shortest
import TextSchema.Text.Quoted
import TextSchema.Value

/-!
# Values for inspection

The text that shows a value with its kind, for diagnostics.
-/

set_option autoImplicit false

namespace TextSchema

open Decimal

def enclosed (opening closing : String) (items : List String) : String :=
  opening ++ ", ".intercalate items ++ closing

def inspectOption {α : Type} (inspect : α → String) : Option α → String
  | none => "None"
  | some inner => "Some(" ++ inspect inner ++ ")"

namespace Value

/-- Numbers for inspection: no exponent from 0.0001 up to sixteen places before
the point, and the upper one of two equally near decimals. -/
def inspectFloat : FloatFormat where
  tieUp := true
  leastPlace := -3
  greatestPlace := 16
  nan := "NaN"
  infinity := "inf"

mutual

def inspect : Value → String
  | .null => "Null"
  | .bool value => "Bool(" ++ toString value ++ ")"
  | .int value => "Int(" ++ toString value ++ ")"
  | .float value => "Float(" ++ inspectFloat.render value ++ ")"
  | .string value => "String(" ++ Text.quote value ++ ")"
  | .array items => "Array(" ++ enclosed "[" "]" (inspectAll items) ++ ")"
  | .tuple items => "Tuple(" ++ enclosed "[" "]" (inspectAll items) ++ ")"
  | .tagged tag none => "Tagged \x7B tag: " ++ Text.quote tag ++ ", data: None \x7D"
  | .tagged tag (some payload) =>
      "Tagged \x7B tag: " ++ Text.quote tag ++ ", data: Some(" ++ inspect payload ++ ") \x7D"

def inspectAll : List Value → List String
  | [] => []
  | item :: rest => inspect item :: inspectAll rest

end

end Value

end TextSchema
