import TextSchema.FieldType
import TextSchema.Value.Inspect

/-!
# Field types for inspection

The text that shows a field type with its name, its pattern and how it came
about. The decoder does not show.
-/

set_option autoImplicit false

namespace TextSchema

def Cardinality.label : Cardinality → String
  | .one => "One"
  | .zeroOrOne => "ZeroOrOne"
  | .zeroOrMore => "ZeroOrMore"
  | .oneOrMore => "OneOrMore"

def inspectTable (table : OrderedTable Value) : String :=
  enclosed "\x7B" "\x7D"
    (table.entries.map fun entry => Text.quote entry.1 ++ ": " ++ entry.2.inspect)

namespace FieldType

mutual

def inspect : FieldType → String
  | ⟨name, pattern, kind, _⟩ =>
      "Converter \x7B name: " ++ inspectOption Text.quote name ++ ", pattern: " ++
        inspectOption Text.quote pattern ++ ", kind: " ++ inspectKind kind ++ ", .. \x7D"

def inspectKind : FieldKind FieldType → String
  | .plain => "Plain"
  | .repeated cardinality separator maxSize =>
      "Cardinality \x7B cardinality: " ++ cardinality.label ++ ", separator: " ++
        Text.quote separator ++ ", max_size: " ++ inspectOption toString maxSize ++ " \x7D"
  | .enumeration table => "Enum \x7B mappings: " ++ inspectTable table ++ " \x7D"
  | .choice choices indexed =>
      "Choice \x7B choices: " ++ enclosed "[" "]" (choices.map Text.quote) ++ ", indexed: " ++
        toString indexed ++ " \x7D"
  | .variant members =>
      "Variant \x7B members: " ++ enclosed "[" "]" (inspectAll members) ++ " \x7D"

def inspectAll : List FieldType → List String
  | [] => []
  | type :: rest => inspect type :: inspectAll rest

end

end FieldType

end TextSchema
