import TextSchema.FieldType
import TextSchema.Text.Blank
import TextSchema.Text.Pieces

/-!
# Types for other cardinalities

From a type for one item, the types for an optional item and for lists. The text
of a list is cut at its separator, taken literally, and blanks around the items
do not count.
-/

set_option autoImplicit false

namespace TextSchema

def trimmed (text : String) : String :=
  String.ofList (Text.trimBlanks text.toList)

def itemTexts (separator text : String) : List String :=
  (Text.pieces separator.toList text.toList).map fun piece => trimmed (String.ofList piece)

def decodeEach (decode : String → Decoding Value) : List String → Decoding (List Value)
  | [] => pure []
  | text :: rest => do
      let value ← decode text
      let values ← decodeEach decode rest
      return value :: values

namespace FieldType

/-- Decode an item that may be missing. Blank text is a missing item. -/
def decodeOptional (item : FieldType) (text : String) : Decoding Value :=
  if (trimmed text).isEmpty then pure .null else item.decode (trimmed text)

/-- Decode a list of items. Where the list may be empty, blank text is the empty
list. -/
def decodeList (item : FieldType) (separator : String) (allowEmpty : Bool) (text : String) :
    Decoding Value :=
  if allowEmpty && (trimmed text).isEmpty then pure (.array [])
  else do return .array (← decodeEach item.decode (itemTexts separator (trimmed text)))

def decodeRepeated (item : FieldType) (separator : String) :
    Cardinality → String → Decoding Value
  | .one => item.decode
  | .zeroOrOne => item.decodeOptional
  | .zeroOrMore => item.decodeList separator true
  | .oneOrMore => item.decodeList separator false

end FieldType

namespace Settings

def repeatedType (settings : Settings) (cardinality : Cardinality) (base : FieldType) :
    FieldType where
  name := none
  pattern := some (cardinality.patternFor (base.patternOr settings.defaultPattern)
    settings.separator)
  kind := .repeated cardinality settings.separator
    (if cardinality.isList then settings.maxSize else none)
  decoder := ⟨settings.origin, base.decodeRepeated settings.separator cardinality⟩

/-- The type for so many items of a base type. One item is the base type itself,
so asking for one again changes nothing. -/
def derive (settings : Settings) (cardinality : Cardinality) (base : FieldType) :
    Logged FieldType :=
  match cardinality with
  | .one => pure base
  | _ => do
      let derived := settings.repeatedType cardinality base
      Logged.note (.derived cardinality base.name (derived.pattern.getD ""))
      return derived

theorem value_derive {settings : Settings} {cardinality : Cardinality} {base : FieldType}
    (several : cardinality ≠ .one) :
    (settings.derive cardinality base).value = settings.repeatedType cardinality base := by
  cases cardinality with
  | one => exact absurd rfl several
  | _ => rfl

end Settings

end TextSchema
