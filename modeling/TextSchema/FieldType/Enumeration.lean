import TextSchema.Decimal.Integer
import TextSchema.FieldType
import TextSchema.Text.LetterCase
import TextSchema.TypeTable

/-!
# Enumerations and basic types

Types that look a text up in a table of names. A name that is not found is looked
up again in small letters, so that texts matched without regard to case are found
under small names.
-/

set_option autoImplicit false

namespace TextSchema

def lowered (text : String) : String :=
  String.ofList (Text.toLower text.toList)

def raised (text : String) : String :=
  String.ofList (Text.toUpper text.toList)

def lookUp (table : OrderedTable Value) (text : String) : Decoding Value :=
  match (table.get? text).or (table.get? (lowered text)) with
  | some value => pure value
  | none => throw (.unknownKey text table.names)

def decodeInteger (read : List Char → Except Decimal.IntegerError Int) (text : String) :
    Decoding Value :=
  match read text.toList with
  | .ok value => pure (.int value)
  | .error reason => throw (.invalid text reason.message)

namespace FieldType

/-- The type of the names in a table. A later entry for a name replaces the value
of an earlier one. -/
def enumeration (origin : Origin) (entries : List (String × Value)) : FieldType :=
  let table := OrderedTable.ofList entries
  { name := none
    pattern := some ("|".intercalate table.names)
    kind := .enumeration table
    decoder := ⟨origin, lookUp table⟩ }

def enumerationOfMembers (origin : Origin) (members : List (String × Value)) : FieldType :=
  enumeration origin (members.map fun member => (member.1, .tagged member.1 (some member.2)))

def number (origin : Origin) : FieldType :=
  (plain (some "\\d+") ⟨origin.child "Number", decodeInteger Decimal.readInt64⟩).renamed "Number"

def yesNo (origin : Origin) : FieldType :=
  (enumeration (origin.child "YesNo")
    [("yes", .bool true), ("no", .bool false), ("on", .bool true), ("off", .bool false),
      ("true", .bool true), ("false", .bool false)]).renamed "YesNo"

end FieldType

def TypeTable.basic (origin : Origin) : TypeTable :=
  .ofList [("Number", .number origin), ("YesNo", .yesNo origin)]

end TextSchema
