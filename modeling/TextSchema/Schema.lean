import TextSchema.Pattern.Acceptor
import TextSchema.TypeTable.Missing

/-!
# Schemas

A schema compiled into one acceptor for whole texts, with a group for each field.
Reading a text decodes what the groups matched. Fields without a name are keyed
by their place among the fields, fields without a type take any text.
-/

set_option autoImplicit false

namespace TextSchema

open Pattern

/-- A field of a compiled schema. -/
structure BoundField where
  key : String
  group : Nat
  type : Option FieldType

def BoundField.decode (field : BoundField) (text : String) : Decoding Value :=
  match field.type with
  | some type => type.decode text
  | none => pure (.string text)

/-- A compiled schema. Case does not count. -/
structure Schema where
  acceptor : Acceptor
  boundFields : List BoundField

namespace Schema

/-- The pattern and the fields of the segments read so far. -/
structure Draft where
  pattern : String
  boundFields : List BoundField
  nextGroup : Nat

def Draft.empty : Draft := ⟨"", [], 1⟩

def fieldType (types : TypeTable) (field : Field) : Except BuildError (Option FieldType) := do
  match ← field.format? with
  | none => return none
  | some format =>
      match types.get? format.typeName with
      | some type => return some type
      | none => throw (.missingType format.typeName)

def groupPattern : Option FieldType → String
  | some type => type.patternOr Settings.anyText
  | none => Settings.anyText

def Draft.add (types : TypeTable) (draft : Draft) : Segment → Except BuildError Draft
  | .literal text => .ok { draft with pattern := draft.pattern ++ escape text }
  | .field field => do
      let type ← fieldType types field
      let pattern := groupPattern type
      let key := if field.name.isEmpty then toString draft.boundFields.length else field.name
      let inner ← (groupCount pattern).mapError .decode
      return {
        pattern := draft.pattern ++ ("(" ++ pattern ++ ")")
        boundFields := draft.boundFields ++ [⟨key, draft.nextGroup, type⟩]
        nextGroup := draft.nextGroup + 1 + inner }

/-- Compile a schema. Suffixed types that the table lacks are derived first. -/
def compile (settings : Settings) (schema : String) (table : TypeTable) : Building Schema := do
  let created ← settings.createForSchema schema table
  let types ← ExceptT.lift (TypeTable.extend table created)
  let draft ← Attempt.ofExcept ((segments schema).foldlM (Draft.add types) .empty)
  let acceptor ← Building.ofDecode (Acceptor.compile draft.pattern true)
  return ⟨acceptor, draft.boundFields⟩

def captured (text : String) (found : Match) (group : Nat) : String :=
  match found.group? group with
  | some (start, stop) => slice text start stop
  | none => ""

def decodeFields (text : String) (found : Match) :
    OrderedTable Value → List BoundField → Decoding (OrderedTable Value)
  | values, [] => pure values
  | values, field :: rest => do
      let value ← field.decode (captured text found field.group)
      decodeFields text found (values.put field.key value) rest

def read (schema : Schema) (text : String) : Decoding (Option (OrderedTable Value)) :=
  match schema.acceptor.find? text with
  | none => pure none
  | some found => do return some (← decodeFields text found .empty schema.boundFields)

end Schema

end TextSchema
