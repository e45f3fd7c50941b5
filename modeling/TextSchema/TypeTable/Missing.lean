import TextSchema.Field.TypeName
import TextSchema.FieldType.Repeated
import TextSchema.Schema.Segment
import TextSchema.TypeTable

/-!
# Types on demand

Types for names with a cardinality suffix, derived from the types under their
base names. They need not be in a table before a schema names them.
-/

set_option autoImplicit false

namespace TextSchema

/-- Where the base type of a suffixed name comes from. -/
inductive TypeSource where
  | type (type : FieldType)
  | table (table : TypeTable)

def TypeSource.base (source : TypeSource) (name : String) : Except BuildError FieldType :=
  match source with
  | .type base => .ok base
  | .table entries =>
      match entries.get? name with
      | some base => .ok base
      | none => .error (.missingType name)

namespace Settings

def createType (settings : Settings) (name : String) (source : TypeSource) :
    Building FieldType := do
  let (base, cardinality) := TypeName.split name
  if cardinality = .one then throw (.missingSuffix name)
  let baseType ← Attempt.ofExcept (source.base base)
  let derived ← ExceptT.lift
    ({ settings with origin := settings.origin.child name }.derive cardinality baseType)
  return derived.renamed name

/-- The types for suffixed names in a table of their own, after those created so
far. A name that came before is not created again. -/
def createTypesFrom (settings : Settings) (table : TypeTable) :
    TypeTable → List String → Building TypeTable
  | created, [] => pure created
  | created, name :: rest => do
      if created.contains name then settings.createTypesFrom table created rest
      else
        let type ← settings.createType name (.table table)
        settings.createTypesFrom table (created.put name type) rest

def createTypes (settings : Settings) (names : List String) (table : TypeTable) :
    Building TypeTable :=
  settings.createTypesFrom table .empty names

def createLacking (settings : Settings) (names : List String) (table : TypeTable) :
    Building TypeTable := do
  let created ← settings.createTypes (names.filter fun name => !table.contains name) table
  if created.entries ≠ [] then Attempt.note (.created created.names)
  return created

def createForSchema (settings : Settings) (schema : String) (table : TypeTable) :
    Building TypeTable := do
  let names ← Attempt.ofExcept (Schema.typeNames schema)
  settings.createLacking (names.filter TypeName.hasSuffix) table

end Settings

end TextSchema
