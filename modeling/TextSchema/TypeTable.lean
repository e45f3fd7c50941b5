import TextSchema.FieldType

/-!
# Tables of types

The field types that a schema can name, in the order in which their names came.
A type may stand under a name that is not its own.
-/

set_option autoImplicit false

namespace TextSchema

abbrev TypeTable := OrderedTable FieldType

namespace TypeTable

/-- A type under a name. Replacing an entry is noted. -/
def insert (table : TypeTable) (name : String) (type : FieldType) : Logged TypeTable := do
  if table.contains name then Logged.note (.replaced name)
  return table.put name type

/-- A type under a name, with the type that it replaces. -/
def exchange (table : TypeTable) (name : String) (type : FieldType) :
    Logged (Option FieldType × TypeTable) := do
  let (previous, table) := OrderedTable.exchange table name type
  if previous.isSome then Logged.note (.replaced name)
  return (previous, table)

/-- Inserting is exchanging, with the same note, and forgetting what was replaced. -/
theorem insert_eq (table : TypeTable) (name : String) (type : FieldType) :
    table.insert name type = Prod.snd <$> table.exchange name type := by
  simp only [insert, exchange, OrderedTable.exchange_eq, OrderedTable.isSome_get?]
  split <;> rfl

def register (table : TypeTable) (type : FieldType) : Building TypeTable :=
  match type.name with
  | some name => ExceptT.lift (table.insert name type)
  | none => throw .unnamedType

def extend (table other : TypeTable) : Logged TypeTable :=
  other.entries.foldlM (fun table entry => table.insert entry.1 entry.2) table

/-- The table of types under their own names. A later type replaces an earlier
one with its name. -/
def ofTypes (types : List FieldType) : Building TypeTable :=
  types.foldlM register OrderedTable.empty

end TypeTable

end TextSchema
