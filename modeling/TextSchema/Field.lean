import TextSchema.Field.Format

/-!
# Fields

A field `{name:format}` of a schema. Name and format may be missing.
-/

set_option autoImplicit false

namespace TextSchema

/-- A field. Empty texts stand for absent parts. -/
structure Field where
  name : String
  format : String
deriving DecidableEq, Repr

namespace Field

def named (name : String) : Field := ⟨name, ""⟩

def typed (format : String) : Field := ⟨"", format⟩

def isTyped (field : Field) : Bool :=
  !field.format.isEmpty

def format? (field : Field) : Except BuildError (Option FieldFormat) :=
  if field.isTyped then do return some (← FieldFormat.read field.format) else .ok none

/-- The field between two braces: the name up to the first colon, the format
after it. -/
def ofInner (inner : List Char) : Field :=
  match inner.dropWhile (· != ':') with
  | [] => named (String.ofList inner)
  | _ :: format => ⟨String.ofList (inner.takeWhile (· != ':')), String.ofList format⟩

def render (field : Field) : String :=
  if field.isTyped then "\x7B" ++ field.name ++ ":" ++ field.format ++ "\x7D"
  else "\x7B" ++ field.name ++ "\x7D"

/-- What stands between the outer braces of a text, if it starts and ends with
them. -/
def inner? : List Char → Option (List Char)
  | '\x7B' :: rest =>
      if rest.getLast? = some '\x7D' then some rest.dropLast else none
  | _ => none

def isBrace (char : Char) : Bool :=
  char == '\x7B' || char == '\x7D'

def read (text : String) : Except BuildError Field :=
  match inner? text.toList with
  | some inner =>
      if inner.any isBrace then .error (.invalidField text) else .ok (ofInner inner)
  | none => .error (.invalidField text)

end Field

end TextSchema
