import TextSchema.Field

/-!
# Segments of a schema

A schema is literal text with fields in it. A doubled brace is a literal brace,
and a brace that begins no field is literal too. There are two readings: `segments`
cuts the whole schema into literals and fields, and `fields` lists the fields and
stops at an opening brace after which no closing one comes.
-/

set_option autoImplicit false

namespace TextSchema.Schema

/-- A stretch of literal text in a schema, or a field. -/
inductive Segment where
  | literal (text : String)
  | field (field : Field)
deriving DecidableEq, Repr

def startsDoubled : List Char → Bool
  | first :: second :: _ => Field.isBrace first && first == second
  | _ => false

def braced? : List Char → Option (List Char)
  | '\x7B' :: rest =>
      if rest.contains '\x7D' then
        some ('\x7B' :: rest.takeWhile (· != '\x7D') ++ ['\x7D'])
      else
        none
  | _ => none

def fieldAt? (text : List Char) : Option (Field × Nat) := do
  let candidate ← braced? text
  match Field.read (String.ofList candidate) with
  | .ok field => some (field, candidate.length)
  | .error _ => none

def pushLiteral (char : Char) : List Segment → List Segment
  | .literal text :: rest => .literal (String.singleton char ++ text) :: rest
  | segments => .literal (String.singleton char) :: segments

def segmentsFrom : Nat → List Char → List Segment
  | _, [] => []
  | skip + 1, _ :: rest => segmentsFrom skip rest
  | 0, char :: rest =>
      if startsDoubled (char :: rest) then pushLiteral char (segmentsFrom 1 rest)
      else
        match fieldAt? (char :: rest) with
        | some (field, length) => .field field :: segmentsFrom (length - 1) rest
        | none => pushLiteral char (segmentsFrom 0 rest)

def segments (schema : String) : List Segment :=
  segmentsFrom 0 schema.toList

def fieldsFrom : Nat → List Char → List Field
  | _, [] => []
  | skip + 1, _ :: rest => fieldsFrom skip rest
  | 0, char :: rest =>
      if startsDoubled (char :: rest) then fieldsFrom 1 rest
      else if char ≠ '\x7B' then fieldsFrom 0 rest
      else
        match braced? (char :: rest) with
        | none => []
        | some candidate =>
            match Field.read (String.ofList candidate) with
            | .ok field => field :: fieldsFrom (candidate.length - 1) rest
            | .error _ => fieldsFrom 0 rest

def fields (schema : String) : List Field :=
  fieldsFrom 0 schema.toList

/-- The type names of listed fields in order. Fields without format have none,
and the first malformed format is an error. -/
def typeNamesOf : List Field → Except BuildError (List String)
  | [] => .ok []
  | field :: rest => do
      let format ← field.format?
      let names ← typeNamesOf rest
      return match format with
        | some format => format.typeName :: names
        | none => names

def typeNames (schema : String) : Except BuildError (List String) :=
  typeNamesOf (fields schema)

end TextSchema.Schema
