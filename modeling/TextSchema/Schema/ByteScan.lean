import TextSchema.Schema.Segment

/-!
# Fields by byte positions

The fields of a schema found by walking over the bytes of its encoding. A position may
lie inside a character, and only text between character boundaries can be cut out of
the schema. `Schema.fields` lists the same fields by characters.
-/

set_option autoImplicit false

namespace TextSchema.Schema

def bytes (text : String) : List UInt8 :=
  text.toByteArray.data.toList

/-- The text between two byte positions, if both are character boundaries. -/
def cutOut? (text : String) (start stop : Nat) : Option String :=
  if boundaries : (String.Pos.Raw.mk start).IsValid text ∧ (String.Pos.Raw.mk stop).IsValid text then
    some (String.extract (text.pos ⟨start⟩ boundaries.1) (text.pos ⟨stop⟩ boundaries.2))
  else
    none

/-- What a walk over a schema does at a byte position. -/
inductive ByteMove where
  | skip (next : Nat)
  | found (field : Field) (next : Nat)
  /-- An opening brace without a closing one behind it: the walk ends. -/
  | stop
  /-- The text to be read as a field begins or ends inside a character. -/
  | torn
deriving DecidableEq

def openingBrace : UInt8 := 0x7B

def closingBrace : UInt8 := 0x7D

def byteMove (schema : String) (position : Nat) : ByteMove :=
  let rest := (bytes schema).drop position
  if rest.take 2 = [openingBrace, openingBrace] ∨ rest.take 2 = [closingBrace, closingBrace] then
    .skip (position + 2)
  else if rest.head? ≠ some openingBrace then
    .skip (position + 1)
  else
    match rest.findIdx? (· == closingBrace) with
    | none => .stop
    | some close =>
        match cutOut? schema position (position + close + 1) with
        | none => .torn
        | some candidate =>
            match Field.read candidate with
            | .ok field => .found field (position + close + 1)
            | .error _ => .skip (position + 1)

def ByteMove.next? : ByteMove → Option Nat
  | .skip next | .found _ next => some next
  | .stop | .torn => none

/-- Every move goes to a later position. -/
theorem lt_of_next? {schema : String} {position next : Nat}
    (onward : (byteMove schema position).next? = some next) : position < next := by
  unfold byteMove at onward
  dsimp only at onward
  repeat' split at onward
  all_goals cases onward
  all_goals omega

/-- The fields from a byte position on. There are none to tell if the walk tears a
character. -/
def fieldsFromByte? (schema : String) (position : Nat) : Option (List Field) :=
  if position < schema.utf8ByteSize then
    match _move : byteMove schema position with
    | .skip next => fieldsFromByte? schema next
    | .found field next => (fieldsFromByte? schema next).map (field :: ·)
    | .stop => some []
    | .torn => none
  else
    some []
termination_by schema.utf8ByteSize - position
decreasing_by
  all_goals
    have onward : position < next := lt_of_next? (by rw [_move, ByteMove.next?])
    omega

end TextSchema.Schema
