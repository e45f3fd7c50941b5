import TextSchema.Logged
import TextSchema.OrderedTable
import TextSchema.Value

/-!
# Field types

A field type is a pattern together with the decoding of the text that it matched.
How it came about is kept for those who ask: derived for a cardinality, made from
a table, from choices or from alternatives.
-/

set_option autoImplicit false

namespace TextSchema

/-- Where a decoder was made. Decoders made in different places have different
origins even if they decode alike. -/
structure Origin where
  path : List String
deriving DecidableEq, Repr

def Origin.child (origin : Origin) (name : String) : Origin :=
  ⟨origin.path ++ [name]⟩

structure Decoder where
  origin : Origin
  run : String → Decoding Value

inductive FieldKind (T : Type) where
  | plain
  /-- Derived from a base type. The greatest number of items is only recorded. -/
  | repeated (cardinality : Cardinality) (separator : String) (maxSize : Option Nat)
  | enumeration (table : OrderedTable Value)
  /-- With `indexed`, a choice decodes to its index and its text. -/
  | choice (choices : List String) (indexed : Bool)
  | variant (members : List T)

/-- A typed field: a pattern and the decoding of the text it matched. -/
structure FieldType where
  name : Option String
  pattern : Option String
  kind : FieldKind FieldType
  decoder : Decoder

namespace FieldType

/-- A type supplied by the caller. Without a pattern, the pattern that its user
takes by default applies. -/
def plain (pattern : Option String) (decoder : Decoder) : FieldType :=
  ⟨none, pattern, .plain, decoder⟩

def renamed (type : FieldType) (name : String) : FieldType :=
  { type with name := some name }

def patternOr (type : FieldType) (default : String) : String :=
  type.pattern.getD default

def decode (type : FieldType) (text : String) : Decoding Value :=
  type.decoder.run text

def sharesDecoder (left right : FieldType) : Bool :=
  left.decoder.origin == right.decoder.origin

def cardinality (type : FieldType) : Cardinality :=
  match type.kind with
  | .repeated cardinality _ _ => cardinality
  | _ => .one

def maxSize? (type : FieldType) : Option Nat :=
  match type.kind with
  | .repeated _ _ maxSize => maxSize
  | _ => none

def table? (type : FieldType) : Option (OrderedTable Value) :=
  match type.kind with
  | .enumeration table => some table
  | _ => none

def choices? (type : FieldType) : Option (List String) :=
  match type.kind with
  | .choice choices _ => some choices
  | _ => none

def members? (type : FieldType) : Option (List FieldType) :=
  match type.kind with
  | .variant members => some members
  | _ => none

end FieldType

structure Settings where
  separator : String
  defaultPattern : String
  strict : Bool
  caseless : Bool
  maxSize : Option Nat
  origin : Origin

namespace Settings

def anyText : String := ".+?"

/-- The settings that hold unless others are asked for. -/
def standard : Settings where
  separator := Cardinality.defaultSeparator
  defaultPattern := anyText
  strict := true
  caseless := true
  maxSize := none
  origin := ⟨[]⟩

end Settings

end TextSchema
