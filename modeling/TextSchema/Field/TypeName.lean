import TextSchema.Cardinality

/-!
# Type names with a cardinality suffix

A type name may end in `?`, `*` or `+` to ask for that many items of the type
named by the rest. Only the last character counts, so a base name may itself end
in a suffix.
-/

set_option autoImplicit false

namespace TextSchema

namespace Cardinality

def suffixes : String := "?*+"

def ofSuffix? : Char → Option Cardinality
  | '?' => some .zeroOrOne
  | '*' => some .zeroOrMore
  | '+' => some .oneOrMore
  | _ => none

/-- The suffix of a cardinality. A single item has none. -/
def suffix? : Cardinality → Option Char
  | .one => none
  | .zeroOrOne => some '?'
  | .zeroOrMore => some '*'
  | .oneOrMore => some '+'

end Cardinality

namespace TypeName

def split (name : String) : String × Cardinality :=
  match name.toList.getLast?.bind Cardinality.ofSuffix? with
  | some cardinality => (String.ofList name.toList.dropLast, cardinality)
  | none => (name, .one)

def make (base : String) (cardinality : Cardinality) : String :=
  match cardinality.suffix? with
  | some suffix => base.push suffix
  | none => base

def hasSuffix (name : String) : Bool :=
  (name.toList.getLast?.bind Cardinality.ofSuffix?).isSome

def base (name : String) : String :=
  (split name).1

end TypeName

end TextSchema
