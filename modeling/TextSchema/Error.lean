/-!
# Errors

What can go wrong while a text is decoded and while types and schemas are built.
An error holds its cause; its wording is in `message`.
-/

set_option autoImplicit false

namespace TextSchema

/-- In which reading a pattern turned out not to be one. -/
inductive PatternFault where
  | fragment
  | whole
deriving DecidableEq, Repr

def PatternFault.message : PatternFault → String
  | .fragment => "regex parse error:"
  | .whole => "error parsing pattern 0"

inductive DecodeError where
  | notAChoice (text : String) (choices : List String)
  | unknownKey (text : String) (keys : List String)
  /-- The text fits a member only if case is ignored, and the variant is strict. -/
  | caseMismatch (text members : String)
  /-- The text fits no member at all, so the caller matched it otherwise. -/
  | noVariantMatch (text members : String)
  | invalid (text reason : String)
  | invalidPattern (pattern : String) (fault : PatternFault)
deriving DecidableEq, Repr

namespace DecodeError

def message : DecodeError → String
  | .notAChoice text choices => text ++ " not in: " ++ ", ".intercalate choices
  | .unknownKey text keys =>
      "unknown enum key '" ++ text ++ "', expected one of: " ++ ", ".intercalate keys
  | .caseMismatch text members =>
      "'" ++ text ++ "' matches a variant of " ++ members ++ " only when ignoring case"
  | .noVariantMatch text members =>
      "internal error: no variant of " ++ members ++ " matches '" ++ text ++ "'"
  | .invalid text reason => "invalid value '" ++ text ++ "': " ++ reason
  | .invalidPattern pattern fault => "invalid pattern '" ++ pattern ++ "': " ++ fault.message

def isCallerDefect : DecodeError → Bool
  | .noVariantMatch _ _ => true
  | _ => false

end DecodeError

/-- Why a type, a table of types or a schema cannot be built. -/
inductive BuildError where
  /-- A name without suffix where one is needed. -/
  | missingSuffix (name : String)
  | missingType (name : String)
  /-- A type without a name put into a table under its name. -/
  | unnamedType
  | ambiguousVariant (count : Nat)
  | emptyVariant
  | invalidField (text : String)
  | emptyFormat
  | formatWithoutType (format : String)
  | decode (error : DecodeError)
deriving DecidableEq, Repr

def BuildError.message : BuildError → String
  | .missingSuffix name => "type name '" ++ name ++ "' has no cardinality suffix"
  | .missingType name => "missing base type '" ++ name ++ "'"
  | .unnamedType => "converter has no name"
  | .ambiguousVariant count =>
      "variant has " ++ toString count ++ " members without a pattern (at most one allowed)"
  | .emptyVariant => "variant has no members"
  | .invalidField text => "invalid field: '" ++ text ++ "'"
  | .emptyFormat => "INVALID-FORMAT: (empty format)"
  | .formatWithoutType format => "INVALID-FORMAT: " ++ format ++ " (without type)"
  | .decode error => error.message

end TextSchema
