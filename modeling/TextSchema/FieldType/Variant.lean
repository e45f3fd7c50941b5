import TextSchema.FieldType
import TextSchema.Pattern.Acceptor

/-!
# Variants

Types that take several alternative types at one place of a schema. The pattern
has one group for each member. Decoding finds the first member whose pattern
takes the whole text and leaves the text to it, in one of two ways: each member
has an acceptor of its own, or one acceptor for all of them tells by its groups.
-/

set_option autoImplicit false

namespace TextSchema

open Pattern

/-- What a variant may ask for on its own. -/
structure VariantSettings where
  caseless : Option Bool
  compiled : Bool
  strict : Option Bool

namespace VariantSettings

def none : VariantSettings := ⟨.none, false, .none⟩

end VariantSettings

/-- How the member for a text is found. -/
inductive MemberSearch where
  | each (acceptors : List Acceptor)
  /-- The first of the listed groups that takes part in the match. -/
  | combined (acceptor : Acceptor) (groups : List Nat)

def MemberSearch.memberFor? : MemberSearch → String → Option Nat
  | .each acceptors, text => acceptors.findIdx? (·.accepts text)
  | .combined acceptor groups, text => do
      let found ← acceptor.find? text
      groups.findIdx? fun group => (found.group? group).isSome

def compileAll (caseless : Bool) : List String → Except DecodeError (List Acceptor)
  | [] => .ok []
  | fragment :: rest => do
      let acceptor ← Acceptor.compile fragment caseless
      let acceptors ← compileAll caseless rest
      return acceptor :: acceptors

/-- The numbers of the groups around fragments that stand one after the other,
the next group having the given number. -/
def groupNumbers : Nat → List String → Except DecodeError (List Nat)
  | _, [] => .ok []
  | next, fragment :: rest => do
      let inner ← groupCount fragment
      let numbers ← groupNumbers (next + 1 + inner) rest
      return next :: numbers

def grouped (pattern : String) : String :=
  "(" ++ pattern ++ ")"

def alternativePatterns (patterns : List String) : String :=
  "|".intercalate (patterns.map grouped)

structure VariantDecoder where
  members : List FieldType
  search : MemberSearch
  /-- Acceptors without regard to case, where the search has regard to it. -/
  folded : Option (List Acceptor)
  strict : Bool
  description : String

/-- Decode a text by the member that takes it. A text that a member would take
only without regard to case is refused or null. -/
def VariantDecoder.decode (variant : VariantDecoder) (text : String) : Decoding Value :=
  match variant.search.memberFor? text with
  | some index => do
      Attempt.note (.dispatched variant.description text index)
      match variant.members[index]? with
      | some chosen => chosen.decode text
      | none => throw (.noVariantMatch text variant.description)
  | none =>
      if (variant.folded.getD []).any (·.accepts text) then
        if variant.strict then throw (.caseMismatch text variant.description)
        else pure .null
      else
        throw (.noVariantMatch text variant.description)

def describeMembers (members : List FieldType) : String :=
  "|".intercalate (members.map fun chosen => chosen.name.getD unnamedLabel)

namespace Settings

def memberSearch (caseless compiled : Bool) (patterns : List String) :
    Except DecodeError MemberSearch :=
  if compiled then do
    let groups ← groupNumbers 1 patterns
    return .combined (← Acceptor.compile (alternativePatterns patterns) caseless) groups
  else do
    return .each (← compileAll caseless patterns)

/-- The type that takes what any of its members takes, tried in order. At most
one member may be without a pattern. -/
def variant (settings : Settings) (members : List FieldType) (options : VariantSettings) :
    Building FieldType := do
  if members.isEmpty then throw .emptyVariant
  let withoutPattern := (members.filter (·.pattern.isNone)).length
  if 1 < withoutPattern then throw (.ambiguousVariant withoutPattern)
  let caseless := options.caseless.getD settings.caseless
  let patterns := members.map (·.patternOr settings.defaultPattern)
  let search ← Building.ofDecode (memberSearch caseless options.compiled patterns)
  let folded ← Building.ofDecode
    (if caseless then .ok none else (compileAll true patterns).map some)
  let pattern := alternativePatterns patterns
  let description := describeMembers members
  Attempt.note (.variantBuilt description pattern)
  let decoder : VariantDecoder :=
    ⟨members, search, folded, options.strict.getD settings.strict, description⟩
  return {
    name := none
    pattern := some pattern
    kind := .variant members
    decoder := ⟨settings.origin, decoder.decode⟩ }

end Settings

end TextSchema
