/-!
# Cardinality

How many items of a base type a field takes, and the pattern that takes them.
A pattern is composed as text: the pattern of an item and the separator are put
into a template as they are, so a separator with signs that have a meaning in
patterns must be escaped by the caller.
-/

set_option autoImplicit false

namespace TextSchema

/-- How many items a field takes. -/
inductive Cardinality where
  | one
  | zeroOrOne
  | zeroOrMore
  | oneOrMore
deriving DecidableEq, Repr

/-- A part of the template of a cardinality. -/
inductive TemplatePart where
  | text (text : String)
  | item
  | separator
deriving DecidableEq, Repr

namespace Cardinality

def all : List Cardinality := [.one, .zeroOrOne, .zeroOrMore, .oneOrMore]

def name : Cardinality → String
  | .one => "one"
  | .zeroOrOne => "zero_or_one"
  | .zeroOrMore => "zero_or_more"
  | .oneOrMore => "one_or_more"

def ofName? (name : String) : Option Cardinality :=
  match name with
  | "one" => some .one
  | "zero_or_one" | "optional" => some .zeroOrOne
  | "zero_or_more" | "many0" => some .zeroOrMore
  | "one_or_more" | "many" => some .oneOrMore
  | _ => none

/-- The separator between items unless another one is asked for. -/
def defaultSeparator : String := ","

def moreItems : List TemplatePart :=
  [.text "(\\s*", .separator, .text "\\s*(", .item, .text "))*"]

def template? : Cardinality → Option (List TemplatePart)
  | .one => none
  | .zeroOrOne => some [.text "(", .item, .text ")?"]
  | .zeroOrMore => some (.text "(" :: .item :: .text ")?" :: moreItems)
  | .oneOrMore => some (.text "(" :: .item :: .text ")" :: moreItems)

end Cardinality

def fillTemplate (item separator : String) : List TemplatePart → String
  | [] => ""
  | .text text :: rest => text ++ fillTemplate item separator rest
  | .item :: rest => item ++ fillTemplate item separator rest
  | .separator :: rest => separator ++ fillTemplate item separator rest

namespace Cardinality

def templateText? (cardinality : Cardinality) : Option String :=
  cardinality.template?.map (fillTemplate "\x7Bitem\x7D" "\x7Bsep\x7D")

def patternFor (cardinality : Cardinality) (pattern separator : String) : String :=
  match cardinality.template? with
  | none => pattern
  | some template => fillTemplate pattern separator template

def isList : Cardinality → Bool
  | .zeroOrMore | .oneOrMore => true
  | .one | .zeroOrOne => false

def admitsNone : Cardinality → Bool
  | .zeroOrOne | .zeroOrMore => true
  | .one | .oneOrMore => false

end Cardinality

end TextSchema
