import TextSchema.Decimal.Binary64

/-!
# Values

What a matched text decodes to. Field types of different kinds are combined in
lists and variants, so a value says itself what it is.
-/

set_option autoImplicit false

namespace TextSchema

open Decimal

/-- A decoded value. -/
inductive Value where
  /-- An absent value: an optional item that is not there, or a mild failure. -/
  | null
  | bool (value : Bool)
  | int (value : Int)
  | float (value : Binary64)
  | string (value : String)
  | array (items : List Value)
  /-- A fixed number of values, such as an index and a text. -/
  | tuple (items : List Value)
  /-- A member of an enumeration with the value it carries, if any. -/
  | tagged (tag : String) (payload : Option Value)

namespace Value

def isNull : Value → Bool
  | .null => true
  | _ => false

def bool? : Value → Option Bool
  | .bool value => some value
  | _ => none

def int? : Value → Option Int
  | .int value => some value
  | _ => none

def string? : Value → Option String
  | .string value => some value
  | _ => none

/-- The items, if the value is a list. A tuple is none. -/
def array? : Value → Option (List Value)
  | .array items => some items
  | _ => none

def ofOption {α : Type} (value : α → Value) : Option α → Value
  | none => .null
  | some inner => value inner

def ofList {α : Type} (value : α → Value) (items : List α) : Value :=
  .array (items.map value)

mutual

/-- Equality of values. Numbers compare as numbers, so a value with a NaN in it
differs from itself. -/
def same : Value → Value → Bool
  | .null, .null => true
  | .bool left, .bool right => left == right
  | .int left, .int right => left == right
  | .float left, .float right => left.sameNumber right
  | .string left, .string right => left == right
  | .array left, .array right => sameList left right
  | .tuple left, .tuple right => sameList left right
  | .tagged tag none, .tagged otherTag none => tag == otherTag
  | .tagged tag (some payload), .tagged otherTag (some otherPayload) =>
      tag == otherTag && same payload otherPayload
  | _, _ => false

def sameList : List Value → List Value → Bool
  | [], [] => true
  | left :: lefts, right :: rights => same left right && sameList lefts rights
  | _, _ => false

end

end Value

end TextSchema
