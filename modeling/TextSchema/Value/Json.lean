import TextSchema.Decimal.Shortest
import TextSchema.Value

/-!
# Values as JSON

The compact JSON text of a value. Tuples are written as lists, members of an
enumeration as objects with the keys `$tag` and, if there is a payload, `$data`.
-/

set_option autoImplicit false

namespace TextSchema.Value

open Decimal

/-- Numbers in JSON: no exponent from 0.00001 up to sixteen places before the
point, the even one of two equally near decimals, and null for what JSON cannot
write. -/
def jsonFloat : FloatFormat where
  tieUp := false
  leastPlace := -4
  greatestPlace := 16
  nan := "null"
  infinity := "null"

def jsonNumber (number : Binary64) : List Char :=
  if number.isNaN || number.isInfinite then "null".toList
  else (jsonFloat.render number).toList

def hexDigit (value : Nat) : Char :=
  (Nat.digitChar (value % 16))

/-- One character of a JSON string. Only quotes, backslashes and controls are
escaped. -/
def jsonChar (char : Char) : List Char :=
  match char with
  | '"' => ['\\', '"']
  | '\\' => ['\\', '\\']
  | '\x08' => ['\\', 'b']
  | '\x0C' => ['\\', 'f']
  | '\n' => ['\\', 'n']
  | '\r' => ['\\', 'r']
  | '\t' => ['\\', 't']
  | _ =>
      if char.toNat < 0x20 then
        ['\\', 'u', '0', '0', hexDigit (char.toNat / 16), hexDigit char.toNat]
      else
        [char]

def jsonString (text : String) : List Char :=
  '"' :: text.toList.flatMap jsonChar ++ ['"']

mutual

def jsonChars : Value → List Char
  | .null => "null".toList
  | .bool true => "true".toList
  | .bool false => "false".toList
  | .int value => (toString value).toList
  | .float value => jsonNumber value
  | .string value => jsonString value
  | .array items => '[' :: jsonItems items ++ [']']
  | .tuple items => '[' :: jsonItems items ++ [']']
  | .tagged tag none => '\x7B' :: jsonString "$tag" ++ ':' :: jsonString tag ++ ['\x7D']
  | .tagged tag (some payload) =>
      '\x7B' :: jsonString "$tag" ++ ':' :: jsonString tag ++
        ',' :: jsonString "$data" ++ ':' :: jsonChars payload ++ ['\x7D']

def jsonItems : List Value → List Char
  | [] => []
  | [item] => jsonChars item
  | item :: second :: rest => jsonChars item ++ ',' :: jsonItems (second :: rest)

end

def json (value : Value) : String :=
  String.ofList value.jsonChars

end TextSchema.Value
