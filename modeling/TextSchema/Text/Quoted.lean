import TextSchema.Text.Printable

/-!
# Quoted text

A text between double quotes with everything that is not shown as itself
written as an escape, so that different texts look different.
-/

set_option autoImplicit false

namespace TextSchema.Text

def hexDigits (number : Nat) : List Char :=
  Nat.toDigits 16 number

def quoteChar (char : Char) : List Char :=
  match char with
  | '\x00' => ['\\', '0']
  | '\t' => ['\\', 't']
  | '\n' => ['\\', 'n']
  | '\r' => ['\\', 'r']
  | '"' => ['\\', '"']
  | '\\' => ['\\', '\\']
  | _ =>
      if isShown char then [char]
      else '\\' :: 'u' :: '\x7B' :: hexDigits char.toNat ++ ['\x7D']

def quote (text : String) : String :=
  String.ofList ('"' :: text.toList.flatMap quoteChar ++ ['"'])

end TextSchema.Text
