import TextSchema.Error
import TextSchema.Pattern.Lowering
import TextSchema.Pattern.Search

/-!
# Matching whole texts

A fragment of a pattern compiled between anchors for the start and the end of a
text, and the two questions about a fragment that come up when it is put into a
larger pattern: how many groups it has, and how a literal text is written.
-/

set_option autoImplicit false

namespace TextSchema.Pattern

def wholeText (fragment : String) : String :=
  "^(?:" ++ fragment ++ ")$"

/-- The number of groups that a fragment brings along. A group that no match can
enter, because its repetition allows no pass, does not count. -/
def groupCount (fragment : String) : Except DecodeError Nat :=
  match Expr.read false fragment.toList with
  | .ok expr => .ok expr.groups.length
  | .error _ => .error (.invalidPattern fragment .fragment)

def escape (text : String) : String :=
  String.ofList (text.toList.flatMap fun char =>
    if Escape.metaChars.contains char then ['\\', char] else [char])

/-- A compiled fragment. -/
structure Acceptor where
  fragment : String
  expr : Expr

namespace Acceptor

def compile (fragment : String) (caseless : Bool) : Except DecodeError Acceptor :=
  match Expr.read caseless (wholeText fragment).toList with
  | .ok expr => .ok ⟨fragment, expr⟩
  | .error _ => .error (.invalidPattern fragment .whole)

def find? (acceptor : Acceptor) (text : String) : Option Match :=
  acceptor.expr.search text.toList

def accepts (acceptor : Acceptor) (text : String) : Bool :=
  (acceptor.find? text).isSome

def groups? (acceptor : Acceptor) (text : String) : Option (List (Option (Nat × Nat))) :=
  (acceptor.find? text).map fun found =>
    (List.range (acceptor.expr.lastGroup + 1)).map found.group?

end Acceptor

def byteOffset (text : List Char) (index : Nat) : Nat :=
  (text.take index).foldl (fun bytes char => bytes + char.utf8Size) 0

def slice (text : String) (start stop : Nat) : String :=
  String.ofList ((text.toList.take stop).drop start)

end TextSchema.Pattern
