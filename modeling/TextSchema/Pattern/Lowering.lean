import TextSchema.Pattern.Expr
import TextSchema.Pattern.Property
import TextSchema.Pattern.Reader

/-!
# Applying the flags

The expression that a pattern tree stands for under given flags. A change of
flags holds from where it is written to the end of the enclosing group, across
the bars between alternatives.

Where Unicode is off, classes are sets of bytes: characters below 128 stand for
themselves, and a class that could match any other byte is refused.
-/

set_option autoImplicit false

namespace TextSchema.Pattern

/-- The flags in force at a point of a pattern. -/
structure Flags where
  caseless : Bool
  multiLine : Bool
  dotAll : Bool
  swapGreed : Bool
  unicode : Bool
  crlf : Bool
deriving DecidableEq, Repr

namespace Flags

def initial (caseless : Bool) : Flags :=
  ⟨caseless, false, false, false, true, false⟩

/-- One flag set or cleared. Skipping blanks concerns only the reader. -/
def set (flags : Flags) (flag : Flag) (value : Bool) : Flags :=
  match flag with
  | .caseless => { flags with caseless := value }
  | .multiLine => { flags with multiLine := value }
  | .dotAll => { flags with dotAll := value }
  | .swapGreed => { flags with swapGreed := value }
  | .unicode => { flags with unicode := value }
  | .crlf => { flags with crlf := value }
  | .spaced => flags

def apply (flags : Flags) (changes : FlagChanges) : Flags :=
  changes.foldl (fun flags change => flags.set change.1 change.2) flags

/-- The expression of a set. Where Unicode is off it is one of bytes. -/
def ofSet (flags : Flags) (set : CharSet) : Expr :=
  .set (if flags.unicode then set else .bytes set)

def foldSet (flags : Flags) (set : CharSet) : CharSet :=
  if flags.caseless then
    if flags.unicode then .folded set else .asciiFolded set
  else
    set

end Flags

/-- Whether a set has no character from 128 to 255, the bytes that are no
characters of their own. -/
def CharSet.avoidsHighBytes (set : CharSet) : Bool :=
  (List.range 128).all fun offset => !set.mem (Char.ofNat (128 + offset))

def Flags.checkBytes (flags : Flags) (set : CharSet) : Except Flaw CharSet :=
  if flags.unicode || set.avoidsHighBytes then .ok set else .error .partOfCharacter

def CharProperty.asciiClass : CharProperty → NamedClass
  | .digit => .digit
  | .blank => .space
  | .word => .word

/-- The set of a class escape. Case concerns properties with a name only. -/
def Flags.shorthand (flags : Flags) (kind : Shorthand) (negated : Bool) :
    Except Flaw CharSet :=
  match kind with
  | .letter property =>
      if flags.unicode then .ok (.negatedIf negated (.property property))
      else flags.checkBytes (.negatedIf negated property.asciiClass.toCharSet)
  | .named query =>
      if flags.unicode then
        match query.set? with
        | some set => .ok (.negatedIf negated (flags.foldSet set))
        | none => .error .unknownProperty
      else
        .error .propertyOfBytes

def Flags.classLiteral (flags : Flags) (literal : Literal) : Except Flaw Char :=
  if flags.unicode || literal.char.toNat < 0x80 then .ok literal.char
  else .error .partOfCharacter

/-- The set that the contents of a class stand for. Case is applied before the
negation of each bracket and to both sides of an operation. -/
def ClassTree.toCharSet (flags : Flags) : ClassTree → Except Flaw CharSet
  | .empty => .ok .empty
  | .literal char => do return .single (← flags.classLiteral char)
  | .range first last => do
      return .range (← flags.classLiteral first) (← flags.classLiteral last)
  | .shorthand kind negated => flags.shorthand kind negated
  | .named kind negated =>
      flags.checkBytes (.negatedIf negated (flags.foldSet kind.toCharSet))
  | .union left right => do return .union (← left.toCharSet flags) (← right.toCharSet flags)
  | .bracket negated body => do
      flags.checkBytes (.negatedIf negated (flags.foldSet (← body.toCharSet flags)))
  | .operation kind left right => do
      let lefts := flags.foldSet (← left.toCharSet flags)
      let rights := flags.foldSet (← right.toCharSet flags)
      match kind with
      | .intersection => return .inter lefts rights
      | .difference => return .diff lefts rights
      | .symmetricDifference => return .symmDiff lefts rights

namespace Flags

def literal (flags : Flags) (literal : Literal) : Except Flaw Expr :=
  if flags.unicode then
    if flags.caseless then
      .ok (.set (.ofList (literal.char :: Text.caseVariants literal.char)))
    else
      .ok (.set (.single literal.char))
  else if literal.char.toNat < 0x80 then
    .ok (flags.ofSet (flags.foldSet (.single literal.char)))
  else if literal.raw then
    .error .partOfCharacter
  else
    .ok (.set (.single literal.char))

def bracket (flags : Flags) (negated : Bool) (body : ClassTree) : Except Flaw Expr := do
  return flags.ofSet (← (ClassTree.bracket negated body).toCharSet flags)

def dot (flags : Flags) : Except Flaw Expr :=
  if !flags.unicode then .error .partOfCharacter
  else if flags.dotAll then .ok (.set (.compl .empty))
  else if flags.crlf then .ok (.set (.compl (.ofList ['\n', '\r'])))
  else .ok (.set (.compl (.single '\n')))

def anchor (flags : Flags) (kind : Anchor) : Look :=
  let word := if flags.unicode then CharSet.property .word else NamedClass.word.toCharSet
  match kind with
  | .lineStart => if flags.multiLine then .lineStart flags.crlf else .textStart
  | .lineEnd => if flags.multiLine then .lineEnd flags.crlf else .textEnd
  | .textStart => .textStart
  | .textEnd => .textEnd
  | .wordBoundary => .word .boundary word
  | .notWordBoundary => .word .notBoundary word
  | .wordStart => .word .start word
  | .wordEnd => .word .stop word
  | .wordStartHalf => .word .startHalf word
  | .wordEndHalf => .word .stopHalf word

end Flags

namespace Tree

def alternatives : Tree → Flags → Except Flaw (List Expr × Flags)
  | .empty, now => .ok ([.empty], now)
  | .literal char, now => do return ([← now.literal char], now)
  | .dot, now => do return ([← now.dot], now)
  | .shorthand kind negated, now => do
      return ([now.ofSet (← now.shorthand kind negated)], now)
  | .bracket negated body, now => do return ([← now.bracket negated body], now)
  | .anchor kind, now => .ok ([.look (now.anchor kind)], now)
  | .flags changes, now => .ok ([.empty], now.apply changes)
  | .group index body, now => do
      let (branches, _) ← body.alternatives now
      return ([.group index (.choice branches)], now)
  | .scoped changes body, now => do
      let (branches, _) ← body.alternatives (now.apply changes)
      return ([.choice branches], now)
  | .repeated least most greedy body, now => do
      let (branches, after) ← body.alternatives now
      return ([.repeatedOf least most (greedy != now.swapGreed) (.choice branches)], after)
  | .cat left right, now => do
      let (lefts, between) ← left.alternatives now
      let (rights, after) ← right.alternatives between
      return ([.concat (.choice lefts) (.choice rights)], after)
  | .alt left right, now => do
      let (lefts, between) ← left.alternatives now
      let (rights, after) ← right.alternatives between
      return (lefts ++ rights, after)

def toExpr (tree : Tree) (caseless : Bool) : Except Flaw Expr := do
  let (branches, _) ← tree.alternatives (.initial caseless)
  return .choice branches

end Tree

def Expr.read (caseless : Bool) (text : List Char) : Except Flaw Expr := do
  (← Tree.read text).toExpr caseless

end TextSchema.Pattern
