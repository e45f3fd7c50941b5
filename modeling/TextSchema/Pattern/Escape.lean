import TextSchema.Pattern.Syntax

/-!
# Escapes

What a backslash introduces, read one character at a time. The same reader
serves patterns and bracketed classes; which results are allowed where is for
the caller to say.
-/

set_option autoImplicit false

namespace TextSchema.Pattern

open TextSchema.Text

/-- Why a text is no pattern. -/
inductive Flaw where
  | nothingToRepeat
  | badRepetition
  | unclosedGroup
  | unopenedGroup
  | lookAround
  | badGroupName
  | repeatedGroupName
  | badFlags
  | badEscape
  /-- No property, or none of its values, has the name. -/
  | unknownProperty
  /-- A property is asked for where Unicode is off. -/
  | propertyOfBytes
  | badBracket
  | unfinished
  /-- More constructs inside each other than `nestingLimit`. -/
  | tooNested
  /-- A class or dot that could match part of a character's encoding. -/
  | partOfCharacter
deriving DecidableEq, Repr

inductive Escaped where
  | literal (char : Literal)
  | shorthand (kind : Shorthand) (negated : Bool)
  | anchor (kind : Anchor)
deriving DecidableEq, Repr

/-- An escape that has been read in part. -/
inductive Escape where
  | start
  /-- A code is to follow, in `digits` digits or in braces. -/
  | code (digits : Nat)
  | fixed (remaining value : Nat) (raw : Bool)
  | braced (value : Option Nat)
  /-- After the letter that asks for a property. -/
  | property (negated : Bool)
  /-- In the braces of a property, with the characters of its name, last one first. -/
  | propertyName (negated : Bool) (reversed : List Char)
deriving DecidableEq, Repr

namespace Escape

def skipsBlanks : Escape → Bool
  | .start => false
  | _ => true

def hexDigit? (char : Char) : Option Nat :=
  if '0' ≤ char ∧ char ≤ '9' then some (char.toNat - '0'.toNat)
  else if 'a' ≤ char ∧ char ≤ 'f' then some (char.toNat - 'a'.toNat + 10)
  else if 'A' ≤ char ∧ char ≤ 'F' then some (char.toNat - 'A'.toNat + 10)
  else none

def ofCode? (code : Nat) (raw : Bool) : Except Flaw Escaped :=
  if code.isValidChar then .ok (.literal ⟨Char.ofNat code, raw⟩) else .error .badEscape

def metaChars : List Char :=
  ['\\', '.', '+', '*', '?', '(', ')', '|', '[', ']', '\x7B', '\x7D', '^', '$', '#', '&', '-', '~']

/-- Whether a backslash before a character makes it stand for itself: those with
a meaning, and all other ASCII signs but the angle brackets. -/
def escapesSign (char : Char) : Bool :=
  metaChars.contains char ||
    (char.toNat < 0x80 && !char.isAlphanum && char != '<' && char != '>')

def step (escape : Escape) (char : Char) : Except Flaw (Escape ⊕ Escaped) :=
  let literal (char : Char) : Except Flaw (Escape ⊕ Escaped) :=
    .ok (.inr (.literal (.plain char)))
  let anchor (kind : Anchor) : Except Flaw (Escape ⊕ Escaped) :=
    .ok (.inr (.anchor kind))
  let shorthand (kind : CharProperty) (negated : Bool) : Except Flaw (Escape ⊕ Escaped) :=
    .ok (.inr (.shorthand (.letter kind) negated))
  let property (query : PropertyQuery) (negated : Bool) : Except Flaw (Escape ⊕ Escaped) :=
    .ok (.inr (.shorthand (.named query) negated))
  match escape with
  | .start =>
      match char with
      | 'x' => .ok (.inl (.code 2))
      | 'u' => .ok (.inl (.code 4))
      | 'U' => .ok (.inl (.code 8))
      | 'd' => shorthand .digit false
      | 'D' => shorthand .digit true
      | 's' => shorthand .blank false
      | 'S' => shorthand .blank true
      | 'w' => shorthand .word false
      | 'W' => shorthand .word true
      | 'p' => .ok (.inl (.property false))
      | 'P' => .ok (.inl (.property true))
      | 'a' => literal '\x07'
      | 'f' => literal '\x0C'
      | 't' => literal '\t'
      | 'n' => literal '\n'
      | 'r' => literal '\r'
      | 'v' => literal '\x0B'
      | 'A' => anchor .textStart
      | 'z' => anchor .textEnd
      | 'b' => anchor .wordBoundary
      | 'B' => anchor .notWordBoundary
      | '<' => anchor .wordStart
      | '>' => anchor .wordEnd
      | _ => if escapesSign char then literal char else .error .badEscape
  | .code digits =>
      if char = '\x7B' then .ok (.inl (.braced none))
      else
        match hexDigit? char with
        | some value => .ok (.inl (.fixed (digits - 1) value (digits == 2)))
        | none => .error .badEscape
  | .fixed remaining value raw =>
      match hexDigit? char with
      | some digit =>
          if remaining ≤ 1 then (ofCode? (16 * value + digit) raw).map .inr
          else .ok (.inl (.fixed (remaining - 1) (16 * value + digit) raw))
      | none => .error .badEscape
  | .braced value =>
      if char = '\x7D' then
        match value with
        | some total => (ofCode? total false).map .inr
        | none => .error .badEscape
      else
        match hexDigit? char with
        | some digit => .ok (.inl (.braced (some (16 * value.getD 0 + digit))))
        | none => .error .badEscape
  | .property negated =>
      match char with
      | '\x7B' => .ok (.inl (.propertyName negated []))
      | '\\' => .error .badEscape
      | _ => property (.alone [char]) negated
  | .propertyName negated reversed =>
      if char = '\x7D' then property (.ofBraces reversed.reverse) negated
      else .ok (.inl (.propertyName negated (char :: reversed)))

end Escape

end TextSchema.Pattern
