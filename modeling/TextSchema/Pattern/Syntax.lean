import TextSchema.Pattern.CharSet

/-!
# Syntax of patterns

What a pattern says, before the flags in force are applied to it. Character
classes and pattern trees are binary; the number of nested constructs that the
notation counts is recovered by `nesting`, where a chain of alternatives or of
adjacent items is one construct.
-/

set_option autoImplicit false

namespace TextSchema.Pattern

/-- Matching flags. Every flag can be set and cleared within a pattern. -/
inductive Flag where
  | caseless
  /-- `^` and `$` match at line ends too. -/
  | multiLine
  | dotAll
  | swapGreed
  | unicode
  | crlf
  | spaced
deriving DecidableEq, Repr

def Flag.ofLetter? : Char → Option Flag
  | 'i' => some .caseless
  | 'm' => some .multiLine
  | 's' => some .dotAll
  | 'U' => some .swapGreed
  | 'u' => some .unicode
  | 'R' => some .crlf
  | 'x' => some .spaced
  | _ => none

abbrev FlagChanges := List (Flag × Bool)

/-- A character of a pattern. It is `raw` if written as `\x` and two digits,
which names a byte where Unicode is off. -/
structure Literal where
  char : Char
  raw : Bool
deriving DecidableEq, Repr

def Literal.plain (char : Char) : Literal := ⟨char, false⟩

/-- What `\p` asks for: a name alone, or a value of a property. -/
inductive PropertyQuery where
  | alone (name : List Char)
  | valued (property value : List Char)
deriving DecidableEq, Repr

namespace PropertyQuery

/-- A text before and after the first occurrence of a mark. -/
def splitAt? (mark : List Char) : List Char → Option (List Char × List Char)
  | [] => none
  | char :: rest =>
      if mark.isPrefixOf (char :: rest) then some ([], (char :: rest).drop mark.length)
      else (splitAt? mark rest).map fun parts => (char :: parts.1, parts.2)

/-- What is asked for in braces. All marks between a property and its value mean the
same, also the one that reads as a negation. -/
def ofBraces (text : List Char) : PropertyQuery :=
  match [['!', '='], [':'], ['=']].findSome? (splitAt? · text) with
  | some parts => .valued parts.1 parts.2
  | none => .alone text

end PropertyQuery

/-- A class that is written as an escape, by a letter of its own or by name. -/
inductive Shorthand where
  | letter (kind : CharProperty)
  | named (query : PropertyQuery)
deriving DecidableEq, Repr

/-- The classes of ASCII characters with a name. -/
inductive NamedClass where
  | alnum
  | alpha
  | ascii
  | blank
  | cntrl
  | digit
  | graph
  | lower
  | print
  | punct
  | space
  | upper
  | word
  | xdigit
deriving DecidableEq, Repr

namespace NamedClass

def all : List NamedClass :=
  [.alnum, .alpha, .ascii, .blank, .cntrl, .digit, .graph, .lower, .print, .punct, .space,
    .upper, .word, .xdigit]

def name : NamedClass → String
  | .alnum => "alnum"
  | .alpha => "alpha"
  | .ascii => "ascii"
  | .blank => "blank"
  | .cntrl => "cntrl"
  | .digit => "digit"
  | .graph => "graph"
  | .lower => "lower"
  | .print => "print"
  | .punct => "punct"
  | .space => "space"
  | .upper => "upper"
  | .word => "word"
  | .xdigit => "xdigit"

def ranges : NamedClass → List (Char × Char)
  | .alnum => [('0', '9'), ('A', 'Z'), ('a', 'z')]
  | .alpha => [('A', 'Z'), ('a', 'z')]
  | .ascii => [('\x00', '\x7F')]
  | .blank => [('\t', '\t'), (' ', ' ')]
  | .cntrl => [('\x00', '\x1F'), ('\x7F', '\x7F')]
  | .digit => [('0', '9')]
  | .graph => [('!', '~')]
  | .lower => [('a', 'z')]
  | .print => [(' ', '~')]
  | .punct => [('!', '/'), (':', '@'), ('[', '\x60'), ('\x7B', '~')]
  | .space => [('\t', '\r'), (' ', ' ')]
  | .upper => [('A', 'Z')]
  | .word => [('0', '9'), ('A', 'Z'), ('_', '_'), ('a', 'z')]
  | .xdigit => [('0', '9'), ('A', 'F'), ('a', 'f')]

def toCharSet (named : NamedClass) : CharSet :=
  named.ranges.foldr (fun range set => .union (.range range.1 range.2) set) .empty

end NamedClass

inductive ClassOperation where
  | intersection
  | difference
  | symmetricDifference
deriving DecidableEq, Repr

/-- The contents of a bracketed character class. -/
inductive ClassTree where
  | empty
  | literal (char : Literal)
  | range (first last : Literal)
  | shorthand (kind : Shorthand) (negated : Bool)
  | named (kind : NamedClass) (negated : Bool)
  | union (left right : ClassTree)
  | bracket (negated : Bool) (body : ClassTree)
  | operation (kind : ClassOperation) (left right : ClassTree)
deriving DecidableEq, Repr

namespace ClassTree

def ofItems : List ClassTree → ClassTree
  | [] => .empty
  | item :: rest => rest.foldl .union item

def nesting : ClassTree → Nat
  | .union left right =>
      match left with
      | .union _ _ => max left.nesting (1 + right.nesting)
      | _ => 1 + max left.nesting right.nesting
  | .bracket _ body => 1 + body.nesting
  | .operation _ left right => 1 + max left.nesting right.nesting
  | _ => 0

end ClassTree

/-- Assertions about a position of the text. -/
inductive Anchor where
  | lineStart
  | lineEnd
  | textStart
  | textEnd
  | wordBoundary
  | notWordBoundary
  | wordStart
  | wordEnd
  | wordStartHalf
  | wordEndHalf
deriving DecidableEq, Repr

inductive Tree where
  | empty
  | literal (char : Literal)
  | dot
  | shorthand (kind : Shorthand) (negated : Bool)
  | bracket (negated : Bool) (body : ClassTree)
  | anchor (kind : Anchor)
  /-- A change of flags up to the end of the enclosing group. -/
  | flags (changes : FlagChanges)
  | group (index : Nat) (body : Tree)
  /-- A group without a number, with a change of flags inside it. -/
  | scoped (changes : FlagChanges) (body : Tree)
  /-- A body repeated at least `least` times, and at most `most` times if that
  is given. It is `greedy` unless marked as lazy. -/
  | repeated (least : Nat) (most : Option Nat) (greedy : Bool) (body : Tree)
  | cat (left right : Tree)
  | alt (left right : Tree)
deriving DecidableEq, Repr

namespace Tree

def ofItems : List Tree → Tree
  | [] => .empty
  | item :: rest => rest.foldl .cat item

def ofBranches : List Tree → Tree
  | [] => .empty
  | branch :: rest => rest.foldl .alt branch

/-- Nested constructs of a pattern: groups, repetitions, brackets, and chains of
two or more items or alternatives. -/
def nesting : Tree → Nat
  | .bracket _ body => 1 + body.nesting
  | .group _ body => 1 + body.nesting
  | .scoped _ body => 1 + body.nesting
  | .repeated _ _ _ body => 1 + body.nesting
  | .cat left right =>
      match left with
      | .cat _ _ => max left.nesting (1 + right.nesting)
      | _ => 1 + max left.nesting right.nesting
  | .alt left right =>
      match left with
      | .alt _ _ => max left.nesting (1 + right.nesting)
      | _ => 1 + max left.nesting right.nesting
  | _ => 0

end Tree

end TextSchema.Pattern
