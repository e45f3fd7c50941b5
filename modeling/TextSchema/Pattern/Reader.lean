import TextSchema.Decimal.Integer
import TextSchema.Pattern.Bracket

/-!
# Reading patterns

The notation is read one character at a time, so reading a text and then a
second one is reading their concatenation. As for bracketed classes, a mode is
settled or undecided: a quantifier may be followed by the mark that makes it
lazy, and a word boundary by a brace. `settle` decides, `act` then acts.

Groups are numbered in the order of their opening parentheses.
-/

set_option autoImplicit false

namespace TextSchema.Pattern

open TextSchema.Text

def nestingLimit : Nat := 250

def countLimit : Nat := (1 <<< 32) - 1

/-- What an open parenthesis will make of its body. -/
inductive GroupKind where
  | numbered (index : Nat)
  | scoped (changes : FlagChanges)

def GroupKind.wrap : GroupKind → Tree → Tree
  | .numbered index, body => .group index body
  | .scoped changes, body => .scoped changes body

/-- An open parenthesis, with what was read around it. -/
structure OpenGroup where
  kind : GroupKind
  /-- The items before the group, last one first. -/
  items : List Tree
  /-- The alternatives before the one with the group, last one first. -/
  branches : List Tree
  spaced : Bool

/-- The counts of a repetition in braces, read in part. -/
inductive Counts where
  /-- Digits of the least count. A blank after them makes it `complete`. -/
  | least (value : Option Nat) (complete : Bool)
  /-- Digits of the greatest count. A blank before them means they must come. -/
  | most (least : Nat) (value : Option Nat) (blank complete : Bool)

/-- Flags between `(?` and `:` or `)`, read in part. -/
structure FlagReader where
  /-- The changes, last one first. -/
  changes : FlagChanges
  negated : Bool
  dangling : Bool

/-- Where in a pattern the reader stands. -/
inductive Mode where
  | item
  | escape (escape : Escape)
  | boundary
  /-- After `\b{`, with the letters of a possible name. -/
  | boundaryName (reversed : List Char)
  /-- After a quantifier, where `?` makes it lazy. With `gap`, blanks may come
  between them in a pattern that allows blanks. -/
  | quantified (least : Nat) (most : Option Nat) (gap : Bool)
  | counts (counts : Counts)
  | groupStart
  | groupMark
  | groupNameMark
  | groupAngle
  | groupName (reversed : List Char)
  | flags (flags : FlagReader)
  | bracket (reader : ClassReader)

/-- A pattern that has been read in part. -/
structure Reader where
  stack : List OpenGroup
  /-- Complete alternatives of the innermost group, last one first. -/
  branches : List Tree
  /-- Items of the current alternative, last one first. -/
  items : List Tree
  groups : Nat
  /-- Names of groups, last one first. -/
  names : List (List Char)
  spaced : Bool
  comment : Bool
  mode : Mode

namespace Reader

def start : Reader := ⟨[], [], [], 0, [], false, false, .item⟩

def skipsBlanks (reader : Reader) : Bool :=
  match reader.mode with
  | .item | .counts _ | .groupStart | .boundaryName _ => true
  | .quantified _ _ gap => gap
  | .escape escape => escape.skipsBlanks
  | _ => false

def push (reader : Reader) (item : Tree) : Reader :=
  { reader with items := item :: reader.items, mode := .item }

/-- The last item may be repeated if there is one and it is no change of flags. -/
def checkOperand (reader : Reader) : Except Flaw Unit :=
  match reader.items with
  | [] | .flags _ :: _ => .error .nothingToRepeat
  | _ => .ok ()

def repeatLast (reader : Reader) (least : Nat) (most : Option Nat) (greedy : Bool) : Reader :=
  match reader.items with
  | [] => { reader with mode := .item }
  | last :: before =>
      { reader with items := .repeated least most greedy last :: before, mode := .item }

def body (reader : Reader) : Tree :=
  .ofBranches (Tree.ofItems reader.items.reverse :: reader.branches).reverse

def alternate (reader : Reader) : Reader :=
  { reader with
    branches := Tree.ofItems reader.items.reverse :: reader.branches
    items := []
    mode := .item }

def openGroup (reader : Reader) (kind : GroupKind) (spaced : Bool) : Reader :=
  { reader with
    stack := ⟨kind, reader.items, reader.branches, reader.spaced⟩ :: reader.stack
    branches := []
    items := []
    spaced := spaced
    mode := .item }

def openNumbered (reader : Reader) : Reader :=
  { reader.openGroup (.numbered (reader.groups + 1)) reader.spaced with
    groups := reader.groups + 1 }

def closeGroup (reader : Reader) : Except Flaw Reader :=
  match reader.stack with
  | [] => .error .unopenedGroup
  | group :: stack =>
      .ok {
        reader with
        stack := stack
        branches := group.branches
        items := group.kind.wrap reader.body :: group.items
        spaced := group.spaced
        mode := .item }

def spacedAfter (spaced : Bool) (changes : FlagChanges) : Bool :=
  changes.foldl (fun spaced change => if change.1 = .spaced then change.2 else spaced) spaced

def addDigit (value : Option Nat) (digit : Nat) : Except Flaw Nat :=
  let next := 10 * value.getD 0 + digit
  if next ≤ countLimit then .ok next else .error .badRepetition

def actCounts (reader : Reader) (counts : Counts) (char : Char) : Except Flaw Reader :=
  match counts with
  | .least value complete =>
      match Decimal.digit? char with
      | some digit =>
          if complete then .error .badRepetition
          else do
            let next ← addDigit value digit
            return { reader with mode := .counts (.least (some next) false) }
      | none =>
          if isBlank char then
            .ok { reader with mode := .counts (.least value value.isSome) }
          else
            match value with
            | none => .error .badRepetition
            | some least =>
                if char = ',' then
                  .ok { reader with mode := .counts (.most least none false false) }
                else if char = '\x7D' then
                  .ok { reader with mode := .quantified least (some least) true }
                else
                  .error .badRepetition
  | .most least value blank complete =>
      match Decimal.digit? char with
      | some digit =>
          if complete then .error .badRepetition
          else do
            let next ← addDigit value digit
            return { reader with mode := .counts (.most least (some next) blank false) }
      | none =>
          if isBlank char then
            .ok { reader with mode := .counts (.most least value true value.isSome) }
          else if char = '\x7D' then
            match value with
            | none =>
                if blank then .error .badRepetition
                else .ok { reader with mode := .quantified least none true }
            | some most =>
                if least ≤ most then
                  .ok { reader with mode := .quantified least (some most) true }
                else
                  .error .badRepetition
          else
            .error .badRepetition

def isNameChar (first : Bool) (char : Char) : Bool :=
  char == '_' ||
    (if first then isAlphabetic char
      else char == '.' || char == '[' || char == ']' || isAlphanumeric char)

def actName (reader : Reader) (reversed : List Char) (char : Char) : Except Flaw Reader :=
  if char = '>' then
    let name := reversed.reverse
    if name.isEmpty then .error .badGroupName
    else if reader.names.contains name then .error .repeatedGroupName
    else .ok { reader.openNumbered with names := name :: reader.names }
  else if isNameChar reversed.isEmpty char then
    .ok { reader with mode := .groupName (char :: reversed) }
  else
    .error .badGroupName

def actFlags (reader : Reader) (flags : FlagReader) (char : Char) : Except Flaw Reader :=
  let changes := flags.changes.reverse
  match char with
  | ':' =>
      if flags.dangling then .error .badFlags
      else .ok (reader.openGroup (.scoped changes) (spacedAfter reader.spaced changes))
  | ')' =>
      if flags.dangling || changes.isEmpty then .error .badFlags
      else
        .ok { reader.push (.flags changes) with spaced := spacedAfter reader.spaced changes }
  | '-' =>
      if flags.negated then .error .badFlags
      else .ok { reader with mode := .flags ⟨flags.changes, true, true⟩ }
  | _ =>
      match Flag.ofLetter? char with
      | some flag =>
          if flags.changes.any (fun change => change.1 == flag) then .error .badFlags
          else
            .ok { reader with
              mode := .flags ⟨(flag, !flags.negated) :: flags.changes, flags.negated, false⟩ }
      | none => .error .badFlags

def actItem (reader : Reader) (char : Char) : Except Flaw Reader :=
  let quantify (mode : Mode) : Except Flaw Reader := do
    reader.checkOperand
    return { reader with mode := mode }
  match char with
  | '(' => .ok { reader with mode := .groupStart }
  | ')' => reader.closeGroup
  | '|' => .ok reader.alternate
  | '[' => .ok { reader with mode := .bracket .opened }
  | '?' => quantify (.quantified 0 (some 1) false)
  | '*' => quantify (.quantified 0 none false)
  | '+' => quantify (.quantified 1 none false)
  | '\x7B' => quantify (.counts (.least none false))
  | '\\' => .ok { reader with mode := .escape .start }
  | '.' => .ok (reader.push .dot)
  | '^' => .ok (reader.push (.anchor .lineStart))
  | '$' => .ok (reader.push (.anchor .lineEnd))
  | _ => .ok (reader.push (.literal (.plain char)))

def namedBoundary? (name : String) : Option Anchor :=
  match name with
  | "start" => some .wordStart
  | "end" => some .wordEnd
  | "start-half" => some .wordStartHalf
  | "end-half" => some .wordEndHalf
  | _ => none

def isBoundaryNameChar (char : Char) : Bool :=
  char.isAlpha || char == '-'

/-- The reader once the next character is known, in a settled mode. The second
part says whether the decision consumed the character. -/
def settle (reader : Reader) (char : Char) : Reader × Bool :=
  match reader.mode with
  | .boundary =>
      if char = '\x7B' then ({ reader with mode := .boundaryName [] }, true)
      else (reader.push (.anchor .wordBoundary), false)
  | .boundaryName [] =>
      if isBoundaryNameChar char || (reader.spaced && (isBlank char || char = '#')) then
        (reader, false)
      else
        ({ reader.push (.anchor .wordBoundary) with mode := .counts (.least none false) }, false)
  | .quantified least most gap =>
      if char = '?' then (reader.repeatLast least most false, true)
      else if gap && reader.spaced && (isBlank char || char = '#') then (reader, false)
      else (reader.repeatLast least most true, false)
  | _ => (reader, false)

def act (reader : Reader) (char : Char) : Except Flaw Reader :=
  match reader.mode with
  | .item => reader.actItem char
  | .escape escape => do
      match ← escape.step char with
      | .inl more => return { reader with mode := .escape more }
      | .inr (.literal literal) => return reader.push (.literal literal)
      | .inr (.shorthand kind negated) => return reader.push (.shorthand kind negated)
      | .inr (.anchor .wordBoundary) => return { reader with mode := .boundary }
      | .inr (.anchor kind) => return reader.push (.anchor kind)
  | .boundaryName reversed =>
      if isBoundaryNameChar char then
        .ok { reader with mode := .boundaryName (char :: reversed) }
      else if char = '\x7D' then
        match namedBoundary? (String.ofList reversed.reverse) with
        | some kind => .ok (reader.push (.anchor kind))
        | none => .error .badEscape
      else
        .error .badEscape
  | .counts counts => reader.actCounts counts char
  | .groupStart =>
      if char = '?' then .ok { reader with mode := .groupMark }
      else reader.openNumbered.actItem char
  | .groupMark =>
      match char with
      | '=' | '!' => .error .lookAround
      | 'P' => .ok { reader with mode := .groupNameMark }
      | '<' => .ok { reader with mode := .groupAngle }
      | _ => reader.actFlags ⟨[], false, false⟩ char
  | .groupNameMark =>
      if char = '<' then .ok { reader with mode := .groupName [] } else .error .badFlags
  | .groupAngle =>
      if char = '=' || char = '!' then .error .lookAround else reader.actName [] char
  | .groupName reversed => reader.actName reversed char
  | .flags flags => reader.actFlags flags char
  | .bracket classReader => do
      match ← classReader.step reader.spaced char with
      | .inl more => return { reader with mode := .bracket more }
      | .inr (negated, classBody) => return reader.push (.bracket negated classBody)
  | .boundary | .quantified _ _ _ => .error .unfinished

def step (reader : Reader) (char : Char) : Except Flaw Reader :=
  if reader.comment then
    .ok { reader with comment := char != '\n' }
  else
    let (settled, consumed) := reader.settle char
    if consumed then
      .ok settled
    else if settled.spaced && settled.skipsBlanks && isBlank char then
      .ok settled
    else if settled.spaced && settled.skipsBlanks && char = '#' then
      .ok { settled with comment := true }
    else
      settled.act char

def feed (reader : Reader) (text : List Char) : Except Flaw Reader :=
  text.foldlM step reader

/-- The tree of a pattern that ends here. A pattern can end between items and
where a mark or brace is possible but not needed. -/
def finish (reader : Reader) : Except Flaw Tree := do
  let complete ← match reader.mode with
    | .item => .ok reader
    | .quantified least most _ => .ok (reader.repeatLast least most true)
    | .boundary => .ok (reader.push (.anchor .wordBoundary))
    | _ => .error .unfinished
  match complete.stack with
  | [] => return complete.body
  | _ :: _ => throw .unclosedGroup

end Reader

/-- The tree of a pattern. Fails with the reason if the text is no pattern. -/
def Tree.read (text : List Char) : Except Flaw Tree := do
  let reader ← Reader.start.feed text
  let tree ← reader.finish
  if tree.nesting ≤ nestingLimit then return tree else throw .tooNested

end TextSchema.Pattern
