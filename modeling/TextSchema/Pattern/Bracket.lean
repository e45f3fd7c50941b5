import TextSchema.Pattern.Escape

/-!
# Bracketed classes

Reading `[...]` one character at a time. A reader is in one of two kinds of
mode. In a settled mode the next character is acted on at once. In an undecided
mode the meaning of what was read last depends on the next character: a sign
that may double into an operation, a dash that may form a range, and `[:` that
may start the name of a class. `settle` decides, `act` then acts.
-/

set_option autoImplicit false

namespace TextSchema.Pattern

open TextSchema.Text

/-- One open bracket. -/
structure ClassLevel where
  negated : Bool
  pending : Option (ClassOperation × ClassTree)
  /-- The items since the bracket or the operation, last one first. -/
  items : List ClassTree

namespace ClassLevel

def opened : ClassLevel := ⟨false, none, []⟩

/-- What the level holds so far. Operations associate to the left. -/
def body (level : ClassLevel) : ClassTree :=
  let items := ClassTree.ofItems level.items.reverse
  match level.pending with
  | some (operation, left) => .operation operation left items
  | none => items

def push (level : ClassLevel) (item : ClassTree) : ClassLevel :=
  { level with items := item :: level.items }

def operate (level : ClassLevel) (operation : ClassOperation) : ClassLevel :=
  { level with pending := some (operation, level.body), items := [] }

end ClassLevel

/-- What has been read between a dash and the character that decides whether it
forms a range. Blanks and the start of a comment do not decide. -/
inductive DashGap where
  | none
  | blanks
  | inComment
  | afterComment
deriving DecidableEq

/-- Where in a bracketed class the reader stands. -/
inductive ClassMode where
  /-- Right after `[`, where `^` negates. -/
  | start
  /-- Before the first item, where `-` and `]` stand for themselves. -/
  | leading
  | item
  | sign (char : Char)
  | atom (first : Escaped)
  | dash (first : Escaped) (gap : DashGap)
  | rangeEnd (first : Escaped)
  /-- After `[` inside a class, with the characters of a possible class name. -/
  | name (reversed : List Char)
  /-- Inside an escape, which ends a range if `first` is given. -/
  | escape (first : Option Escaped) (escape : Escape)

/-- A bracketed class that has been read in part. -/
structure ClassReader where
  level : ClassLevel
  outer : List ClassLevel
  mode : ClassMode
  comment : Bool

namespace ClassReader

def opened : ClassReader := ⟨.opened, [], .start, false⟩

def skipsBlanks (reader : ClassReader) : Bool :=
  match reader.mode with
  | .start | .leading | .item | .atom _ | .rangeEnd _ => true
  | .escape _ escape => escape.skipsBlanks
  | .sign _ | .dash _ _ | .name _ => false

def operation? : Char → Option ClassOperation
  | '&' => some .intersection
  | '-' => some .difference
  | '~' => some .symmetricDifference
  | _ => none

/-- The item that a complete part stands for. Anchors are no items. -/
def itemOf : Escaped → Except Flaw ClassTree
  | .literal char => .ok (.literal char)
  | .shorthand kind negated => .ok (.shorthand kind negated)
  | .anchor _ => .error .badBracket

def push (reader : ClassReader) (item : ClassTree) : ClassReader :=
  { reader with level := reader.level.push item, mode := .item }

def pushAtom (reader : ClassReader) (part : Escaped) : Except Flaw ClassReader := do
  return reader.push (← itemOf part)

def pushRange (reader : ClassReader) : Escaped → Escaped → Except Flaw ClassReader
  | .literal first, .literal last =>
      if first.char ≤ last.char then .ok (reader.push (.range first last))
      else .error .badBracket
  | _, _ => .error .badBracket

def nest (reader : ClassReader) : ClassReader :=
  { reader with level := .opened, outer := reader.level :: reader.outer, mode := .start }

/-- Close the innermost bracket. The outermost one is given back when complete. -/
def close (reader : ClassReader) : ClassReader ⊕ (Bool × ClassTree) :=
  match reader.outer with
  | [] => .inr (reader.level.negated, reader.level.body)
  | level :: outer =>
      .inl {
        reader with
        level := level.push (.bracket reader.level.negated reader.level.body)
        outer := outer
        mode := .item }

def classNames : List (List Char × ClassTree) :=
  NamedClass.all.flatMap fun named =>
    [(':' :: named.name.toList ++ [':', ']'], .named named false),
      (':' :: '^' :: named.name.toList ++ [':', ']'], .named named true)]

def nestWith (reader : ClassReader) : List Char → ClassReader
  | [] => reader.nest
  | last :: before =>
      { reader.nest with
        level := ⟨false, none, before.map (.literal <| .plain ·)⟩
        mode := .atom (.literal (.plain last)) }

/-- The reader once the next character is known, still to be acted on unless
the character was consumed by the decision. -/
def settle (spaced : Bool) (reader : ClassReader) (char : Char) :
    Except Flaw (ClassReader × Bool) :=
  let dashLiteral : Escaped := .literal (.plain '-')
  match reader.mode with
  | .sign sign =>
      match operation? sign with
      | some operation =>
          if char = sign then
            .ok ({ reader with level := reader.level.operate operation, mode := .item }, true)
          else
            .ok ({ reader with mode := .atom (.literal (.plain sign)) }, false)
      | none => .ok ({ reader with mode := .atom (.literal (.plain sign)) }, false)
  | .dash first gap =>
      if spaced && isBlank char then
        let next := match gap with
          | .none | .blanks => .blanks
          | .inComment => if char = '\n' then .afterComment else .inComment
          | .afterComment => .afterComment
        .ok ({ reader with mode := .dash first next }, true)
      else if spaced && char = '#' && (gap == .none || gap == .blanks) then
        .ok ({ reader with mode := .dash first .inComment }, true)
      else if char = ']' || char = '-' then do
        let pushed ← reader.pushAtom first
        match gap with
        | .none =>
            if char = '-' then
              return ({ pushed with level := pushed.level.operate .difference }, true)
            else
              return ({ pushed with mode := .atom dashLiteral }, false)
        | .inComment => return ({ pushed with mode := .atom dashLiteral, comment := true }, true)
        | .blanks | .afterComment => return ({ pushed with mode := .atom dashLiteral }, false)
      else
        .ok ({ reader with mode := .rangeEnd first, comment := gap == .inComment },
          gap == .inComment)
  | .name reversed =>
      let text := (char :: reversed).reverse
      match classNames.lookup text with
      | some named => .ok (reader.push named, true)
      | none =>
          if classNames.any (fun entry => text.isPrefixOf entry.1) then
            .ok ({ reader with mode := .name (char :: reversed) }, true)
          else
            .ok (reader.nestWith reversed, false)
  | _ => .ok (reader, false)

def act (reader : ClassReader) (char : Char) :
    Except Flaw (ClassReader ⊕ (Bool × ClassTree)) :=
  let item (reader : ClassReader) : Except Flaw (ClassReader ⊕ (Bool × ClassTree)) :=
    match char with
    | '[' => .ok (.inl { reader with mode := .name [] })
    | ']' => .ok reader.close
    | '\\' => .ok (.inl { reader with mode := .escape none .start })
    | _ =>
        if (operation? char).isSome then .ok (.inl { reader with mode := .sign char })
        else .ok (.inl { reader with mode := .atom (.literal (.plain char)) })
  let leading (reader : ClassReader) : Except Flaw (ClassReader ⊕ (Bool × ClassTree)) :=
    if char = '-' then
      .ok (.inl { reader.push (.literal (.plain '-')) with mode := .leading })
    else if char = ']' && reader.level.items.isEmpty then
      .ok (.inl (reader.push (.literal (.plain ']'))))
    else
      item reader
  match reader.mode with
  | .start =>
      if char = '^' then
        .ok (.inl {
          reader with level := { reader.level with negated := true }, mode := .leading })
      else
        leading reader
  | .leading => leading reader
  | .item => item reader
  | .atom first =>
      if char = '-' then .ok (.inl { reader with mode := .dash first .none })
      else do item (← reader.pushAtom first)
  | .rangeEnd first =>
      if char = '\\' then .ok (.inl { reader with mode := .escape (some first) .start })
      else do return .inl (← reader.pushRange first (.literal (.plain char)))
  | .escape first escape => do
      match ← escape.step char with
      | .inl more => return .inl { reader with mode := .escape first more }
      | .inr part =>
          match first with
          | some first => return .inl (← reader.pushRange first part)
          | none =>
              match part with
              | .anchor _ => throw .badBracket
              | _ => return .inl { reader with mode := .atom part }
  | .sign _ | .dash _ _ | .name _ => .error .badBracket

def step (spaced : Bool) (reader : ClassReader) (char : Char) :
    Except Flaw (ClassReader ⊕ (Bool × ClassTree)) :=
  if reader.comment then
    .ok (.inl { reader with comment := char != '\n' })
  else do
    let (settled, consumed) ← reader.settle spaced char
    if consumed then
      return .inl settled
    else if spaced && settled.skipsBlanks && isBlank char then
      return .inl settled
    else if spaced && settled.skipsBlanks && char = '#' then
      return .inl { settled with comment := true }
    else
      settled.act char

end ClassReader

end TextSchema.Pattern
