import TextSchema.Pattern.Expr

/-!
# Searching a text

A search tries continuations in order of preference and takes the first that
ends. Each continuation is tried once at each place of the text: what failed
there before fails again, and a pass of a repetition that comes back to where
it began adds nothing. The work is therefore bounded by the number of
continuations of the expression times the length of the text.

`move` says what one continuation does at one place, `explore` follows the moves,
and `search` takes the leftmost place from which a match starts.
-/

set_option autoImplicit false

namespace TextSchema.Pattern

/-- A part of what is still to be matched. -/
inductive Frame where
  | run (expr : Expr)
  | close (index : Nat)
  /-- The end of a pass of an unbounded repetition: another pass, or none. -/
  | again (greedy : Bool) (body : Expr)
  | merge (second : Bool)
deriving DecidableEq, Repr

abbrev Continuation := List Frame

/-- The two ends of a numbered group. -/
inductive Mark where
  | opened (group : Nat)
  | closed (group : Nat)
deriving DecidableEq, Repr

/-- The ends of groups with their places, last one first. -/
abbrev Marks := List (Mark × Nat)

/-- A place in a text: the character before it, the text after it, and the
number of characters before it. -/
structure Place where
  before : Option Char
  rest : List Char
  index : Nat

namespace Place

def first (text : List Char) : Place := ⟨none, text, 0⟩

def next (place : Place) : Place :=
  match place.rest with
  | [] => place
  | char :: rest => ⟨some char, rest, place.index + 1⟩

end Place

/-- What a continuation does at a place. -/
inductive Move where
  | accept
  | stuck
  | go (next : Continuation)
  | mark (mark : Mark) (next : Continuation)
  | fork (preferred other : Continuation)
  | eat (next : Continuation)

namespace Move

def passOrLeave (greedy : Bool) (pass leave : Continuation) : Move :=
  if greedy then .fork pass leave else .fork leave pass

/-- How a repetition begins. If every pass takes a character, the place after a
pass is like the place before the first. If a pass may be empty, it differs: a
repetition that comes back to it without a character has to be left. -/
def ofRepeated (greedy : Bool) (body : Expr) (next : Continuation) : Nat → Option Nat → Move
  | 0, none =>
      let after : Frame :=
        if body.consumes then .run (.repeated 0 none greedy body) else .again greedy body
      passOrLeave greedy (.run body :: after :: next) next
  | 1, none => .go (.run body :: .again greedy body :: next)
  | least + 2, none =>
      .go (.run body :: .run (.repeated (least + 1) none greedy body) :: next)
  | 0, some 0 => .go next
  | 0, some (most + 1) =>
      passOrLeave greedy (.run body :: .run (.repeated 0 (some most) greedy body) :: next) next
  | least + 1, some most =>
      .go (.run body :: .run (.repeated least (some (most - 1)) greedy body) :: next)

def ofExpr (place : Place) (expr : Expr) (next : Continuation) : Move :=
  match expr with
  | .empty => .go next
  | .set set =>
      match place.rest with
      | [] => .stuck
      | char :: _ => if set.mem char then .eat next else .stuck
  | .look look => if look.holds place.before place.rest.head? then .go next else .stuck
  | .group index body => .mark (.opened index) (.run body :: .close index :: next)
  | .repeated least most greedy body => ofRepeated greedy body next least most
  | .cat left right => .go (.run left :: .run right :: next)
  | .alt left right =>
      .fork (.run left :: .merge false :: next) (.run right :: .merge true :: next)

def ofContinuation (place : Place) : Continuation → Move
  | [] => .accept
  | .run expr :: next => ofExpr place expr next
  | .close index :: next => .mark (.closed index) next
  | .again greedy body :: next =>
      passOrLeave greedy (.run body :: .again greedy body :: next) next
  | .merge _ :: next => .go next

end Move

/-- The continuations tried so far, one list for each place from the current one
on. Places without a list have seen none. -/
abbrev Tried := List (List Continuation)

/-- The end of a match and the marks on the way to it. -/
structure Ending where
  stop : Nat
  marks : Marks

/-- The first way for a continuation to end a match, and what has been tried
then. `fuel` bounds the number of moves in a row. -/
def explore : Nat → Place → Continuation → Marks → Tried → Option Ending × Tried
  | 0, _, _, _, tried => (none, tried)
  | fuel + 1, place, continuation, marks, tried =>
      let here := tried.headD []
      let later := tried.tail
      if here.contains continuation then
        (none, tried)
      else
        let here := continuation :: here
        match Move.ofContinuation place continuation with
        | .accept => (some ⟨place.index, marks⟩, here :: later)
        | .stuck => (none, here :: later)
        | .go next => explore fuel place next marks (here :: later)
        | .mark mark next => explore fuel place next ((mark, place.index) :: marks) (here :: later)
        | .fork preferred other =>
            match explore fuel place preferred marks (here :: later) with
            | (some ending, tried) => (some ending, tried)
            | (none, tried) => explore fuel place other marks tried
        | .eat next =>
            let (ending, later) := explore fuel place.next next marks later
            (ending, here :: later)

namespace Expr

/-- A bound on the number of continuations that running an expression adds to
the one that follows it. -/
def states : Expr → Nat
  | .empty | .set _ | .look _ => 1
  | .group _ body => 2 + states body
  | .repeated least most _ body => (max least (most.getD 1) + 1) * (states body + 2)
  | .cat left right => 1 + states left + states right
  | .alt left right => 3 + states left + states right

/-- Enough moves for a search in a text of a given length: at each place every
continuation, the empty one included, is tried at most once. -/
def fuel (expr : Expr) (length : Nat) : Nat :=
  (expr.states + 2) * (length + 1) + 1

end Expr

/-- A match: where it starts and ends, and the places of its groups. -/
structure Match where
  start : Nat
  stop : Nat
  marks : Marks

/-- The start and the end of a group, if it took part in the match. Group 0 is
the whole match. -/
def Match.group? (found : Match) (index : Nat) : Option (Nat × Nat) :=
  if index = 0 then
    some (found.start, found.stop)
  else do
    return (← found.marks.lookup (.opened index), ← found.marks.lookup (.closed index))

namespace Expr

/-- The preferred match that starts at a place. -/
def matchAt (expr : Expr) (place : Place) : Option Match :=
  (explore (expr.fuel place.rest.length) place [.run expr] [] []).1.map fun ending =>
    ⟨place.index, ending.stop, ending.marks⟩

/-- The leftmost match from a place on, given by the character before it, the text
after it and its index. -/
def searchFrom (expr : Expr) : Option Char → List Char → Nat → Option Match
  | before, [], index => expr.matchAt ⟨before, [], index⟩
  | before, char :: rest, index =>
      expr.matchAt ⟨before, char :: rest, index⟩ <|>
        expr.searchFrom (some char) rest (index + 1)

def search (expr : Expr) (text : List Char) : Option Match :=
  expr.searchFrom none text 0

end Expr

end TextSchema.Pattern
