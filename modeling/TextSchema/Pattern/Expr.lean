import TextSchema.Pattern.CharSet

/-!
# Expressions

What a pattern means once its flags are applied: sets of characters, positions
and numbered groups, combined by concatenation, preference and repetition. The
functions `concat`, `choice` and `repeatedOf` build expressions in the form that
fixes the order of preference: empty parts vanish, a group under a repetition
that allows no pass vanishes with it, and a beginning that all alternatives
share is matched before the choice between them. Beginnings are compared as the
sets of characters they are, in whatever way these are written.
-/

set_option autoImplicit false

namespace TextSchema.Pattern

/-- What a word position asks of the characters on its two sides. -/
inductive WordEdge where
  | boundary
  | notBoundary
  | start
  | stop
  | startHalf
  | stopHalf
deriving DecidableEq, Repr

def WordEdge.holds : WordEdge → Bool → Bool → Bool
  | .boundary, before, after => before != after
  | .notBoundary, before, after => before == after
  | .start, before, after => !before && after
  | .stop, before, after => before && !after
  | .startHalf, before, _ => !before
  | .stopHalf, _, after => !after

/-- A condition on a position of the text. -/
inductive Look where
  | textStart
  | textEnd
  | lineStart (crlf : Bool)
  | lineEnd (crlf : Bool)
  | word (edge : WordEdge) (set : CharSet)
deriving DecidableEq, Repr

/-- Whether a condition holds between two characters, `none` standing for the
ends of the text. With `crlf`, a carriage return and a line feed end lines, and
no line ends between the two. -/
def Look.holds : Look → Option Char → Option Char → Bool
  | .textStart, before, _ => before.isNone
  | .textEnd, _, after => after.isNone
  | .lineStart false, before, _ => before.isNone || before == some '\n'
  | .lineEnd false, _, after => after.isNone || after == some '\n'
  | .lineStart true, before, after =>
      before.isNone || before == some '\n' || (before == some '\r' && after != some '\n')
  | .lineEnd true, before, after =>
      after.isNone || after == some '\r' || (after == some '\n' && before != some '\r')
  | .word edge set, before, after => edge.holds (before.any set.mem) (after.any set.mem)

inductive Expr where
  | empty
  | set (set : CharSet)
  | look (look : Look)
  | group (index : Nat) (body : Expr)
  | repeated (least : Nat) (most : Option Nat) (greedy : Bool) (body : Expr)
  | cat (left right : Expr)
  | alt (left right : Expr)
deriving DecidableEq, Repr

namespace Expr

def concat : Expr → Expr → Expr
  | .empty, right => right
  | .cat first rest, right => .cat first (concat rest right)
  | left, .empty => left
  | left, right => .cat left right

def items : Expr → List Expr
  | .empty => []
  | .cat first rest => first :: items rest
  | expr => [expr]

def ofItems : List Expr → Expr
  | [] => .empty
  | [item] => item
  | item :: rest => .cat item (ofItems rest)

/-- Whether two expressions are the same up to the way their sets are written. -/
def alike : Expr → Expr → Bool
  | .empty, .empty => true
  | .set left, .set right => left.same right
  | .look left, .look right => left == right
  | .group index left, .group other right => index == other && alike left right
  | .repeated least most greedy left, .repeated fewest limit eager right =>
      least == fewest && most == limit && greedy == eager && alike left right
  | .cat first rest, .cat other more => alike first other && alike rest more
  | .alt first rest, .alt other more => alike first other && alike rest more
  | _, _ => false

def isLetter : Expr → Bool
  | .set chars => chars.isSingle
  | _ => false

/-- Whether an expression is a set of several characters or of none. -/
def isClass : Expr → Bool
  | .set chars => !chars.isSingle
  | _ => false

def chars : Expr → CharSet
  | .set chars => chars
  | _ => .empty

/-- Items in parts: letters next to each other make up one part. -/
def parts : List Expr → List (List Expr)
  | [] => []
  | item :: rest =>
      match parts rest with
      | (next :: run) :: later =>
          if item.isLetter && next.isLetter then (item :: next :: run) :: later
          else [item] :: (next :: run) :: later
      | later => [item] :: later

def sharedParts : List (List Expr) → List (List Expr) → List (List Expr)
  | left :: lefts, right :: rights =>
      if left.isEqv right alike then left :: sharedParts lefts rights else []
  | _, _ => []

/-- The beginning that all alternatives share, if there are two or more and each
has two or more parts. A part is shared as a whole or not at all. -/
def sharedLead : List Expr → List Expr
  | first :: second :: rest =>
      if (first :: second :: rest).all (fun branch => 2 ≤ (parts branch.items).length) then
        ((second :: rest).foldl (fun lead branch => sharedParts lead (parts branch.items))
          (parts first.items)).flatten
      else
        []
  | _ => []

def alternatives : Expr → List Expr
  | .alt first rest => first :: alternatives rest
  | expr => [expr]

def alternation : List Expr → Expr
  | [] => .empty
  | [branch] => branch
  | branch :: rest => .alt branch (alternation rest)

/-- A choice between alternatives, which is one set if they are all letters or all
larger classes. -/
def anyOf (branches : List Expr) : Expr :=
  if branches.all isLetter || branches.all isClass then .set (.unionAll (branches.map chars))
  else alternation branches

/-- What is left of alternatives behind the items that they share. -/
def tails (shared : Nat) (branches : List Expr) : List Expr :=
  branches.flatMap fun branch => alternatives (ofItems (branch.items.drop shared))

def choice : List Expr → Expr
  | [branch] => branch
  | branches =>
      let flat := branches.flatMap alternatives
      match sharedLead flat with
      | [] => anyOf flat
      | lead => ofItems (lead ++ [anyOf (tails lead.length flat)])

def takesNothing : Expr → Bool
  | .empty => true
  | .set _ => false
  | .look _ => true
  | .group _ body => takesNothing body
  | .repeated _ _ _ body => takesNothing body
  | .cat left right => takesNothing left && takesNothing right
  | .alt left right => takesNothing left && takesNothing right

/-- The counts that a repetition needs: where a pass takes nothing, a second one
changes nothing. -/
def countsFor (least : Nat) (most : Option Nat) (body : Expr) : Nat × Option Nat :=
  if body.takesNothing then (min least 1, some (min (most.getD 1) 1)) else (least, most)

/-- A repetition. No pass at all is the empty expression, one pass the body. -/
def repeatedOf (least : Nat) (most : Option Nat) (greedy : Bool) (body : Expr) : Expr :=
  match countsFor least most body with
  | (0, some 0) => .empty
  | (1, some 1) => body
  | (least, most) => .repeated least most greedy body

def consumes : Expr → Bool
  | .empty => false
  | .set _ => true
  | .look _ => false
  | .group _ body => consumes body
  | .repeated least _ _ body => 0 < least && consumes body
  | .cat left right => consumes left || consumes right
  | .alt left right => consumes left && consumes right

def groups : Expr → List Nat
  | .empty => []
  | .set _ => []
  | .look _ => []
  | .group index body => index :: groups body
  | .repeated _ _ _ body => groups body
  | .cat left right => groups left ++ groups right
  | .alt left right => groups left ++ groups right

def lastGroup (expr : Expr) : Nat :=
  expr.groups.foldl max 0

end Expr

end TextSchema.Pattern
