import TextSchema.Text.Blank
import TextSchema.Text.CaseVariants
import TextSchema.Text.Word

/-!
# Sets of characters

A set is kept as the expression that describes it, so membership of unions,
complements and case-insensitive closures holds by definition. Ranges, tables of
ranges and three character properties are the leaves.

Two expressions can describe one set. They are told apart by a character from each
piece between the codes where membership can change.
-/

set_option autoImplicit false

namespace TextSchema.Pattern

open TextSchema.Text

/-- The character properties that patterns have a shorthand for. -/
inductive CharProperty where
  | digit
  | blank
  | word
deriving DecidableEq, Repr

def CharProperty.holds : CharProperty → Char → Bool
  | .digit, char => isDigit char
  | .blank, char => isBlank char
  | .word, char => isWord char

def CharProperty.cuts : CharProperty → List Nat
  | .digit => digitRanges.cuts
  | .blank => blankRanges.cuts
  | .word => alphabeticRanges.cuts ++ digitRanges.cuts ++ wordExtraRanges.cuts

/-- A description of a set of characters. -/
inductive CharSet where
  | empty
  | range (first last : Char)
  | property (kind : CharProperty)
  | table (ranges : RangeTable)
  | union (left right : CharSet)
  | inter (left right : CharSet)
  | compl (set : CharSet)
  | folded (set : CharSet)
  | asciiFolded (set : CharSet)
  /-- The characters of a set that are one byte, as a class of bytes. -/
  | bytes (set : CharSet)
deriving DecidableEq, Repr

def swapAsciiCase (char : Char) : Char :=
  if char.isUpper then char.toLower else char.toUpper

namespace CharSet

def mem : CharSet → Char → Bool
  | .empty, _ => false
  | .range first last, char => decide (first ≤ char) && decide (char ≤ last)
  | .property kind, char => kind.holds char
  | .table ranges, char => ranges.contains char.toNat
  | .union left right, char => left.mem char || right.mem char
  | .inter left right, char => left.mem char && right.mem char
  | .compl set, char => !set.mem char
  | .folded set, char => set.mem char || (caseVariants char).any set.mem
  | .asciiFolded set, char => set.mem char || set.mem (swapAsciiCase char)
  | .bytes set, char => decide (char.toNat < 0x80) && set.mem char

def single (char : Char) : CharSet :=
  .range char char

def ofList : List Char → CharSet
  | [] => .empty
  | [char] => single char
  | char :: rest => .union (single char) (ofList rest)

def diff (left right : CharSet) : CharSet :=
  .inter left (.compl right)

def symmDiff (left right : CharSet) : CharSet :=
  .union (diff left right) (diff right left)

def ascii : CharSet :=
  .range (Char.ofNat 0) (Char.ofNat 0x7F)

def negatedIf (negated : Bool) (set : CharSet) : CharSet :=
  if negated then .compl set else set

def unionAll : List CharSet → CharSet
  | [] => .empty
  | [set] => set
  | set :: rest => .union set (unionAll rest)

def tables (all : List RangeTable) : CharSet :=
  unionAll (all.map .table)

/-- The codes where membership can change. From one of them up to the next, either
all characters are members or none is. -/
def cuts : CharSet → List Nat
  | .empty => []
  | .range first last => [first.toNat, last.toNat + 1]
  | .property kind => kind.cuts
  | .table ranges => ranges.cuts
  | .union left right => cuts left ++ cuts right
  | .inter left right => cuts left ++ cuts right
  | .compl set => cuts set
  | .folded set => variableCodes.flatMap (fun code => [code, code + 1]) ++ cuts set
  | .asciiFolded set => List.range 0x81 ++ cuts set
  | .bytes set => 0x80 :: cuts set

/-- The first character from a code on. Surrogates are no characters. -/
def charFrom (code : Nat) : Char :=
  Char.ofNat (if 0xD800 ≤ code ∧ code < 0xE000 then 0xE000 else code)

/-- A character from each piece of a set, and of the complement. -/
def samples (set : CharSet) : List Char :=
  (0 :: set.cuts).map charFrom

def isEmpty (set : CharSet) : Bool :=
  set.samples.all fun char => !set.mem char

/-- Whether a set has one character only. -/
def isSingle (set : CharSet) : Bool :=
  match set.samples.filter set.mem with
  | [] => false
  | char :: others => others.all (· == char) && !set.mem (charFrom (char.toNat + 1))

/-- Whether two sets have the same characters. -/
def agrees (left right : CharSet) : Bool :=
  (left.samples ++ right.samples).all fun char => left.mem char == right.mem char

def isBytes : CharSet → Bool
  | .bytes _ => true
  | _ => false

/-- Whether two sets are the same class. Classes of bytes and of characters are
different unless they have one character only or none. -/
def same (left right : CharSet) : Bool :=
  left == right ||
    (left.agrees right && (left.isBytes == right.isBytes || left.isEmpty || left.isSingle))

@[simp] theorem mem_single (char other : Char) :
    (single char).mem other = decide (other = char) := by
  by_cases same : other = char
  · subst same
    simp [single, mem]
  · have apart : ¬(char ≤ other ∧ other ≤ char) := fun both =>
      same (Char.le_antisymm both.2 both.1)
    by_cases low : char ≤ other
    · have high : ¬other ≤ char := fun le => apart ⟨low, le⟩
      simp [single, mem, same, low, high]
    · simp [single, mem, same, low]

@[simp] theorem mem_ofList (chars : List Char) (other : Char) :
    (ofList chars).mem other = decide (other ∈ chars) := by
  fun_induction ofList chars with
  | case1 => simp [mem]
  | case2 char => simp
  | case3 char rest notNil ih => simp [mem, ih]

end CharSet

end TextSchema.Pattern
