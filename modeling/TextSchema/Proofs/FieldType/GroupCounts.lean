import Mathlib.Algebra.GroupWithZero.Nat
import TextSchema.Proofs.FieldType.ListPattern

/-!
# Groups of composed patterns

How many groups the pattern for several items has. The template copies the pattern of an
item as text, into a group of its own and for lists twice. The copies keep their groups,
with new numbers, unless the larger pattern is no pattern at all: a name can be given only
once, nesting has a limit, and a comment at the end of the item hides what follows it.
-/

set_option autoImplicit false

namespace TextSchema

open List (Forall₂)

namespace Cardinality

/-- The groups of the pattern for so many items, if that of an item has `count`. -/
def groupsOf (count : Nat) : Cardinality → Nat
  | .one => count
  | .zeroOrOne => count + 1
  | .zeroOrMore | .oneOrMore => 2 * count + 3

/-- How deep the pattern of an item stands in the pattern for so many items. -/
def nesting : Cardinality → Nat
  | .one => 0
  | .zeroOrOne => 2
  | .zeroOrMore | .oneOrMore => 5

end Cardinality

namespace Pattern

/-- The names of the groups of a pattern, the last one first. -/
def groupNames (pattern : String) : List (List Char) :=
  match Reader.start.feed pattern.toList with
  | .ok reader => reader.names
  | .error _ => []

/-- Whether a pattern ends inside a comment, which more text would go on with. -/
def endsInComment (pattern : String) : Bool :=
  match Reader.start.feed pattern.toList with
  | .ok reader => reader.comment
  | .error _ => false

def nestingOf (pattern : String) : Nat :=
  match Tree.read pattern.toList with
  | .ok tree => tree.nesting
  | .error _ => 0

/-! ## Groups of trees -/

namespace Tree

/-- The tree stands for an expression with so many groups, wherever it is put. -/
def StandsWith (tree : Tree) (count : Nat) : Prop :=
  ∃ expr, tree.Stands (.initial false) expr ∧ expr.groups.length = count

variable {tree : Tree} {count : Nat}

/-- A group adds itself to the groups of its body, however these are numbered. -/
theorem Counts.group (counts : tree.Counts count) (index offset : Nat) :
    (Tree.group index (tree.renumber offset)).StandsWith (count + 1) := by
  obtain ⟨expr, alone, length⟩ := counts
  obtain ⟨⟨branches, after⟩, lowered, success⟩ := exists_of_bind_ok alone
  obtain rfl : Expr.choice branches = expr := Except.ok.inj success
  refine ⟨.group index ((Expr.choice branches).renumber offset), ?_, ?_⟩
  · rw [Stands, alternatives, alternatives_renumber, lowered, Expr.renumber_choice]
    rfl
  · rw [Expr.groups, List.length_cons, Expr.groups_renumber, List.length_map, length]

theorem StandsWith.repeated (stands : tree.StandsWith count) {least : Nat} {most : Option Nat}
    (allowed : ¬ (least = 0 ∧ most = some 0)) (greedy : Bool) :
    (Tree.repeated least most greedy tree).StandsWith count := by
  obtain ⟨expr, alone, length⟩ := stands
  refine ⟨.repeatedOf least most (greedy != false) expr, ?_, ?_⟩
  · rw [Stands, alternatives, alone]
    rfl
  · rw [Expr.groups_repeatedOf, if_neg allowed, length]

theorem StandsWith.ofItems {trees : List Tree} {counts : List Nat}
    (stands : Forall₂ StandsWith trees counts) (sum : counts.sum = count) :
    (ofItems trees).Counts count := by
  obtain ⟨exprs, standing, lengths⟩ : ∃ exprs, Forall₂ (Stands (.initial false)) trees exprs ∧
      (exprs.flatMap Expr.groups).length = counts.sum := by
    clear sum
    induction stands with
    | nil => exact ⟨[], .nil, rfl⟩
    | cons here _ ih =>
        obtain ⟨expr, first, length⟩ := here
        obtain ⟨exprs, others, lengths⟩ := ih
        refine ⟨expr :: exprs, .cons first others, ?_⟩
        rw [List.flatMap_cons, List.length_append, length, lengths, List.sum_cons]
  obtain ⟨branches, lowered, same⟩ := exists_alternatives_ofItems standing
  refine ⟨.choice branches, ?_, ?_⟩
  · rw [toExpr, lowered]
    rfl
  · rw [same, Expr.groups_foldl_concat]
    exact lengths.trans sum

end Tree

variable {pattern : String} {tree : Tree} {count : Nat}

/-- A pattern that ends outside of comments is a part for larger patterns. -/
theorem Part.exists_of_quiet (read : Tree.read pattern.toList = .ok tree)
    (quiet : endsInComment pattern = false) :
    ∃ part : Part, part.pattern = pattern ∧ part.tree = tree ∧ part.names = groupNames pattern := by
  obtain ⟨reader, fed, finished, _⟩ := Reader.Tree.read_ok read
  have given : groupNames pattern = reader.names := by rw [groupNames, fed]
  rw [endsInComment, fed] at quiet
  exact ⟨⟨pattern, tree, reader.groups, reader.names, read,
    reader, fed, finished, quiet, rfl, rfl⟩, rfl, rfl, given.symm⟩

/-! ## Reading composed patterns -/

namespace Reader

variable {reader : Reader} {text : List Char} {groups : Nat} {names : List (List Char)}

/-- A repetition at the end of a pattern. -/
theorem Ready.readOn_repeated (ready : reader.Ready) (top : reader.stack = []) {mark : Char}
    {least : Nat} {most : Option Nat}
    (acts : reader.actItem mark = .ok { reader with mode := .quantified least most false }) :
    reader.readOn [mark] = .ok (reader.repeatLast least most true).body := by
  rw [readOn, feed_cons, ready.step, acts]
  change finish { reader with mode := .quantified least most false } = _
  obtain ⟨stack, branches, items, _⟩ := reader
  cases top
  cases items <;> rfl

/-- Names that are taken keep a fragment from being read a second time. -/
theorem feed_group_taken (ready : reader.Ready) (fragment : Fragment text tree groups names)
    (nodup : reader.names.Nodup) (named : names ≠ []) (taken : names ⊆ reader.names) :
    reader.feed ('(' :: (text ++ [')'])) = .error .repeatedGroupName := by
  rcases feed_group ready fragment with inside | ⟨inside, _⟩
  · have twice : (names ++ reader.names).Nodup := (edits_feed inside).nodup_names nodup
    obtain ⟨name, rest, rfl⟩ := List.exists_cons_of_ne_nil named
    have both := (List.nodup_append.mp twice).2.2 name (.head _) name (taken (.head _))
    exact absurd rfl both
  · exact inside

/-- A comment at the end of a fragment goes on behind it, so that the group around the
fragment is not closed. -/
theorem readOn_of_comment {inner : Reader} {rest : List Char} (fed : start.feed text = .ok inner)
    (comment : inner.comment = true) (oneLine : '\n' ∉ rest) :
    ∃ flaw, start.readOn ('(' :: (text ++ rest)) = .error flaw := by
  have opening : start.feed ('(' :: (text ++ rest)) =
      (start.openNumbered.within start).feed (text ++ rest) := by
    rw [within_openNumbered_start start_ready]
    cases text with
    | nil =>
        cases fed
        cases comment
    | cons char later =>
        refine feed_groupStart start_ready ?_
        rintro rfl
        cases fed
  have inside :
      (start.openNumbered.within start).feed text = .ok (start.openNumbered.within inner) := by
    rcases follows_feed start.openNumbered text inner fed with done | ⟨_, taken⟩
    · exact done
    · exact absurd rfl taken
  have opened : (start.openNumbered.within inner).stack ≠ [] :=
    List.append_ne_nil_of_right_ne_nil _ (List.cons_ne_nil _ _)
  obtain ⟨flaw, unfinished⟩ := exists_finish_error opened
  have hidden : (start.openNumbered.within inner).feed rest = .ok (start.openNumbered.within inner) :=
    feed_comment rest comment oneLine
  refine ⟨flaw, ?_⟩
  rw [readOn, opening, feed_append, inside]
  change (start.openNumbered.within inner).feed rest >>= finish = _
  rw [hidden]
  exact unfinished

theorem read_eq_readOn (text : List Char) :
    Tree.read text = (do
      let tree ← start.readOn text
      if tree.nesting ≤ nestingLimit then return tree else throw .tooNested) := by
  rw [Tree.read, readOn]
  cases start.feed text <;> rfl

theorem Fragment.nodup_names (fragment : Fragment text tree groups names) : names.Nodup := by
  obtain ⟨reader, fed, _, _, _, rfl⟩ := fragment
  exact (edits_feed fed).nodup_names List.nodup_nil

theorem readOn_group_eq (ready : reader.Ready) (fragment : Fragment text tree groups names)
    (free : reader.names = []) (rest : List Char) :
    reader.readOn ('(' :: (text ++ ')' :: rest)) =
      (reader.withGroup tree groups names).readOn rest := by
  rw [readOn_parenthesised]
  rcases feed_group ready fragment with inside | ⟨_, taken⟩
  · rw [inside]
    rfl
  · exact absurd free taken

theorem readOn_group_taken (ready : reader.Ready) (fragment : Fragment text tree groups names)
    (nodup : reader.names.Nodup) (named : names ≠ []) (taken : names ⊆ reader.names)
    (rest : List Char) :
    reader.readOn ('(' :: (text ++ ')' :: rest)) = .error .repeatedGroupName := by
  rw [readOn_parenthesised, feed_group_taken ready fragment nodup named taken]
  rfl

end Reader

/-! ## The patterns of the cardinalities -/

open Reader

namespace Part

/-- What the pattern for so many items reads as. -/
def composed (part : Part) : Cardinality → Tree
  | .one => part.tree
  | .zeroOrOne => .repeated 0 (some 1) true (part.group 0)
  | .zeroOrMore => .ofItems [.repeated 0 (some 1) true (part.group 0),
      furtherItems part Cardinality.defaultSeparator (1 + part.groups)]
  | .oneOrMore => .ofItems [part.group 0,
      furtherItems part Cardinality.defaultSeparator (1 + part.groups)]

variable {part : Part} {count : Nat}

theorem nesting_group (opened : Nat) : (part.group opened).nesting = 1 + part.tree.nesting :=
  congrArg (1 + ·) (Tree.nesting_renumber _ _)

theorem nesting_composed (cardinality : Cardinality) :
    (part.composed cardinality).nesting = part.tree.nesting + cardinality.nesting := by
  have item := @nesting_group part 0
  have inner : (furtherTree part Cardinality.defaultSeparator).nesting =
      max 2 (1 + (part.group 0).nesting) := rfl
  have further : (furtherItems part Cardinality.defaultSeparator (1 + part.groups)).nesting =
      4 + part.tree.nesting := by
    simp only [furtherItems, Tree.nesting, Tree.nesting_renumber, inner]
    omega
  cases cardinality with
  | one => rfl
  | zeroOrOne =>
      change 1 + (part.group 0).nesting = part.tree.nesting + 2
      omega
  | zeroOrMore =>
      change 1 + max (1 + (part.group 0).nesting)
        (furtherItems part Cardinality.defaultSeparator (1 + part.groups)).nesting =
          part.tree.nesting + 5
      omega
  | oneOrMore =>
      change 1 + max (part.group 0).nesting
        (furtherItems part Cardinality.defaultSeparator (1 + part.groups)).nesting =
          part.tree.nesting + 5
      omega

theorem counts_composed (counts : part.tree.Counts count) (cardinality : Cardinality) :
    (part.composed cardinality).Counts (cardinality.groupsOf count) := by
  have blanks : blankRun.StandsWith 0 := ⟨_, rfl, rfl⟩
  have letter : (plain ',').StandsWith 0 := ⟨_, rfl, rfl⟩
  have item : (part.group 0).StandsWith (count + 1) := counts.group 1 1
  have optional : (Tree.repeated 0 (some 1) true (part.group 0)).StandsWith (count + 1) :=
    item.repeated (by simp) true
  have inner : (furtherTree part Cardinality.defaultSeparator).Counts (count + 1) :=
    Tree.StandsWith.ofItems (.cons blanks (.cons letter (.cons blanks (.cons item .nil)))) (by simp)
  have further : (furtherItems part Cardinality.defaultSeparator (1 + part.groups)).StandsWith
      (count + 2) := (inner.group _ _).repeated (by simp) true
  have both : [count + 1, count + 2].sum = 2 * count + 3 := by
    simp only [List.sum_cons, List.sum_nil]
    omega
  cases cardinality with
  | one => exact counts
  | zeroOrOne => exact Tree.StandsWith.ofItems (.cons optional .nil) List.sum_singleton
  | zeroOrMore => exact Tree.StandsWith.ofItems (.cons optional (.cons further .nil)) both
  | oneOrMore => exact Tree.StandsWith.ofItems (.cons item (.cons further .nil)) both

theorem fragment_further (part : Part) :
    Fragment (furtherText part.pattern Cardinality.defaultSeparator)
      (furtherTree part Cardinality.defaultSeparator) (1 + part.groups) part.names := by
  have literal : escape Cardinality.defaultSeparator = Cardinality.defaultSeparator := rfl
  have fragment := @fragment_furtherText part Cardinality.defaultSeparator (by decide)
  rwa [literal] at fragment

theorem readOn_furtherItems {reader : Reader} (ready : reader.Ready) (top : reader.stack = [])
    (only : reader.branches = []) (free : reader.names = []) :
    reader.readOn ('(' :: (furtherText part.pattern Cardinality.defaultSeparator ++ [')', '*'])) =
      .ok (.ofItems (reader.items.reverse ++
        [furtherItems part Cardinality.defaultSeparator reader.groups])) := by
  rw [readOn_group_eq ready part.fragment_further free, ready.withGroup.readOn_repeated top rfl]
  simp [withGroup, repeatLast, body, only, furtherItems, Tree.ofBranches]

theorem readOn_furtherItems_taken {reader : Reader} (ready : reader.Ready)
    (nodup : reader.names.Nodup) (named : part.names ≠ []) (taken : part.names ⊆ reader.names) :
    reader.readOn ('(' :: (furtherText part.pattern Cardinality.defaultSeparator ++ [')', '*'])) =
      .error .repeatedGroupName :=
  readOn_group_taken ready part.fragment_further nodup named taken ['*']

/-- A reader stands behind the first item of a list, which may be optional. -/
structure BehindFirst (part : Part) (cardinality : Cardinality) (first : Tree) (reader : Reader) :
    Prop where
  ready : reader.Ready
  top : reader.stack = []
  only : reader.branches = []
  items : reader.items = [first]
  groups : reader.groups = 1 + part.groups
  names : reader.names = part.names
  readOn_eq : start.readOn (cardinality.patternFor part.pattern Cardinality.defaultSeparator).toList =
    reader.readOn ('(' :: (furtherText part.pattern Cardinality.defaultSeparator ++ [')', '*']))
  composed_eq : part.composed cardinality =
    .ofItems [first, furtherItems part Cardinality.defaultSeparator (1 + part.groups)]

theorem exists_behindFirst (part : Part) {cardinality : Cardinality}
    (list : cardinality.isList = true) :
    ∃ first reader, BehindFirst part cardinality first reader := by
  have grouped : (start.withGroup part.tree part.groups part.names).Ready := start_ready.withGroup
  have names : part.names ++ start.names = part.names := List.append_nil _
  have groups : start.groups + 1 + part.groups = 1 + part.groups := by rw [start, Nat.zero_add]
  cases cardinality with
  | one => cases list
  | zeroOrOne => cases list
  | zeroOrMore =>
      have written := toList_zeroOrMore part.pattern Cardinality.defaultSeparator []
      have opening : '(' ≠ '?' := by decide
      refine ⟨.repeated 0 (some 1) true (part.group 0),
        (start.withGroup part.tree part.groups part.names).repeatLast 0 (some 1) true,
        grouped.repeatLast 0 (some 1) true, rfl, rfl, rfl, groups, names, ?_, rfl⟩
      rw [List.append_nil] at written
      rw [written, readOn_group_eq start_ready part.fragment rfl, readOn,
        feed_quantified grouped rfl opening]
      rfl
  | oneOrMore =>
      have written := toList_oneOrMore part.pattern Cardinality.defaultSeparator []
      refine ⟨part.group 0, start.withGroup part.tree part.groups part.names, grouped,
        rfl, rfl, rfl, groups, names, ?_, rfl⟩
      rw [List.append_nil] at written
      rw [written, readOn_group_eq start_ready part.fragment rfl]

theorem readOn_patternFor (part : Part) {cardinality : Cardinality}
    (unnamed : cardinality.isList = true → part.names = []) :
    start.readOn (cardinality.patternFor part.pattern Cardinality.defaultSeparator).toList =
      .ok (part.composed cardinality) := by
  cases list : cardinality.isList with
  | true =>
      obtain ⟨first, reader, behind⟩ := exists_behindFirst part list
      have free := behind.names.trans (unnamed list)
      rw [behind.readOn_eq, readOn_furtherItems behind.ready behind.top behind.only free,
        behind.composed_eq, behind.items, behind.groups]
      rfl
  | false =>
      cases cardinality with
      | one =>
          obtain ⟨reader, fed, finished, _⟩ := part.fragment
          change (start.feed part.pattern.toList >>= finish) = _
          rw [fed]
          exact finished
      | zeroOrOne =>
          have written := toList_zeroOrOne part.pattern Cardinality.defaultSeparator []
          rw [List.append_nil] at written
          rw [written, readOn_group_eq start_ready part.fragment rfl]
          exact start_ready.withGroup.readOn_repeated rfl rfl
      | zeroOrMore => cases list
      | oneOrMore => cases list

theorem readOn_patternFor_named (part : Part) {cardinality : Cardinality}
    (list : cardinality.isList = true) (named : part.names ≠ []) :
    start.readOn (cardinality.patternFor part.pattern Cardinality.defaultSeparator).toList =
      .error .repeatedGroupName := by
  obtain ⟨first, reader, behind⟩ := exists_behindFirst part list
  have nodup : reader.names.Nodup := behind.names ▸ part.fragment.nodup_names
  have taken : part.names ⊆ reader.names := behind.names ▸ List.Subset.refl _
  exact behind.readOn_eq.trans (readOn_furtherItems_taken behind.ready nodup named taken)

end Part

/-- A pattern can be composed for a cardinality: it leaves room for more nesting, gives no
name that lists would give twice, and hides nothing of what is written behind it. -/
structure FitsTemplate (cardinality : Cardinality) (pattern : String) : Prop where
  shallow : nestingOf pattern + cardinality.nesting ≤ nestingLimit
  unnamed : cardinality.isList = true → groupNames pattern = []
  quiet : cardinality ≠ .one → endsInComment pattern = false

/-- Behind a comment on the last line of a pattern, the groups of the template stay open. -/
theorem exists_read_error_of_comment {cardinality : Cardinality}
    (read : Tree.read pattern.toList = .ok tree) (several : cardinality ≠ .one)
    (comment : endsInComment pattern = true)
    (oneLine : cardinality.isList = true → '\n' ∉ pattern.toList) :
    ∃ flaw, Tree.read (cardinality.patternFor pattern Cardinality.defaultSeparator).toList =
      .error flaw := by
  obtain ⟨reader, fed, _⟩ := Reader.Tree.read_ok read
  rw [endsInComment, fed] at comment
  obtain ⟨rest, written, hidden⟩ : ∃ rest,
      (cardinality.patternFor pattern Cardinality.defaultSeparator).toList =
        '(' :: (pattern.toList ++ rest) ∧ '\n' ∉ rest := by
    cases cardinality with
    | one => exact absurd rfl several
    | zeroOrOne =>
        have written := toList_zeroOrOne pattern Cardinality.defaultSeparator []
        exact ⟨_, (List.append_nil _).symm.trans written, by decide⟩
    | zeroOrMore =>
        have written := toList_zeroOrMore pattern Cardinality.defaultSeparator []
        refine ⟨_, (List.append_nil _).symm.trans written, ?_⟩
        simpa [furtherText, Cardinality.defaultSeparator] using oneLine rfl
    | oneOrMore =>
        have written := toList_oneOrMore pattern Cardinality.defaultSeparator []
        refine ⟨_, (List.append_nil _).symm.trans written, ?_⟩
        simpa [furtherText, Cardinality.defaultSeparator] using oneLine rfl
  obtain ⟨flaw, fails⟩ := readOn_of_comment fed comment hidden
  refine ⟨flaw, ?_⟩
  rw [read_eq_readOn, written, fails]
  rfl

/-- What a composed pattern reads as decides whether it has a count, and which. -/
theorem groupCount_of_readOn (composed : start.readOn pattern.toList = .ok tree)
    (counts : tree.Counts count) :
    (tree.nesting ≤ nestingLimit → groupCount pattern = .ok count) ∧
      (¬ tree.nesting ≤ nestingLimit →
        groupCount pattern = .error (.invalidPattern pattern .fragment)) := by
  have read := read_eq_readOn pattern.toList
  rw [composed] at read
  change _ = (if tree.nesting ≤ nestingLimit then _ else _) at read
  constructor
  · intro shallow
    rw [if_pos shallow] at read
    exact groupCount_of_read read counts
  · intro deep
    rw [if_neg deep] at read
    exact groupCount_of_flaw read

/-- The pattern for one item has the groups of the item, that for an optional item one more,
and those for lists three more than two copies, if the pattern of the item can be composed.
If it cannot, there is no such pattern: only where a comment at the end of several lines is
composed into a list is nothing said. -/
theorem groupCount_patternFor (counted : groupCount pattern = .ok count)
    (cardinality : Cardinality) :
    (FitsTemplate cardinality pattern →
      groupCount (cardinality.patternFor pattern Cardinality.defaultSeparator) =
        .ok (cardinality.groupsOf count)) ∧
    (¬ FitsTemplate cardinality pattern →
      (endsInComment pattern = true → cardinality.isList = true → '\n' ∉ pattern.toList) →
      groupCount (cardinality.patternFor pattern Cardinality.defaultSeparator) =
        .error (.invalidPattern (cardinality.patternFor pattern Cardinality.defaultSeparator)
          .fragment)) := by
  obtain ⟨tree, read, counts⟩ := exists_tree_of_groupCount counted
  have deep : nestingOf pattern = tree.nesting := by rw [nestingOf, read]
  by_cases quiet : cardinality ≠ .one → endsInComment pattern = false
  · cases comment : endsInComment pattern with
    | true =>
        -- One item is the pattern itself, whatever it ends in.
        obtain rfl : cardinality = .one := by
          by_contra several
          cases comment.symm.trans (quiet several)
        obtain ⟨_, _, _, shallow⟩ := Reader.Tree.read_ok read
        have fits : FitsTemplate .one pattern := ⟨deep ▸ shallow, nofun, quiet⟩
        exact ⟨fun _ => counted, fun other _ => absurd fits other⟩
    | false =>
        obtain ⟨part, rfl, rfl, names⟩ := Part.exists_of_quiet read comment
        by_cases unnamed : cardinality.isList = true → groupNames part.pattern = []
        · have composed := part.readOn_patternFor (fun list => names.trans (unnamed list))
          obtain ⟨accepted, refused⟩ :=
            groupCount_of_readOn composed (Part.counts_composed counts cardinality)
          rw [Part.nesting_composed, ← deep] at accepted refused
          refine ⟨fun fits => accepted fits.shallow, fun other _ => refused ?_⟩
          exact fun shallow => other ⟨shallow, unnamed, quiet⟩
        · obtain ⟨list, named⟩ : cardinality.isList = true ∧ groupNames part.pattern ≠ [] := by
            simpa using unnamed
          have taken := part.readOn_patternFor_named list (names ▸ named)
          refine ⟨fun fits => absurd (fits.unnamed list) named, fun _ _ => ?_⟩
          apply groupCount_of_flaw
          rw [read_eq_readOn, taken]
          rfl
  · obtain ⟨several, comment⟩ : cardinality ≠ .one ∧ endsInComment pattern = true := by
      simpa using quiet
    refine ⟨fun fits => absurd fits.quiet quiet, fun _ oneLine => ?_⟩
    obtain ⟨flaw, fails⟩ := exists_read_error_of_comment read several comment (oneLine comment)
    exact groupCount_of_flaw fails

/-- A list of items with a flag, a choice and a counted repetition, and a named group that
can be optional but not a list. -/
theorem groupCount_patternFor_of_flags :
    groupCount "(?i)(a|b)\x7B2\x7Dc" = .ok 1 ∧
      FitsTemplate .oneOrMore "(?i)(a|b)\x7B2\x7Dc" ∧
      groupCount (Cardinality.oneOrMore.patternFor "(?i)(a|b)\x7B2\x7Dc"
        Cardinality.defaultSeparator) = .ok 5 ∧
      groupCount "(?P<x>a)" = .ok 1 ∧ FitsTemplate .zeroOrOne "(?P<x>a)" ∧
      groupCount (Cardinality.zeroOrOne.patternFor "(?P<x>a)" Cardinality.defaultSeparator) =
        .ok 2 ∧
      ¬ FitsTemplate .zeroOrMore "(?P<x>a)" ∧
      groupCount (Cardinality.zeroOrMore.patternFor "(?P<x>a)" Cardinality.defaultSeparator) =
        .error (.invalidPattern "((?P<x>a))?(\\s*,\\s*((?P<x>a)))*" .fragment) := by
  have plain : groupCount "(?i)(a|b)\x7B2\x7Dc" = .ok 1 := by decide +kernel
  have named : groupCount "(?P<x>a)" = .ok 1 := by decide +kernel
  have list : FitsTemplate .oneOrMore "(?i)(a|b)\x7B2\x7Dc" :=
    ⟨by decide +kernel, fun _ => by decide +kernel, fun _ => by decide +kernel⟩
  have optional : FitsTemplate .zeroOrOne "(?P<x>a)" :=
    ⟨by decide +kernel, nofun, fun _ => by decide +kernel⟩
  have twice : ¬ FitsTemplate .zeroOrMore "(?P<x>a)" := by
    intro fits
    have unnamed : groupNames "(?P<x>a)" ≠ [] := by decide +kernel
    exact unnamed (fits.unnamed rfl)
  have oneLine : '\n' ∉ "(?P<x>a)".toList := by decide
  exact ⟨plain, list, (groupCount_patternFor plain .oneOrMore).1 list, named, optional,
    (groupCount_patternFor named .zeroOrOne).1 optional, twice,
    (groupCount_patternFor named .zeroOrMore).2 twice fun _ _ => oneLine⟩

/-- A letter in so many groups. -/
def nestedGroups (depth : Nat) : List Char :=
  List.replicate depth '(' ++ 'a' :: List.replicate depth ')'

/-- A name in a list is given twice, a comment hides the end of the group, and there is no
room for more nesting. A comment that ends in the second copy of a pattern of several lines
can open groups there. -/
theorem composed_pattern_refused :
    (groupCount "(?P<x>a)" = .ok 1 ∧
      groupCount (Cardinality.oneOrMore.patternFor "(?P<x>a)" Cardinality.defaultSeparator) =
        .error (.invalidPattern "((?P<x>a))(\\s*,\\s*((?P<x>a)))*" .fragment)) ∧
    (groupCount "(?x)a#b" = .ok 0 ∧
      groupCount (Cardinality.zeroOrOne.patternFor "(?x)a#b" Cardinality.defaultSeparator) =
        .error (.invalidPattern "((?x)a#b)?" .fragment)) ∧
    (groupCount (String.ofList (nestedGroups 249)) = .ok 249 ∧
      ∃ fault, groupCount (Cardinality.zeroOrOne.patternFor (String.ofList (nestedGroups 249))
        Cardinality.defaultSeparator) = .error fault) ∧
    groupCount "(?x)[\n(?-x)(]#c" = .ok 0 ∧
      groupCount (Cardinality.oneOrMore.patternFor "(?x)[\n(?-x)(]#c"
        Cardinality.defaultSeparator) = .ok 2 := by
  refine ⟨⟨by decide +kernel, by decide +kernel⟩, ⟨by decide +kernel, by decide +kernel⟩,
    ⟨?_, ?_⟩, by decide +kernel, by decide +kernel⟩
  · have read : (Expr.read false (nestedGroups 249)).map (·.groups.length) = .ok 249 := by
      decide +kernel
    obtain ⟨expr, alone, length⟩ := exists_of_map_ok read
    rw [groupCount, String.toList_ofList, alone]
    exact congrArg Except.ok length
  · have written := toList_zeroOrOne (String.ofList (nestedGroups 249))
      Cardinality.defaultSeparator []
    rw [List.append_nil, String.toList_ofList] at written
    have deep : Tree.read ('(' :: (nestedGroups 249 ++ [')', '?'])) = .error .tooNested := by
      decide +kernel
    exact ⟨_, groupCount_of_flaw (written ▸ deep)⟩

end Pattern

end TextSchema
