import TextSchema.Proofs.Pattern.Denotation

/-!
# Property classes

What is written with the name of a property is a pattern exactly if a set has this name.
Then it has no groups and takes one character, of the set or outside it.
-/

set_option autoImplicit false

namespace TextSchema.Pattern

/-- The class of the characters with a property, or of those without it. -/
def propertyClass (negated : Bool) (name : String) : String :=
  (if negated then "\\P" else "\\p") ++ "\x7B" ++ name ++ "\x7D"

def propertyTree (negated : Bool) (name : String) : Tree :=
  .shorthand (.named (.ofBraces name.toList)) negated

namespace Reader

variable {reader : Reader}

/-- All up to the closing brace belongs to the name. -/
theorem feed_propertyName (quiet : reader.comment = false) (dense : reader.spaced = false)
    (negated : Bool) (reversed : List Char) {name : List Char} (inside : '\x7D' ∉ name)
    (rest : List Char) :
    Reader.feed { reader with mode := .escape (.propertyName negated reversed) }
        (name ++ '\x7D' :: rest) =
      (reader.push (.shorthand (.named (.ofBraces (reversed.reverse ++ name))) negated)).feed
        rest := by
  induction name generalizing reversed with
  | nil =>
      rw [List.nil_append, List.append_nil, feed_cons,
        step_of_settled { reader with mode := .escape (.propertyName negated reversed) } quiet
          dense rfl]
      rfl
  | cons char name ih =>
      obtain ⟨other, later⟩ : ¬ '\x7D' = char ∧ '\x7D' ∉ name := by simpa using inside
      have more : Escape.step (.propertyName negated reversed) char =
          .ok (.inl (.propertyName negated (char :: reversed))) :=
        if_neg fun same => other same.symm
      rw [List.cons_append, feed_cons,
        step_of_settled { reader with mode := .escape (.propertyName negated reversed) } quiet
          dense rfl]
      simp only [act, more]
      change Reader.feed { reader with mode := .escape (.propertyName negated (char :: reversed)) }
        _ = _
      rw [ih _ later, List.reverse_cons, List.append_assoc]
      rfl

theorem feed_propertyClass (ready : reader.Ready) (negated : Bool) {name : String}
    (inside : '\x7D' ∉ name.toList) (rest : List Char) :
    reader.feed ((propertyClass negated name).toList ++ rest) =
      (reader.push (propertyTree negated name)).feed rest := by
  have written : (propertyClass negated name).toList ++ rest =
      '\\' :: (if negated then 'P' else 'p') :: '\x7B' :: (name.toList ++ '\x7D' :: rest) := by
    cases negated <;> simp [propertyClass]
  rw [written, feed_cons, ready.step]
  change Reader.feed { reader with mode := .escape .start } _ = _
  rw [feed_cons,
    step_of_settled { reader with mode := .escape .start } ready.quiet ready.dense rfl]
  have letter : Reader.act { reader with mode := .escape .start } (if negated then 'P' else 'p') =
      .ok { reader with mode := .escape (.property negated) } := by
    cases negated <;> rfl
  rw [letter]
  change Reader.feed { reader with mode := .escape (.property negated) } _ = _
  rw [feed_cons,
    step_of_settled { reader with mode := .escape (.property negated) } ready.quiet ready.dense rfl]
  exact feed_propertyName ready.quiet ready.dense negated [] inside rest

end Reader

open Reader

variable {name : String} {set : CharSet}

theorem read_propertyClass (negated : Bool) (inside : '\x7D' ∉ name.toList) :
    Tree.read (propertyClass negated name).toList = .ok (propertyTree negated name) := by
  have fed := feed_propertyClass start_ready negated inside []
  rw [List.append_nil] at fed
  rw [Tree.read, fed]
  rfl

theorem fragment_propertyClass (negated : Bool) (inside : '\x7D' ∉ name.toList) :
    Fragment (propertyClass negated name).toList (propertyTree negated name) 0 [] := by
  have fed := feed_propertyClass start_ready negated inside []
  rw [List.append_nil] at fed
  exact ⟨_, fed, rfl, rfl, rfl, rfl⟩

/-- The set whose characters a property class takes. -/
def propertySet (caseless negated : Bool) (set : CharSet) : CharSet :=
  .negatedIf negated (if caseless then .folded set else set)

/-- Case is applied first, so that the negation has nothing of the set in any case. -/
theorem mem_propertySet (caseless negated : Bool) (set : CharSet) (char : Char) :
    (propertySet caseless negated set).mem char =
      ((set.mem char || (caseless && (Text.caseVariants char).any set.mem)) != negated) := by
  cases caseless <;> cases negated <;> simp [propertySet, CharSet.negatedIf, CharSet.mem]

theorem alternatives_propertyTree (caseless negated : Bool) (name : String) :
    (propertyTree negated name).alternatives (.initial caseless) =
      match (PropertyQuery.ofBraces name.toList).set? with
      | some set => .ok ([.set (propertySet caseless negated set)], .initial caseless)
      | none => .error .unknownProperty := by
  have unicode : (Flags.initial caseless).unicode = true := rfl
  cases found : (PropertyQuery.ofBraces name.toList).set? with
  | none =>
      simp only [propertyTree, Tree.alternatives, Flags.shorthand, unicode, if_true, found]
      rfl
  | some set =>
      simp only [propertyTree, Tree.alternatives, Flags.shorthand, unicode, if_true, found]
      cases caseless <;> rfl

/-- A property class is accepted exactly if a set has the name. -/
theorem groupCount_propertyClass (negated : Bool) (inside : '\x7D' ∉ name.toList) :
    groupCount (propertyClass negated name) =
      match (PropertyQuery.ofBraces name.toList).set? with
      | some _ => .ok 0
      | none => .error (.invalidPattern (propertyClass negated name) .fragment) := by
  have read := read_propertyClass negated inside
  have lowered := alternatives_propertyTree false negated name
  cases found : (PropertyQuery.ofBraces name.toList).set? with
  | none =>
      rw [found] at lowered
      have unread : Expr.read false (propertyClass negated name).toList =
          .error .unknownProperty := by
        rw [Expr.read, read]
        change (propertyTree negated name).toExpr false = _
        rw [Tree.toExpr, lowered]
        rfl
      rw [groupCount, unread]
  | some set =>
      rw [found] at lowered
      refine groupCount_of_read read ⟨.set (propertySet false negated set), ?_, rfl⟩
      rw [Tree.toExpr, lowered]
      rfl

theorem compile_propertyClass (caseless negated : Bool) (inside : '\x7D' ∉ name.toList) :
    Acceptor.compile (propertyClass negated name) caseless =
      match (PropertyQuery.ofBraces name.toList).set? with
      | some set =>
          .ok ⟨propertyClass negated name, (Expr.set (propertySet caseless negated set)).anchored⟩
      | none => .error (.invalidPattern (propertyClass negated name) .whole) := by
  have flat : (propertyTree negated name).nesting = 0 := rfl
  have shallow : (wholeTree (propertyTree negated name)).nesting ≤ nestingLimit := by
    rw [nesting_wholeTree, flat]
    decide
  have read := read_wholeText_fragment (fragment_propertyClass negated inside)
  rw [if_pos shallow] at read
  have lowered := alternatives_propertyTree caseless negated name
  cases found : (PropertyQuery.ofBraces name.toList).set? with
  | none =>
      rw [found] at lowered
      cases whole : (wholeTree (propertyTree negated name)).toExpr caseless with
      | error flaw =>
          have unread : Expr.read caseless (wholeText (propertyClass negated name)).toList =
              .error flaw := by
            rw [Expr.read, read]
            exact whole
          rw [Acceptor.compile, unread]
      | ok expr =>
          obtain ⟨_, _, ofTree, _⟩ := toExpr_wholeTree whole
          rw [lowered] at ofTree
          cases ofTree
  | some set =>
      rw [found] at lowered
      exact compile_eq read (toExpr_wholeTree_eq lowered)

/-- A property class takes one character, of the set that has the name or outside it. -/
theorem takesWhole_propertyClass_iff (caseless negated : Bool) (inside : '\x7D' ∉ name.toList)
    (found : (PropertyQuery.ofBraces name.toList).set? = some set) (text : String) :
    takesWhole caseless (propertyClass negated name) text = true ↔
      ∃ char, text.toList = [char] ∧ (propertySet caseless negated set).mem char = true := by
  have compiled := compile_propertyClass caseless negated inside
  rw [found] at compiled
  rw [takesWhole, compiled]
  exact Expr.isSome_search_anchored_iff.trans (Expr.exists_takesAll_iff rfl)

example : takesWhole true "\\p\x7Bgc=Lu\x7D" "ä" = true := by decide +kernel

end TextSchema.Pattern
