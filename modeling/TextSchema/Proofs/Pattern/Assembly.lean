import TextSchema.Pattern.Acceptor
import TextSchema.Proofs.Pattern.Splicing

/-!
# Patterns assembled from fragments

What a reader between two items makes of the parts that larger patterns are
written with: groups around fragments, literal text, blanks and quantifiers. The
statements follow a reading that succeeds; it can only fail where two fragments
use one name for a group.
-/

set_option autoImplicit false

namespace TextSchema.Pattern

open TextSchema.Text

namespace Reader

def readOn (reader : Reader) (rest : List Char) : Except Flaw Tree := do
  (← reader.feed rest).finish

/-- The reader stands between two items and skips nothing. -/
structure Ready (reader : Reader) : Prop where
  item : reader.mode = .item
  quiet : reader.comment = false
  dense : reader.spaced = false

def withGroup (reader : Reader) (tree : Tree) (groups : Nat) (names : List (List Char)) : Reader :=
  { reader with
    items := .group (reader.groups + 1) (tree.renumber (reader.groups + 1)) :: reader.items
    groups := reader.groups + 1 + groups
    names := names ++ reader.names }

def withItems (reader : Reader) (items : List Tree) : Reader :=
  { reader with items := items.reverse ++ reader.items }

theorem start_ready : start.Ready := ⟨rfl, rfl, rfl⟩

variable {reader : Reader} {text : List Char} {tree result : Tree} {groups : Nat}
  {names : List (List Char)}

namespace Ready

theorem withGroup (ready : reader.Ready) : (reader.withGroup tree groups names).Ready :=
  ⟨ready.item, ready.quiet, ready.dense⟩

theorem withItems (ready : reader.Ready) (items : List Tree) : (reader.withItems items).Ready :=
  ⟨ready.item, ready.quiet, ready.dense⟩

theorem alternate (ready : reader.Ready) : reader.alternate.Ready :=
  ⟨rfl, ready.quiet, ready.dense⟩

end Ready

theorem step_of_settled (reader : Reader) {char : Char} (quiet : reader.comment = false)
    (dense : reader.spaced = false) (settled : reader.settle char = (reader, false)) :
    reader.step char = reader.act char := by
  simp [step, quiet, settled, dense]

theorem Ready.step (ready : reader.Ready) (char : Char) :
    reader.step char = reader.actItem char := by
  have settled : reader.settle char = (reader, false) := by
    unfold settle
    rw [ready.item]
  rw [step_of_settled reader ready.quiet ready.dense settled]
  unfold act
  rw [ready.item]

theorem Fragment.head_ne {char : Char} {rest : List Char}
    (fragment : Fragment (char :: rest) tree groups names) : char ≠ '?' := by
  intro same
  subst same
  obtain ⟨_, fed, _⟩ := fragment
  cases fed

theorem within_openNumbered_start (ready : reader.Ready) :
    reader.openNumbered.within start = reader.openNumbered := by
  obtain ⟨item, quiet, dense⟩ := ready
  simp [within, start, openNumbered, openGroup, quiet, dense]

theorem feed_groupStart (ready : reader.Ready) {char : Char} {rest : List Char}
    (head : char ≠ '?') :
    reader.feed ('(' :: char :: rest) = reader.openNumbered.feed (char :: rest) := by
  have opened : reader.openNumbered.Ready := ⟨rfl, ready.quiet, ready.dense⟩
  have after : Reader.step { reader with mode := .groupStart } char =
      reader.openNumbered.actItem char := by
    rw [step_of_settled { reader with mode := .groupStart } ready.quiet ready.dense rfl]
    exact if_neg head
  rw [feed_cons, ready.step]
  change Reader.step { reader with mode := .groupStart } char >>= _ = _
  rw [after, feed_cons, opened.step]
  rfl

theorem feed_group (ready : reader.Ready) (fragment : Fragment text tree groups names) :
    reader.feed ('(' :: (text ++ [')'])) = .ok (reader.withGroup tree groups names) ∨
      (reader.feed ('(' :: (text ++ [')'])) = .error .repeatedGroupName ∧ reader.names ≠ []) := by
  have opening : reader.feed ('(' :: (text ++ [')'])) =
      (reader.openNumbered.within start).feed (text ++ [')']) := by
    rw [within_openNumbered_start ready]
    cases text with
    | nil => exact feed_groupStart ready (by decide)
    | cons char rest => exact feed_groupStart ready fragment.head_ne
  have after : reader.openNumbered.afterGroup
      ⟨.numbered (reader.groups + 1), reader.items, reader.branches, reader.spaced⟩ reader.stack
      tree groups names = reader.withGroup tree groups names := by
    simp only [afterGroup, Reader.withGroup, ready.item, ready.quiet]
    rfl
  rw [opening, ← after]
  exact feed_fragment _ fragment rfl

theorem readOn_parenthesised (reader : Reader) (text rest : List Char) :
    reader.readOn ('(' :: (text ++ ')' :: rest)) =
      reader.feed ('(' :: (text ++ [')'])) >>= fun after => after.readOn rest := by
  have split : '(' :: (text ++ ')' :: rest) = ('(' :: (text ++ [')'])) ++ rest := by simp
  rw [readOn, split, feed_append]
  cases reader.feed ('(' :: (text ++ [')'])) <;> rfl

/-- A reading that goes on after a group around a fragment. -/
theorem readOn_group (ready : reader.Ready) (fragment : Fragment text tree groups names)
    {rest : List Char} (success : reader.readOn ('(' :: (text ++ ')' :: rest)) = .ok result) :
    (reader.withGroup tree groups names).readOn rest = .ok result := by
  rw [readOn_parenthesised] at success
  rcases feed_group ready fragment with inside | ⟨inside, _⟩
  · rw [inside] at success
    exact success
  · rw [inside] at success
    cases success

/-! ## Literal text and blanks -/

def plain (char : Char) : Tree := .literal (.plain char)

theorem feed_escaped (ready : reader.Ready) (char : Char) :
    reader.feed (if Escape.metaChars.contains char then ['\\', char] else [char]) =
      .ok (reader.withItems [plain char]) := by
  have item := ready.item
  by_cases sign : Escape.metaChars.contains char = true
  · have escaped : Escape.step .start char = .ok (.inr (.literal (.plain char))) := by
      simp only [Escape.metaChars, List.contains_eq_mem, decide_eq_true_eq, List.mem_cons,
        List.not_mem_nil, or_false] at sign
      rcases sign with rfl | rfl | rfl | rfl | rfl | rfl | rfl | rfl | rfl | rfl | rfl | rfl |
        rfl | rfl | rfl | rfl | rfl | rfl <;> rfl
    rw [if_pos sign, feed_cons, ready.step]
    change Reader.step { reader with mode := .escape .start } char >>= _ = _
    rw [step_of_settled { reader with mode := .escape .start } ready.quiet ready.dense rfl]
    simp only [act, escaped]
    simp only [withItems, item]
    rfl
  · rw [if_neg sign, feed_cons, ready.step]
    have literal : reader.actItem char = .ok (reader.push (plain char)) := by
      unfold actItem
      split
      all_goals first | rfl | exact absurd rfl sign
    rw [literal]
    simp only [withItems, item]
    rfl

theorem feed_escape (ready : reader.Ready) (text : List Char) :
    reader.feed (text.flatMap fun char =>
        if Escape.metaChars.contains char then ['\\', char] else [char]) =
      .ok (reader.withItems (text.map plain)) := by
  induction text generalizing reader with
  | nil => rfl
  | cons char rest ih =>
      rw [List.flatMap_cons, feed_append, feed_escaped ready]
      change (reader.withItems [plain char]).feed _ = _
      rw [ih (ready.withItems _)]
      simp [Reader.withItems]

theorem Ready.repeatLast (ready : reader.Ready) (least : Nat) (most : Option Nat) (greedy : Bool) :
    (reader.repeatLast least most greedy).Ready := by
  obtain ⟨_, same⟩ := reader.repeatLast_eq least most greedy
  rw [same]
  exact ⟨rfl, ready.quiet, ready.dense⟩

theorem feed_quantified (ready : reader.Ready) {mark char : Char} {rest : List Char} {least : Nat}
    {most : Option Nat}
    (acts : reader.actItem mark = .ok { reader with mode := .quantified least most false })
    (head : char ≠ '?') :
    reader.feed (mark :: char :: rest) =
      (reader.repeatLast least most true).feed (char :: rest) := by
  have repeated := ready.repeatLast least most true
  have settled : Reader.settle { reader with mode := .quantified least most false } char =
      (reader.repeatLast least most true, false) := by
    rcases reader with ⟨_, _, _ | ⟨last, before⟩, _⟩ <;> simp [settle, head, Reader.repeatLast]
  have after : Reader.step { reader with mode := .quantified least most false } char =
      (reader.repeatLast least most true).actItem char := by
    unfold Reader.step
    rw [settled]
    simp [ready.quiet, repeated.dense, act, repeated.item]
  rw [feed_cons, ready.step, acts]
  change Reader.step { reader with mode := .quantified least most false } char >>= _ = _
  rw [after, feed_cons, repeated.step]
  rfl

def blankRun : Tree := .repeated 0 none true (.shorthand (.letter .blank) false)

theorem feed_blankRun (ready : reader.Ready) {char : Char} {rest : List Char} (head : char ≠ '?') :
    reader.feed ('\\' :: 's' :: '*' :: char :: rest) =
      (reader.withItems [blankRun]).feed (char :: rest) := by
  have item := ready.item
  have pushed : (reader.push (.shorthand (.letter .blank) false)).Ready := ⟨rfl, ready.quiet, ready.dense⟩
  have repeated : (reader.push (.shorthand (.letter .blank) false)).repeatLast 0 none true =
      reader.withItems [blankRun] := by
    simp only [Reader.withItems, item]
    rfl
  rw [feed_cons, ready.step]
  change Reader.step { reader with mode := .escape .start } 's' >>= _ = _
  rw [step_of_settled { reader with mode := .escape .start } ready.quiet ready.dense rfl]
  change (reader.push (.shorthand (.letter .blank) false)).feed ('*' :: char :: rest) = _
  rw [feed_quantified pushed rfl head, repeated]

theorem feed_bar (ready : reader.Ready) (rest : List Char) :
    reader.feed ('|' :: rest) = reader.alternate.feed rest := by
  rw [feed_cons, ready.step]
  rfl

/-! ## Patterns for whole texts -/

def wholeStart : Reader :=
  ⟨[⟨.scoped [], [.anchor .lineStart], [], false⟩], [], [], 0, [], false, false, .item⟩

theorem wholeStart_ready : wholeStart.Ready := ⟨rfl, rfl, rfl⟩

def wholeTree (body : Tree) : Tree :=
  .cat (.cat (.anchor .lineStart) (.scoped [] body)) (.anchor .lineEnd)

theorem nesting_wholeTree (body : Tree) : (wholeTree body).nesting = 2 + body.nesting := by
  simp only [wholeTree, Tree.nesting]
  omega

theorem readOn_end (item : reader.complete.mode = .item) (quiet : reader.comment = false)
    (opened : reader.complete.stack = wholeStart.stack) :
    reader.readOn [')', '$'] = .ok (wholeTree reader.complete.body) := by
  have quietAfter : reader.complete.comment = false := by rw [complete_comment, quiet]
  let outside : Reader := ⟨[], [], [.scoped [] reader.complete.body, .anchor .lineStart],
    reader.complete.groups, reader.complete.names, false, reader.complete.comment, .item⟩
  have ready : outside.Ready := ⟨rfl, quietAfter, rfl⟩
  have closed : reader.complete.closeGroup = .ok outside := by
    simp only [closeGroup, opened]
    rfl
  rw [readOn, feed_cons, step_close item quiet, closed]
  change outside.readOn ['$'] = _
  rw [readOn, feed_cons, ready.step]
  rfl

theorem Ready.readOn_end_eq (ready : reader.Ready) (opened : reader.stack = wholeStart.stack) :
    reader.readOn [')', '$'] = .ok (wholeTree reader.body) := by
  have same : reader.complete = reader := by
    unfold complete
    rw [ready.item]
  have whole := Reader.readOn_end (same.symm ▸ ready.item) ready.quiet (same.symm ▸ opened)
  rwa [same] at whole

theorem Ready.readOn_end (ready : reader.Ready) (opened : reader.stack = wholeStart.stack)
    (success : reader.readOn [')', '$'] = .ok result) : result = wholeTree reader.body :=
  Except.ok.inj (success.symm.trans (ready.readOn_end_eq opened))

theorem read_wholeText (pattern : String) :
    Tree.read (wholeText pattern).toList = (do
      let tree ← wholeStart.readOn (pattern.toList ++ [')', '$'])
      if tree.nesting ≤ nestingLimit then return tree else throw .tooNested) := by
  have written : (wholeText pattern).toList = "^(?:".toList ++ (pattern.toList ++ [')', '$']) := by
    simp [wholeText]
  rw [Tree.read, written, feed_append]
  change (wholeStart.feed _ >>= _) = _
  rw [readOn]
  cases wholeStart.feed (pattern.toList ++ [')', '$']) <;> rfl

/-- A fragment as a pattern for whole texts. -/
theorem read_wholeText_fragment {pattern : String}
    (fragment : Fragment pattern.toList tree groups names) :
    Tree.read (wholeText pattern).toList =
      if (wholeTree tree).nesting ≤ nestingLimit then .ok (wholeTree tree)
      else .error .tooNested := by
  have split : pattern.toList ++ [')', '$'] = (pattern.toList ++ [')']) ++ ['$'] := by simp
  rw [read_wholeText, readOn, split, feed_append]
  rcases feed_fragment wholeStart fragment rfl with fed | ⟨_, taken⟩
  · change wholeStart.feed _ = _ at fed
    rw [fed]
    have inner : tree.renumber wholeStart.groups = tree := tree.renumber_zero
    simp only [afterGroup, inner]
    rfl
  · exact absurd rfl taken

/-- Comments end with their line and pass over everything else. -/
theorem feed_comment (text : List Char) (comment : reader.comment = true)
    (oneLine : '\n' ∉ text) : reader.feed text = .ok reader := by
  induction text with
  | nil => rfl
  | cons char rest ih =>
      obtain ⟨other, later⟩ : ¬ '\n' = char ∧ '\n' ∉ rest := by simpa using oneLine
      have same : reader.step char = .ok reader := by
        have stays : (char != '\n') = reader.comment := by
          rw [comment]
          simpa using fun same => other same.symm
        unfold Reader.step
        rw [if_pos comment, stays]
      rw [feed_cons, same]
      exact ih later

theorem Tree.read_ok {text : List Char} {tree : Tree} (success : Tree.read text = .ok tree) :
    ∃ reader, start.feed text = .ok reader ∧ reader.finish = .ok tree ∧
      tree.nesting ≤ nestingLimit := by
  unfold Tree.read at success
  cases fed : start.feed text with
  | error flaw =>
      rw [fed] at success
      cases success
  | ok reader =>
      cases finished : reader.finish with
      | error flaw => simp [fed, finished, bind, Except.bind] at success
      | ok read =>
          simp only [fed, finished, bind, Except.bind] at success
          split at success
          · obtain rfl := Except.ok.inj success
            exact ⟨reader, rfl, finished, ‹_›⟩
          · cases success

/-- A pattern does not end where a group is still open. -/
theorem exists_finish_error (opened : reader.stack ≠ []) : ∃ flaw, reader.finish = .error flaw := by
  cases outcome : reader.finish with
  | error flaw => exact ⟨flaw, rfl⟩
  | ok tree =>
      have top := (complete_of_finish outcome).2.1
      rw [complete_stack] at top
      exact absurd top opened

/-- A pattern that reads on its own and as a pattern for whole texts is a fragment:
a comment at its end would hide the end of the larger pattern. -/
theorem exists_fragment {pattern : String} (alone : Tree.read pattern.toList = .ok tree)
    (whole : Tree.read (wholeText pattern).toList = .ok result) :
    ∃ groups names, Fragment pattern.toList tree groups names := by
  obtain ⟨reader, fed, finished, _⟩ := Tree.read_ok alone
  cases comment : reader.comment with
  | false => exact ⟨_, _, reader, fed, finished, comment, rfl, rfl⟩
  | true =>
      exfalso
      rcases follows_feed wholeStart _ reader fed with inside | ⟨_, taken⟩
      · change wholeStart.feed _ = _ at inside
        have ending : (wholeStart.within reader).feed [')', '$'] = .ok (wholeStart.within reader) :=
          feed_comment _ comment (by decide)
        have opened : (wholeStart.within reader).stack ≠ [] :=
          List.append_ne_nil_of_right_ne_nil _ (List.cons_ne_nil _ _)
        obtain ⟨flaw, unfinished⟩ := exists_finish_error opened
        rw [read_wholeText, readOn, feed_append, inside] at whole
        change ((wholeStart.within reader).feed [')', '$'] >>= finish) >>= _ = _ at whole
        rw [ending] at whole
        change (wholeStart.within reader).finish >>= _ = _ at whole
        rw [unfinished] at whole
        cases whole
      · exact absurd rfl taken

end Reader

end TextSchema.Pattern
