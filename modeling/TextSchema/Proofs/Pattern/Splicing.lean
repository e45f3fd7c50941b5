import TextSchema.Proofs.Pattern.Renumbering

/-!
# Fragments inside patterns

A fragment that is a pattern of its own is read in the same steps between the
parentheses of a larger pattern. What was read before it only adds to the group
numbers, to the open groups and to the names that are taken.
-/

set_option autoImplicit false

namespace TextSchema.Pattern

open TextSchema.Text

def GroupKind.renumber (offset : Nat) : GroupKind → GroupKind
  | .numbered index => .numbered (offset + index)
  | .scoped changes => .scoped changes

def OpenGroup.renumber (offset : Nat) (group : OpenGroup) : OpenGroup :=
  ⟨group.kind.renumber offset, group.items.map (Tree.renumber offset),
    group.branches.map (Tree.renumber offset), group.spaced⟩

@[simp] theorem GroupKind.renumber_wrap (offset : Nat) (kind : GroupKind) (body : Tree) :
    (kind.wrap body).renumber offset = (kind.renumber offset).wrap (body.renumber offset) := by
  cases kind <;> rfl

private theorem renumber_foldl (offset : Nat) (combine : Tree → Tree → Tree)
    (commutes : ∀ left right, (combine left right).renumber offset =
      combine (left.renumber offset) (right.renumber offset))
    (rest : List Tree) (first : Tree) :
    (rest.foldl combine first).renumber offset =
      (rest.map (Tree.renumber offset)).foldl combine (first.renumber offset) := by
  induction rest generalizing first with
  | nil => rfl
  | cons second rest ih => rw [List.foldl_cons, ih, commutes, List.map_cons, List.foldl_cons]

theorem Tree.renumber_ofItems (offset : Nat) (items : List Tree) :
    (Tree.ofItems items).renumber offset = .ofItems (items.map (Tree.renumber offset)) := by
  cases items with
  | nil => rfl
  | cons first rest => exact renumber_foldl offset .cat (fun _ _ => rfl) rest first

theorem Tree.renumber_ofBranches (offset : Nat) (branches : List Tree) :
    (Tree.ofBranches branches).renumber offset =
      .ofBranches (branches.map (Tree.renumber offset)) := by
  cases branches with
  | nil => rfl
  | cons first rest => exact renumber_foldl offset .alt (fun _ _ => rfl) rest first

namespace Reader

/-- The reader of a fragment inside what was read before it. -/
def within (outer inner : Reader) : Reader where
  stack := inner.stack.map (OpenGroup.renumber outer.groups) ++ outer.stack
  branches := inner.branches.map (Tree.renumber outer.groups)
  items := inner.items.map (Tree.renumber outer.groups)
  groups := outer.groups + inner.groups
  names := inner.names ++ outer.names
  spaced := inner.spaced
  comment := inner.comment
  mode := inner.mode

/-- The reading inside does what the reading alone does, unless a name is taken. -/
def Follows (outer : Reader) (alone inside : Except Flaw Reader) : Prop :=
  ∀ inner, alone = .ok inner →
    inside = .ok (outer.within inner) ∨
      (inside = .error .repeatedGroupName ∧ outer.names ≠ [])

variable {outer inner : Reader}

theorem Follows.ok {alone : Reader} : outer.Follows (.ok alone) (.ok (outer.within alone)) := by
  intro inner success
  cases success
  exact .inl rfl

theorem Follows.error {flaw : Flaw} {inside : Except Flaw Reader} :
    outer.Follows (.error flaw) inside := by
  intro inner success
  cases success

theorem Follows.bind {alone inside : Except Flaw Reader} {next other : Reader → Except Flaw Reader}
    (first : outer.Follows alone inside)
    (then_ : ∀ inner, outer.Follows (next inner) (other (outer.within inner))) :
    outer.Follows (alone >>= next) (inside >>= other) := by
  intro result success
  cases alone with
  | error flaw => cases success
  | ok inner =>
      rcases first inner rfl with rfl | ⟨rfl, taken⟩
      · exact then_ inner result success
      · exact .inr ⟨rfl, taken⟩

@[simp] theorem within_body : (outer.within inner).body = inner.body.renumber outer.groups := by
  simp [body, within, Tree.renumber_ofBranches, Tree.renumber_ofItems]

theorem within_repeatLast (least : Nat) (most : Option Nat) (greedy : Bool) :
    outer.within (inner.repeatLast least most greedy) =
      (outer.within inner).repeatLast least most greedy := by
  rcases inner with ⟨_, _, _ | ⟨last, before⟩, _⟩ <;> rfl

theorem within_alternate : outer.within inner.alternate = (outer.within inner).alternate := by
  simp [within, alternate, Tree.renumber_ofItems]

theorem within_openNumbered :
    outer.within inner.openNumbered = (outer.within inner).openNumbered := rfl

theorem within_checkOperand : (outer.within inner).checkOperand = inner.checkOperand := by
  rcases inner with ⟨_, _, _ | ⟨last, before⟩, _⟩
  · rfl
  · cases last <;> rfl

theorem follows_closeGroup :
    outer.Follows inner.closeGroup (outer.within inner).closeGroup := by
  rcases inner with ⟨_ | ⟨group, stack⟩, branches, items, groups, names, spaced, comment, mode⟩
  · exact .error
  · intro inner success
    cases success
    refine .inl ?_
    simp only [closeGroup, within_body]
    simp [within, OpenGroup.renumber]

theorem actCounts_eq (reader : Reader) (counts : Counts) (char : Char) :
    reader.actCounts counts char =
      (start.actCounts counts char).map fun after => { reader with mode := after.mode } := by
  cases counts with
  | least value complete =>
      simp only [actCounts]
      split
      · split
        · rfl
        · cases addDigit value _ <;> rfl
      · split
        · rfl
        · split
          · rfl
          · split
            · rfl
            · split <;> rfl
  | most least value blank complete =>
      simp only [actCounts]
      split
      · split
        · rfl
        · cases addDigit value _ <;> rfl
      · split
        · rfl
        · split
          · split
            · split <;> rfl
            · split <;> rfl
          · rfl

theorem follows_actCounts (counts : Counts) (char : Char) :
    outer.Follows (inner.actCounts counts char) ((outer.within inner).actCounts counts char) := by
  rw [actCounts_eq inner, actCounts_eq (outer.within inner)]
  cases start.actCounts counts char with
  | error flaw => exact .error
  | ok after => exact .ok

theorem follows_actName (reversed : List Char) (char : Char) :
    outer.Follows (inner.actName reversed char) ((outer.within inner).actName reversed char) := by
  unfold actName
  split
  · dsimp only
    split
    · exact .error
    · by_cases taken : inner.names.contains reversed.reverse = true
      · rw [if_pos taken]
        exact .error
      · by_cases outside : outer.names.contains reversed.reverse = true
        · intro _ _
          refine .inr ⟨if_pos ?_, ?_⟩
          · simp only [within, List.contains_eq_mem, decide_eq_true_eq] at outside ⊢
            exact List.mem_append_right _ outside
          · intro empty
            simp [empty] at outside
        · have free : ((outer.within inner).names.contains reversed.reverse) = false := by
            simp only [within, List.contains_eq_mem, decide_eq_true_eq] at taken outside ⊢
            simpa using ⟨taken, outside⟩
          rw [if_neg taken, free]
          exact .ok
  · split
    · exact .ok
    · exact .error

theorem follows_actFlags (flags : FlagReader) (char : Char) :
    outer.Follows (inner.actFlags flags char) ((outer.within inner).actFlags flags char) := by
  unfold actFlags
  dsimp only
  split
  · split
    · exact .error
    · exact .ok
  · split
    · exact .error
    · exact .ok
  · split
    · exact .error
    · exact .ok
  · split
    · split
      · exact .error
      · exact .ok
    · exact .error

theorem follows_quantify (mode : Mode) :
    outer.Follows (do inner.checkOperand; return { inner with mode := mode })
      (do (outer.within inner).checkOperand; return { outer.within inner with mode := mode }) := by
  rw [within_checkOperand]
  cases inner.checkOperand with
  | error flaw => exact .error
  | ok operand => exact .ok

theorem follows_actItem (char : Char) :
    outer.Follows (inner.actItem char) ((outer.within inner).actItem char) := by
  unfold actItem
  split
  · exact .ok
  · exact follows_closeGroup
  · rw [← within_alternate]
    exact .ok
  · exact .ok
  · exact follows_quantify _
  · exact follows_quantify _
  · exact follows_quantify _
  · exact follows_quantify _
  · exact .ok
  · exact .ok
  · exact .ok
  · exact .ok
  · exact .ok

theorem within_settle (char : Char) :
    (outer.within inner).settle char =
      (outer.within (inner.settle char).1, (inner.settle char).2) := by
  have mode : (outer.within inner).mode = inner.mode := rfl
  have spaced : (outer.within inner).spaced = inner.spaced := rfl
  unfold settle
  rw [mode, spaced]
  split
  · split <;> rfl
  · split <;> rfl
  · rw [← within_repeatLast, ← within_repeatLast]
    split
    · rfl
    · split <;> rfl
  · rfl

theorem follows_act (char : Char) :
    outer.Follows (inner.act char) ((outer.within inner).act char) := by
  have mode : (outer.within inner).mode = inner.mode := rfl
  unfold act
  rw [mode]
  split
  · exact follows_actItem char
  · cases Escape.step _ char with
    | error flaw => exact .error
    | ok outcome =>
        cases outcome with
        | inl more => exact .ok
        | inr part =>
          rcases part with literal | ⟨kind, negated⟩ | kind
          · exact .ok
          · exact .ok
          · cases kind <;> exact .ok
  · split
    · exact .ok
    · split
      · split
        · exact .ok
        · exact .error
      · exact .error
  · exact follows_actCounts _ char
  · split
    · exact .ok
    · rw [← within_openNumbered]
      exact follows_actItem char
  · split
    · exact .error
    · exact .error
    · exact .ok
    · exact .ok
    · exact follows_actFlags _ char
  · split
    · exact .ok
    · exact .error
  · split
    · exact .error
    · exact follows_actName _ char
  · exact follows_actName _ char
  · exact follows_actFlags _ char
  · have spaced : (outer.within inner).spaced = inner.spaced := rfl
    rw [spaced]
    cases ClassReader.step inner.spaced _ char with
    | error flaw => exact .error
    | ok outcome =>
        rcases outcome with more | ⟨negated, classBody⟩
        · exact .ok
        · exact .ok
  · exact .error
  · exact .error

theorem follows_step (char : Char) :
    outer.Follows (inner.step char) ((outer.within inner).step char) := by
  have comment : (outer.within inner).comment = inner.comment := rfl
  unfold step
  rw [comment, within_settle]
  split
  · exact .ok
  · generalize inner.settle char = outcome
    obtain ⟨settled, consumed⟩ := outcome
    have spaced : (outer.within settled).spaced = settled.spaced := rfl
    have blanks : (outer.within settled).skipsBlanks = settled.skipsBlanks := rfl
    dsimp only
    rw [spaced, blanks]
    split
    · exact .ok
    · split
      · exact .ok
      · split
        · exact .ok
        · exact follows_act char

theorem feed_cons (reader : Reader) (char : Char) (rest : List Char) :
    reader.feed (char :: rest) = reader.step char >>= fun next => next.feed rest := rfl

theorem feed_append (reader : Reader) (first second : List Char) :
    reader.feed (first ++ second) = reader.feed first >>= fun middle => middle.feed second := by
  simp [feed, List.foldlM_append]

theorem follows_feed (outer : Reader) (text : List Char) :
    outer.Follows (inner.feed text) ((outer.within inner).feed text) := by
  induction text generalizing inner with
  | nil => exact .ok
  | cons char rest ih => exact .bind (follows_step char) fun _ => ih

/-! ## Fragments -/

/-- The reader once nothing more is waited for that could change its last item. -/
def complete (reader : Reader) : Reader :=
  match reader.mode with
  | .quantified least most _ => reader.repeatLast least most true
  | .boundary => reader.push (.anchor .wordBoundary)
  | _ => reader

theorem repeatLast_eq (reader : Reader) (least : Nat) (most : Option Nat) (greedy : Bool) :
    ∃ items, reader.repeatLast least most greedy =
      { reader with items := items, mode := .item } := by
  unfold repeatLast
  split
  · exact ⟨_, rfl⟩
  · exact ⟨_, rfl⟩

theorem repeatLast_mode (reader : Reader) (least : Nat) (most : Option Nat) (greedy : Bool) :
    (reader.repeatLast least most greedy).mode = .item := by
  obtain ⟨_, same⟩ := reader.repeatLast_eq least most greedy
  rw [same]

theorem complete_eq (reader : Reader) :
    ∃ items mode, reader.complete = { reader with items := items, mode := mode } := by
  unfold complete
  split
  · obtain ⟨items, same⟩ := reader.repeatLast_eq _ _ true
    exact ⟨items, .item, same⟩
  · exact ⟨_, _, rfl⟩
  · exact ⟨_, _, rfl⟩

theorem complete_stack (reader : Reader) : reader.complete.stack = reader.stack := by
  obtain ⟨_, _, same⟩ := reader.complete_eq
  rw [same]

theorem complete_groups (reader : Reader) : reader.complete.groups = reader.groups := by
  obtain ⟨_, _, same⟩ := reader.complete_eq
  rw [same]

theorem complete_names (reader : Reader) : reader.complete.names = reader.names := by
  obtain ⟨_, _, same⟩ := reader.complete_eq
  rw [same]

theorem complete_comment (reader : Reader) : reader.complete.comment = reader.comment := by
  obtain ⟨_, _, same⟩ := reader.complete_eq
  rw [same]

theorem step_of_item {reader : Reader} {char : Char} (item : reader.mode = .item)
    (quiet : reader.comment = false) (solid : isBlank char = false) (sign : char ≠ '#') :
    reader.step char = reader.actItem char := by
  simp [step, quiet, settle, item, solid, sign, act]

theorem step_close {reader : Reader} (item : reader.complete.mode = .item)
    (quiet : reader.comment = false) : reader.step ')' = reader.complete.closeGroup := by
  have solid : isBlank ')' = false := by decide
  cases mode : reader.mode with
  | item =>
      rw [step_of_item mode quiet solid (by decide), complete, mode]
      rfl
  | quantified least most gap =>
      simp [step, quiet, settle, mode, solid, act, repeatLast_mode, complete, actItem]
  | boundary =>
      simp [step, quiet, settle, mode, solid, act, push, complete, actItem]
  | _ =>
      rw [complete, mode] at item
      rw [mode] at item
      cases item

private theorem closed_of_ok {reader : Reader} {tree : Tree}
    (success : (match reader.stack with
      | [] => pure reader.body
      | _ :: _ => throw .unclosedGroup : Except Flaw Tree) = .ok tree) :
    reader.stack = [] ∧ reader.body = tree := by
  cases stack : reader.stack with
  | nil =>
      rw [stack] at success
      exact ⟨rfl, Except.ok.inj success⟩
  | cons group rest =>
      rw [stack] at success
      cases success

theorem complete_of_finish {reader : Reader} {tree : Tree} (success : reader.finish = .ok tree) :
    reader.complete.mode = .item ∧ reader.complete.stack = [] ∧ reader.complete.body = tree := by
  unfold finish at success
  unfold complete
  cases mode : reader.mode with
  | item =>
      rw [mode] at success
      exact ⟨mode, closed_of_ok success⟩
  | quantified least most gap =>
      rw [mode] at success
      exact ⟨repeatLast_mode .., closed_of_ok success⟩
  | boundary =>
      rw [mode] at success
      exact ⟨rfl, closed_of_ok success⟩
  | _ =>
      rw [mode] at success
      cases success

theorem within_complete : (outer.within inner).complete = outer.within inner.complete := by
  have mode : (outer.within inner).mode = inner.mode := rfl
  unfold complete
  rw [mode]
  split
  · rw [within_repeatLast]
  · rfl
  · rfl

/-- A fragment that reads as a tree on its own, with its numbered groups and its
names, the last one first, and does not end inside a comment. -/
def Fragment (text : List Char) (tree : Tree) (groups : Nat) (names : List (List Char)) : Prop :=
  ∃ reader, start.feed text = .ok reader ∧ reader.finish = .ok tree ∧
    reader.comment = false ∧ reader.groups = groups ∧ reader.names = names

def afterGroup (outer : Reader) (group : OpenGroup) (stack : List OpenGroup) (tree : Tree)
    (groups : Nat) (names : List (List Char)) : Reader :=
  ⟨stack, group.branches, group.kind.wrap (tree.renumber outer.groups) :: group.items,
    outer.groups + groups, names ++ outer.names, group.spaced, false, .item⟩

theorem feed_fragment (outer : Reader) {text : List Char} {tree : Tree} {groups : Nat}
    {names : List (List Char)} (fragment : Fragment text tree groups names) {group : OpenGroup} {stack : List OpenGroup}
    (opened : outer.stack = group :: stack) :
    (outer.within start).feed (text ++ [')']) =
        .ok (outer.afterGroup group stack tree groups names) ∨
      ((outer.within start).feed (text ++ [')']) = .error .repeatedGroupName ∧
        outer.names ≠ []) := by
  obtain ⟨reader, fed, finished, quiet, rfl, rfl⟩ := fragment
  obtain ⟨item, top, rfl⟩ := complete_of_finish finished
  rw [feed_append]
  rcases follows_feed outer text reader fed with inside | ⟨inside, taken⟩
  · left
    have closed : (outer.within reader).step ')' = (outer.within reader).complete.closeGroup := by
      refine step_close ?_ quiet
      rw [within_complete]
      exact item
    rw [inside]
    change (outer.within reader).step ')' >>= _ = _
    rw [closed, within_complete]
    simp only [closeGroup, within_body]
    simp only [within, afterGroup, top, opened, complete_groups, complete_names, complete_comment,
      quiet]
    rfl
  · exact .inr ⟨by rw [inside]; rfl, taken⟩

end Reader

end TextSchema.Pattern
