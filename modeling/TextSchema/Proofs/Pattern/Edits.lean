import TextSchema.Proofs.Pattern.Assembly

/-!
# What a character does to the reader

Reading one character makes at most a few of the edits below, whatever mode the
reader is in. What is written in a pattern, its groups and its flag changes, is
collected along these edits: groups come out numbered without gaps in the order of
their opening, and nothing is skipped unless the flag for it is set.
-/

set_option autoImplicit false

namespace TextSchema.Pattern

open TextSchema.Text

def Tree.isAtom : Tree → Bool
  | .literal _ | .dot | .shorthand _ _ | .bracket _ _ | .anchor _ => true
  | _ => false

namespace Reader

/-- The changes that reading can make. -/
inductive Edits : Reader → Reader → Prop where
  | refl (reader) : Edits reader reader
  | trans {first second third} : Edits first second → Edits second third → Edits first third
  | mode (reader) (mode : Mode) : Edits reader { reader with mode := mode }
  | comment (reader) (comment : Bool) :
      (comment = true → reader.comment = true ∨ reader.spaced = true) →
      Edits reader { reader with comment := comment }
  | push (reader) {item : Tree} : item.isAtom = true → Edits reader (reader.push item)
  | flags (reader) (changes : FlagChanges) :
      Edits reader { reader.push (.flags changes) with spaced := spacedAfter reader.spaced changes }
  | repeatLast (reader) (least : Nat) (most : Option Nat) (greedy : Bool) :
      Edits reader (reader.repeatLast least most greedy)
  | alternate (reader) : Edits reader reader.alternate
  | openScoped (reader) (changes : FlagChanges) :
      Edits reader (reader.openGroup (.scoped changes) (spacedAfter reader.spaced changes))
  | openNumbered (reader) : Edits reader reader.openNumbered
  | name (reader) {name : List Char} :
      name ∉ reader.names → Edits reader { reader with names := name :: reader.names }
  | closeGroup {reader next} : reader.closeGroup = .ok next → Edits reader next

variable {reader next : Reader} {char : Char}

theorem edits_actCounts {counts : Counts} (success : reader.actCounts counts char = .ok next) :
    Edits reader next := by
  rw [actCounts_eq] at success
  cases after : start.actCounts counts char with
  | error flaw =>
      rw [after] at success
      cases success
  | ok changed =>
      rw [after] at success
      obtain rfl := Except.ok.inj success
      exact .mode reader _

theorem edits_actName {reversed : List Char} (success : reader.actName reversed char = .ok next) :
    Edits reader next := by
  unfold actName at success
  dsimp only at success
  split at success
  · split at success
    · cases success
    · split at success
      · cases success
      · rename_i free
        have untaken : reversed.reverse ∉ reader.names := by simpa using free
        obtain rfl := Except.ok.inj success
        exact .trans (.openNumbered reader) (.name reader.openNumbered untaken)
  · split at success
    · obtain rfl := Except.ok.inj success
      exact .mode reader _
    · cases success

theorem edits_actFlags {flags : FlagReader} (success : reader.actFlags flags char = .ok next) :
    Edits reader next := by
  unfold actFlags at success
  dsimp only at success
  split at success
  · split at success
    · cases success
    · obtain rfl := Except.ok.inj success
      exact .openScoped reader _
  · split at success
    · cases success
    · obtain rfl := Except.ok.inj success
      exact .flags reader _
  · split at success
    · cases success
    · obtain rfl := Except.ok.inj success
      exact .mode reader _
  · split at success
    · split at success
      · cases success
      · obtain rfl := Except.ok.inj success
        exact .mode reader _
    · cases success

private theorem edits_quantify {mode : Mode}
    (success : (do reader.checkOperand; return { reader with mode := mode }) = Except.ok next) :
    Edits reader next := by
  cases operand : reader.checkOperand with
  | error flaw =>
      rw [operand] at success
      cases success
  | ok checked =>
      rw [operand] at success
      obtain rfl := Except.ok.inj success
      exact .mode reader mode

theorem edits_actItem (success : reader.actItem char = .ok next) : Edits reader next := by
  unfold actItem at success
  dsimp only at success
  split at success
  · obtain rfl := Except.ok.inj success
    exact .mode reader _
  · exact .closeGroup success
  · obtain rfl := Except.ok.inj success
    exact .alternate reader
  · obtain rfl := Except.ok.inj success
    exact .mode reader _
  · exact edits_quantify success
  · exact edits_quantify success
  · exact edits_quantify success
  · exact edits_quantify success
  · obtain rfl := Except.ok.inj success
    exact .mode reader _
  all_goals
    obtain rfl := Except.ok.inj success
    exact .push reader rfl

theorem edits_settle (reader : Reader) (char : Char) : Edits reader (reader.settle char).1 := by
  unfold settle
  split
  · split
    · exact .mode reader _
    · exact .push reader rfl
  · split
    · exact .refl reader
    · exact .trans (.push reader rfl) (.mode _ _)
  · split
    · exact .repeatLast reader _ _ _
    · split
      · exact .refl reader
      · exact .repeatLast reader _ _ _
  · exact .refl reader

theorem edits_act (success : reader.act char = .ok next) : Edits reader next := by
  unfold act at success
  split at success
  · exact edits_actItem success
  · rename_i escape _
    cases outcome : escape.step char with
    | error flaw =>
        rw [outcome] at success
        cases success
    | ok escaped =>
        rw [outcome] at success
        cases escaped with
        | inl more =>
          obtain rfl := Except.ok.inj success
          exact .mode reader _
        | inr part =>
          rcases part with literal | ⟨kind, negated⟩ | kind
          · obtain rfl := Except.ok.inj success
            exact .push reader rfl
          · obtain rfl := Except.ok.inj success
            exact .push reader rfl
          · cases kind
            case wordBoundary =>
              obtain rfl := Except.ok.inj success
              exact .mode reader _
            all_goals
              obtain rfl := Except.ok.inj success
              exact .push reader rfl
  · split at success
    · obtain rfl := Except.ok.inj success
      exact .mode reader _
    · split at success
      · split at success
        · obtain rfl := Except.ok.inj success
          exact .push reader rfl
        · cases success
      · cases success
  · exact edits_actCounts success
  · split at success
    · obtain rfl := Except.ok.inj success
      exact .mode reader _
    · exact .trans (.openNumbered reader) (edits_actItem success)
  · split at success
    · cases success
    · cases success
    · obtain rfl := Except.ok.inj success
      exact .mode reader _
    · obtain rfl := Except.ok.inj success
      exact .mode reader _
    · exact edits_actFlags success
  · split at success
    · obtain rfl := Except.ok.inj success
      exact .mode reader _
    · cases success
  · split at success
    · cases success
    · exact edits_actName success
  · exact edits_actName success
  · exact edits_actFlags success
  · rename_i classReader _
    cases outcome : classReader.step reader.spaced char with
    | error flaw =>
        rw [outcome] at success
        cases success
    | ok read =>
        rw [outcome] at success
        rcases read with more | ⟨negated, classBody⟩
        · obtain rfl := Except.ok.inj success
          exact .mode reader _
        · obtain rfl := Except.ok.inj success
          exact .push reader rfl
  · cases success
  · cases success

theorem edits_step (success : reader.step char = .ok next) : Edits reader next := by
  unfold step at success
  split at success
  · obtain rfl := Except.ok.inj success
    exact .comment reader _ fun _ => .inl ‹_›
  · have settled := edits_settle reader char
    revert success settled
    generalize reader.settle char = outcome
    obtain ⟨settled, consumed⟩ := outcome
    intro success before
    dsimp only at success before
    split at success
    · obtain rfl := Except.ok.inj success
      exact before
    · split at success
      · obtain rfl := Except.ok.inj success
        exact before
      · split at success
        · rename_i skipped
          have spaced : settled.spaced = true := by
            simp only [Bool.and_eq_true] at skipped
            exact skipped.1.1
          obtain rfl := Except.ok.inj success
          exact .trans before (.comment settled true fun _ => .inr spaced)
        · exact .trans before (edits_act success)

/-- All that reading a text does is edits. -/
theorem edits_feed {text : List Char} (success : reader.feed text = .ok next) :
    Edits reader next := by
  induction text generalizing reader with
  | nil =>
      obtain rfl := Except.ok.inj success
      exact .refl reader
  | cons char rest ih =>
      rw [feed_cons] at success
      cases first : reader.step char with
      | error flaw =>
          rw [first] at success
          cases success
      | ok middle =>
          rw [first] at success
          exact .trans (edits_step first) (ih success)

theorem edits_complete (reader : Reader) : Edits reader reader.complete := by
  unfold complete
  split
  · exact .repeatLast reader _ _ _
  · exact .push reader rfl
  · exact .refl reader

end Reader

/-! ## What is written -/

section Collect

variable {α : Type} (ofGroup : Nat → List α) (ofChanges : FlagChanges → List α)

/-- What is said of the numbered groups and of the flag changes of a tree, in the
order written. -/
def Tree.collect : Tree → List α
  | .flags changes => ofChanges changes
  | .group index body => ofGroup index ++ body.collect
  | .scoped changes body => ofChanges changes ++ body.collect
  | .repeated _ _ _ body => body.collect
  | .cat left right => left.collect ++ right.collect
  | .alt left right => left.collect ++ right.collect
  | _ => []

/-- What an open group adds to its contents. -/
def GroupKind.collect : GroupKind → List α
  | .numbered index => ofGroup index
  | .scoped changes => ofChanges changes

def collectAll (branches items : List Tree) : List α :=
  branches.reverse.flatMap (Tree.collect ofGroup ofChanges) ++
    items.reverse.flatMap (Tree.collect ofGroup ofChanges)

/-- What is collected before a group and from its opening. -/
def OpenGroup.collect (group : OpenGroup) : List α :=
  collectAll ofGroup ofChanges group.branches group.items ++ group.kind.collect ofGroup ofChanges

/-- What is collected from all that has been read. -/
def Reader.collect (reader : Reader) : List α :=
  reader.stack.reverse.flatMap (OpenGroup.collect ofGroup ofChanges) ++
    collectAll ofGroup ofChanges reader.branches reader.items

variable {ofGroup ofChanges}

private theorem collect_foldl (combine : Tree → Tree → Tree)
    (collects : ∀ left right, (combine left right).collect ofGroup ofChanges =
      left.collect ofGroup ofChanges ++ right.collect ofGroup ofChanges)
    (rest : List Tree) (first : Tree) :
    (rest.foldl combine first).collect ofGroup ofChanges =
      first.collect ofGroup ofChanges ++ rest.flatMap (Tree.collect ofGroup ofChanges) := by
  induction rest generalizing first with
  | nil => simp
  | cons second rest ih => rw [List.foldl_cons, ih, collects, List.flatMap_cons, List.append_assoc]

theorem Tree.collect_ofItems (items : List Tree) :
    (Tree.ofItems items).collect ofGroup ofChanges =
      items.flatMap (Tree.collect ofGroup ofChanges) := by
  cases items with
  | nil => rfl
  | cons first rest => exact collect_foldl .cat (fun _ _ => rfl) rest first

theorem Tree.collect_ofBranches (branches : List Tree) :
    (Tree.ofBranches branches).collect ofGroup ofChanges =
      branches.flatMap (Tree.collect ofGroup ofChanges) := by
  cases branches with
  | nil => rfl
  | cons first rest => exact collect_foldl .alt (fun _ _ => rfl) rest first

theorem Tree.collect_atom {item : Tree} (atom : item.isAtom = true) :
    item.collect ofGroup ofChanges = [] := by
  cases item with
  | literal | dot | shorthand | bracket | anchor => rfl
  | _ => cases atom

@[simp] theorem GroupKind.collect_wrap (kind : GroupKind) (body : Tree) :
    (kind.wrap body).collect ofGroup ofChanges =
      kind.collect ofGroup ofChanges ++ body.collect ofGroup ofChanges := by
  cases kind <;> rfl

namespace Reader

variable (reader : Reader)

theorem collect_body :
    reader.body.collect ofGroup ofChanges =
      collectAll ofGroup ofChanges reader.branches reader.items := by
  simp [body, Tree.collect_ofBranches, Tree.collect_ofItems, collectAll]

theorem collect_push (item : Tree) :
    (reader.push item).collect ofGroup ofChanges =
      reader.collect ofGroup ofChanges ++ item.collect ofGroup ofChanges := by
  simp [push, collect, collectAll]

theorem collect_repeatLast (least : Nat) (most : Option Nat) (greedy : Bool) :
    (reader.repeatLast least most greedy).collect ofGroup ofChanges =
      reader.collect ofGroup ofChanges := by
  unfold repeatLast
  split
  · rfl
  · rename_i items
    simp [collect, collectAll, items, Tree.collect]

theorem collect_alternate :
    reader.alternate.collect ofGroup ofChanges = reader.collect ofGroup ofChanges := by
  simp [alternate, collect, collectAll, Tree.collect_ofItems]

theorem collect_openGroup (kind : GroupKind) (spaced : Bool) :
    (reader.openGroup kind spaced).collect ofGroup ofChanges =
      reader.collect ofGroup ofChanges ++ kind.collect ofGroup ofChanges := by
  simp [openGroup, collect, collectAll, OpenGroup.collect]

variable {reader} {next : Reader}

theorem closeGroup_ok (closed : reader.closeGroup = .ok next) :
    ∃ group stack, reader.stack = group :: stack ∧
      next = {
        reader with
        stack := stack
        branches := group.branches
        items := group.kind.wrap reader.body :: group.items
        spaced := group.spaced
        mode := .item } := by
  unfold closeGroup at closed
  split at closed
  · cases closed
  · rename_i group stack opened
    obtain rfl := Except.ok.inj closed
    exact ⟨group, stack, opened, rfl⟩

theorem collect_closeGroup (closed : reader.closeGroup = .ok next) :
    next.collect ofGroup ofChanges = reader.collect ofGroup ofChanges := by
  obtain ⟨group, stack, opened, rfl⟩ := closeGroup_ok closed
  simp [collect, opened, collectAll, OpenGroup.collect, collect_body]

end Reader

end Collect

def Tree.groups (tree : Tree) : List Nat :=
  tree.collect (fun index => [index]) (fun _ => [])

def Tree.changes (tree : Tree) : FlagChanges :=
  tree.collect (fun _ => []) id

def Tree.skipsBlanks (tree : Tree) : Bool :=
  tree.changes.contains (.spaced, true)

namespace Reader

def opened (reader : Reader) : List Nat :=
  reader.collect (fun index => [index]) (fun _ => [])

def changes (reader : Reader) : FlagChanges :=
  reader.collect (fun _ => []) id

variable {reader next : Reader}

theorem Edits.opened_eq (edits : Edits reader next)
    (numbered : reader.opened = List.range' 1 reader.groups) :
    next.opened = List.range' 1 next.groups := by
  induction edits with
  | refl => exact numbered
  | trans _ _ firstIH secondIH => exact secondIH (firstIH numbered)
  | mode => exact numbered
  | comment => exact numbered
  | push reader atom =>
      rw [opened, collect_push, Tree.collect_atom atom, List.append_nil]
      exact numbered
  | flags reader changes =>
      change (reader.push _).collect _ _ = _
      rw [collect_push]
      change reader.opened ++ [] = _
      rw [List.append_nil]
      exact numbered
  | repeatLast reader least most greedy =>
      obtain ⟨_, same⟩ := reader.repeatLast_eq least most greedy
      rw [opened, collect_repeatLast, same]
      exact numbered
  | alternate reader =>
      rw [opened, collect_alternate]
      exact numbered
  | openScoped reader changes =>
      rw [opened, collect_openGroup]
      change reader.opened ++ [] = _
      rw [List.append_nil]
      exact numbered
  | openNumbered reader =>
      change (reader.openGroup (.numbered (reader.groups + 1)) reader.spaced).collect _ _ =
        List.range' 1 (reader.groups + 1)
      rw [collect_openGroup, List.range'_1_concat, ← numbered, Nat.add_comm 1]
      rfl
  | name => exact numbered
  | closeGroup closed =>
      rw [opened, collect_closeGroup closed]
      obtain ⟨group, stack, _, rfl⟩ := closeGroup_ok closed
      exact numbered

theorem Edits.changes_subset (edits : Edits reader next) : reader.changes ⊆ next.changes := by
  induction edits with
  | refl => exact List.Subset.refl _
  | trans _ _ firstIH secondIH => exact fun _ member => secondIH (firstIH member)
  | mode => exact List.Subset.refl _
  | comment => exact List.Subset.refl _
  | push reader _ =>
      rw [changes, changes, collect_push]
      exact List.subset_append_left _ _
  | flags reader changes =>
      change _ ⊆ (reader.push _).collect _ _
      rw [collect_push]
      exact List.subset_append_left _ _
  | repeatLast =>
      rw [changes, changes, collect_repeatLast]
      exact List.Subset.refl _
  | alternate =>
      rw [changes, changes, collect_alternate]
      exact List.Subset.refl _
  | openScoped =>
      rw [changes, changes, collect_openGroup]
      exact List.subset_append_left _ _
  | openNumbered reader =>
      change _ ⊆ (reader.openGroup (.numbered (reader.groups + 1)) reader.spaced).collect _ _
      rw [collect_openGroup]
      exact List.subset_append_left _ _
  | name => exact List.Subset.refl _
  | closeGroup closed =>
      rw [changes, changes, collect_closeGroup closed]
      exact List.Subset.refl _

/-- Nothing is skipped, neither here nor after any of the open groups. -/
structure Dense (reader : Reader) : Prop where
  spaced : reader.spaced = false
  comment : reader.comment = false
  outside : ∀ group ∈ reader.stack, group.spaced = false

theorem spacedAfter_eq_false {changes : FlagChanges} (unset : (.spaced, true) ∉ changes) :
    spacedAfter false changes = false := by
  unfold spacedAfter
  induction changes with
  | nil => rfl
  | cons change rest ih =>
      have first : change ≠ (.spaced, true) := fun same => unset (by rw [same]; exact .head _)
      have later : (Flag.spaced, true) ∉ rest := fun member => unset (.tail _ member)
      have stays : (if change.1 = .spaced then change.2 else false) = false := by
        obtain ⟨flag, value⟩ := change
        cases value with
        | false => exact ite_self _
        | true => exact if_neg fun same => first (by rw [← same])
      rw [List.foldl_cons, stays]
      exact ih later

theorem Edits.dense (edits : Edits reader next) (unset : (.spaced, true) ∉ next.changes)
    (dense : reader.Dense) : next.Dense := by
  induction edits with
  | refl => exact dense
  | trans _ second firstIH secondIH =>
      exact secondIH unset (firstIH (fun member => unset (second.changes_subset member)) dense)
  | mode => exact ⟨dense.spaced, dense.comment, dense.outside⟩
  | comment reader comment allowed =>
      refine ⟨dense.spaced, ?_, dense.outside⟩
      cases comment with
      | false => rfl
      | true => simp [dense.spaced, dense.comment] at allowed
  | push => exact ⟨dense.spaced, dense.comment, dense.outside⟩
  | flags reader changes =>
      refine ⟨?_, dense.comment, dense.outside⟩
      rw [dense.spaced]
      apply spacedAfter_eq_false
      intro member
      apply unset
      change _ ∈ (reader.push (.flags changes)).collect _ _
      rw [collect_push]
      exact List.mem_append_right _ member
  | repeatLast reader least most greedy =>
      obtain ⟨_, same⟩ := reader.repeatLast_eq least most greedy
      rw [same]
      exact ⟨dense.spaced, dense.comment, dense.outside⟩
  | alternate => exact ⟨dense.spaced, dense.comment, dense.outside⟩
  | openScoped reader changes =>
      refine ⟨?_, dense.comment, ?_⟩
      · change spacedAfter reader.spaced changes = false
        rw [dense.spaced]
        apply spacedAfter_eq_false
        intro member
        apply unset
        rw [Reader.changes, collect_openGroup]
        exact List.mem_append_right _ member
      · intro group given
        rcases given with _ | ⟨_, outer⟩
        · exact dense.spaced
        · exact dense.outside group outer
  | openNumbered reader =>
      refine ⟨dense.spaced, dense.comment, ?_⟩
      intro group given
      rcases given with _ | ⟨_, outer⟩
      · exact dense.spaced
      · exact dense.outside group outer
  | name => exact ⟨dense.spaced, dense.comment, dense.outside⟩
  | closeGroup closed =>
      obtain ⟨group, stack, opened, rfl⟩ := closeGroup_ok closed
      refine ⟨dense.outside group ?_, dense.comment, ?_⟩
      · rw [opened]
        exact .head _
      · intro outer member
        apply dense.outside outer
        rw [opened]
        exact .tail _ member

/-- No name is given to two groups. -/
theorem Edits.nodup_names (edits : Edits reader next) (nodup : reader.names.Nodup) :
    next.names.Nodup := by
  induction edits with
  | trans _ _ firstIH secondIH => exact secondIH (firstIH nodup)
  | repeatLast reader least most greedy =>
      obtain ⟨_, same⟩ := reader.repeatLast_eq least most greedy
      rw [same]
      exact nodup
  | name _ free => exact List.nodup_cons.mpr ⟨free, nodup⟩
  | closeGroup closed =>
      obtain ⟨_, _, _, rfl⟩ := closeGroup_ok closed
      exact nodup
  | refl | mode | comment | push | flags | alternate | openScoped | openNumbered => exact nodup

/-! ## Fragments -/

variable {text : List Char} {tree : Tree} {groups : Nat} {names : List (List Char)}

theorem start_numbered : start.opened = List.range' 1 start.groups := rfl

theorem start_dense : start.Dense := ⟨rfl, rfl, List.forall_mem_nil _⟩

private theorem collect_of_top {α : Type} {ofGroup : Nat → List α}
    {ofChanges : FlagChanges → List α} {reader : Reader} (top : reader.stack = []) :
    reader.collect ofGroup ofChanges = reader.body.collect ofGroup ofChanges := by
  rw [collect_body, collect, top]
  rfl

/-- The groups of a fragment are numbered from one on. -/
theorem Fragment.groups_eq (fragment : Fragment text tree groups names) :
    tree.groups = List.range' 1 groups := by
  obtain ⟨reader, fed, finished, _, rfl, _⟩ := fragment
  obtain ⟨_, top, rfl⟩ := complete_of_finish finished
  have edits : Edits start reader.complete := .trans (edits_feed fed) reader.edits_complete
  have numbered := edits.opened_eq start_numbered
  rw [opened, collect_of_top top, complete_groups] at numbered
  exact numbered

/-- A pattern that nowhere skips blanks is a fragment. -/
theorem fragment_of_read (success : Tree.read text = .ok tree)
    (dense : tree.skipsBlanks = false) :
    ∃ groups names, Fragment text tree groups names := by
  obtain ⟨reader, fed, finished, _⟩ := Tree.read_ok success
  obtain ⟨_, top, same⟩ := complete_of_finish finished
  have edits : Edits start reader.complete := .trans (edits_feed fed) reader.edits_complete
  have unset : (.spaced, true) ∉ reader.complete.changes := by
    rw [changes, collect_of_top top, same]
    simpa [Tree.skipsBlanks, Tree.changes] using dense
  have quiet := (edits.dense unset start_dense).comment
  rw [complete_comment] at quiet
  exact ⟨_, _, reader, fed, finished, quiet, rfl, rfl⟩

end Reader

end TextSchema.Pattern
