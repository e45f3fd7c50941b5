import Mathlib.Data.List.Forall2
import TextSchema.Proofs.Pattern.Preference

/-!
# Fragments next to each other

Larger patterns put each of their fragments into a group of its own. Such parts
are lowered one by one: none of them changes the flags for the next, and each
keeps the expression it has alone, with its groups renumbered.
-/

set_option autoImplicit false

namespace TextSchema.Pattern

open List (Forall₂)

def Tree.isClosed : Tree → Bool
  | .group _ _ | .scoped _ _ => true
  | .repeated _ _ _ body => body.isClosed
  | tree => tree.takesOne

theorem Tree.isClosed_of_mem_plain {text : List Char} {tree : Tree}
    (member : tree ∈ text.map Reader.plain) : tree.isClosed = true := by
  obtain ⟨char, _, rfl⟩ := List.mem_map.mp member
  rfl

/-- A tree stands for one expression, with the same flags before and after it. -/
def Tree.Stands (now : Flags) (tree : Tree) (expr : Expr) : Prop :=
  tree.alternatives now = .ok ([expr], now)

theorem Tree.stands_of_closed {tree : Tree} {now after : Flags} {branches : List Expr}
    (closed : tree.isClosed = true) (lowered : tree.alternatives now = .ok (branches, after)) :
    after = now ∧ ∃ expr, branches = [expr] := by
  have derived := tree.lowers lowered
  clear lowered
  induction derived with
  | one | group | «scoped» => exact ⟨rfl, _, rfl⟩
  | repeated _ ih => exact ⟨(ih closed).1, _, rfl⟩
  | empty | anchor | flags | cat | alt => cases closed

namespace Tree

variable {trees : List Tree} {now after : Flags} {branches : List Expr}

private theorem alternatives_foldl_alt {first : Tree} (closed : ∀ tree ∈ trees, tree.isClosed = true)
    (lowered : (trees.foldl alt first).alternatives now = .ok (branches, after)) :
    ∃ firsts exprs, first.alternatives now = .ok (firsts, after) ∧
      Forall₂ (Stands after) trees exprs ∧ branches = firsts ++ exprs := by
  induction trees generalizing first with
  | nil => exact ⟨branches, [], lowered, .nil, (List.append_nil _).symm⟩
  | cons second rest ih =>
      obtain ⟨firsts, exprs, ofBoth, ofRest, rfl⟩ :=
        ih (fun tree member => closed tree (.tail _ member)) lowered
      obtain ⟨lefts, between, rights, ofFirst, ofSecond, rfl⟩ := alternatives_alt_ok ofBoth
      obtain ⟨rfl, expr, rfl⟩ := stands_of_closed (closed second (.head _)) ofSecond
      exact ⟨lefts, expr :: exprs, ofFirst, .cons ofSecond ofRest, by simp⟩

theorem alternatives_ofBranches {first : Tree} (closedFirst : first.isClosed = true)
    (closed : ∀ tree ∈ trees, tree.isClosed = true)
    (lowered : (ofBranches (first :: trees)).alternatives now = .ok (branches, after)) :
    after = now ∧ Forall₂ (Stands now) (first :: trees) branches := by
  obtain ⟨firsts, exprs, ofFirst, ofRest, rfl⟩ := alternatives_foldl_alt closed lowered
  obtain ⟨rfl, expr, rfl⟩ := stands_of_closed closedFirst ofFirst
  exact ⟨rfl, .cons ofFirst ofRest⟩

private theorem alternatives_foldl_cat {first : Tree} (closed : ∀ tree ∈ trees, tree.isClosed = true)
    (lowered : (trees.foldl cat first).alternatives now = .ok (branches, after)) :
    ∃ firsts exprs, first.alternatives now = .ok (firsts, after) ∧
      Forall₂ (Stands after) trees exprs ∧
      Expr.choice branches = exprs.foldl Expr.concat (.choice firsts) := by
  induction trees generalizing first with
  | nil => exact ⟨branches, [], lowered, .nil, rfl⟩
  | cons second rest ih =>
      obtain ⟨firsts, exprs, ofBoth, ofRest, same⟩ :=
        ih (fun tree member => closed tree (.tail _ member)) lowered
      obtain ⟨lefts, between, rights, ofFirst, ofSecond, rfl⟩ := alternatives_cat_ok ofBoth
      obtain ⟨rfl, expr, rfl⟩ := stands_of_closed (closed second (.head _)) ofSecond
      exact ⟨lefts, expr :: exprs, ofFirst, .cons ofSecond ofRest, same⟩

theorem alternatives_ofItems (closed : ∀ tree ∈ trees, tree.isClosed = true)
    (lowered : (ofItems trees).alternatives now = .ok (branches, after)) :
    ∃ exprs, Forall₂ (Stands now) trees exprs ∧
      Expr.choice branches = exprs.foldl Expr.concat .empty := by
  cases trees with
  | nil =>
      cases lowered
      exact ⟨[], .nil, rfl⟩
  | cons first rest =>
      obtain ⟨firsts, exprs, ofFirst, ofRest, same⟩ :=
        alternatives_foldl_cat (fun tree member => closed tree (.tail _ member)) lowered
      obtain ⟨rfl, expr, rfl⟩ := stands_of_closed (closed first (.head _)) ofFirst
      exact ⟨expr :: exprs, .cons ofFirst ofRest, same⟩

/-- Items that stand for one expression each stand for the concatenation of these. -/
theorem stands_ofItems {exprs : List Expr} (stands : Forall₂ (Stands now) trees exprs) :
    (ofItems trees).Stands now (exprs.foldl Expr.concat .empty) := by
  have further : ∀ {first : Tree} {expr : Expr} {trees : List Tree} {exprs : List Expr},
      first.Stands now expr → Forall₂ (Stands now) trees exprs →
      (trees.foldl cat first).Stands now (exprs.foldl Expr.concat expr) := by
    intro first expr trees exprs ofFirst stands
    induction stands generalizing first expr with
    | nil => exact ofFirst
    | cons here _ ih => exact ih (alternatives_cat_eq ofFirst here)
  cases stands with
  | nil => rfl
  | cons here later =>
      rw [List.foldl_cons]
      exact further here later

theorem exists_alternatives_ofItems {exprs : List Expr} (stands : Forall₂ (Stands now) trees exprs) :
    ∃ branches, (ofItems trees).alternatives now = .ok (branches, now) ∧
      Expr.choice branches = exprs.foldl Expr.concat .empty :=
  ⟨_, stands_ofItems stands, rfl⟩

/-- Alternatives that stand for one expression each stand for all of these. -/
theorem alternatives_ofBranches_eq {exprs : List Expr} (some_ : trees ≠ [])
    (stands : Forall₂ (Stands now) trees exprs) :
    (ofBranches trees).alternatives now = .ok (exprs, now) := by
  have further : ∀ {first : Tree} {firsts exprs : List Expr} {trees : List Tree},
      first.alternatives now = .ok (firsts, now) → Forall₂ (Stands now) trees exprs →
      (trees.foldl alt first).alternatives now = .ok (firsts ++ exprs, now) := by
    intro first firsts exprs trees ofFirst stands
    induction stands generalizing first firsts with
    | nil => rwa [List.append_nil]
    | @cons second expr rest exprs here _ ih =>
        have both : (alt first second).alternatives now = .ok (firsts ++ [expr], now) :=
          alternatives_alt_eq ofFirst here
        rw [List.foldl_cons, ih both, List.append_assoc, List.singleton_append]
  cases stands with
  | nil => exact absurd rfl some_
  | cons here later => exact further here later

private theorem nesting_le_foldl {combine : Tree → Tree → Tree}
    (covers : ∀ left right, left.nesting ≤ (combine left right).nesting ∧
      right.nesting ≤ (combine left right).nesting) (first : Tree) :
    ∀ tree ∈ first :: trees, tree.nesting ≤ (trees.foldl combine first).nesting := by
  induction trees generalizing first with
  | nil =>
      intro tree member
      rw [List.mem_singleton.mp member]
      exact Nat.le_refl _
  | cons second rest ih =>
      have both := ih (combine first second) _ (.head _)
      intro tree member
      cases List.mem_cons.mp member with
      | inl same =>
        subst same
        exact Nat.le_trans (covers tree second).1 both
      | inr later =>
        cases List.mem_cons.mp later with
        | inl same =>
          subst same
          exact Nat.le_trans (covers first tree).2 both
        | inr last => exact ih (combine first second) tree (.tail _ last)

theorem nesting_le_ofBranches : ∀ tree ∈ trees, tree.nesting ≤ (ofBranches trees).nesting := by
  cases trees with
  | nil => exact List.forall_mem_nil _
  | cons first rest =>
      refine nesting_le_foldl (fun left right => ?_) first
      cases left <;> simp only [nesting] <;> omega

theorem nesting_le_ofItems : ∀ tree ∈ trees, tree.nesting ≤ (ofItems trees).nesting := by
  cases trees with
  | nil => exact List.forall_mem_nil _
  | cons first rest =>
      refine nesting_le_foldl (fun left right => ?_) first
      cases left <;> simp only [nesting] <;> omega

/-- A chain counts as one construct around its parts. -/
private theorem nesting_foldl_le {combine : Tree → Tree → Tree} {bound : Nat}
    (around : ∀ left right, (combine left right).nesting ≤ 1 + max left.nesting right.nesting)
    (chained : ∀ first second right, (combine (combine first second) right).nesting =
      max (combine first second).nesting (1 + right.nesting))
    {first : Tree} (ofFirst : first.nesting ≤ bound)
    (below : ∀ tree ∈ trees, tree.nesting ≤ bound) :
    (trees.foldl combine first).nesting ≤ 1 + bound := by
  have further : ∀ {left right : Tree} {trees : List Tree},
      (combine left right).nesting ≤ 1 + bound → (∀ tree ∈ trees, tree.nesting ≤ bound) →
      (trees.foldl combine (combine left right)).nesting ≤ 1 + bound := by
    intro left right trees chain below
    induction trees generalizing left right with
    | nil => exact chain
    | cons next rest ih =>
        obtain ⟨ofNext, ofRest⟩ := List.forall_mem_cons.mp below
        refine ih ?_ ofRest
        rw [chained]
        omega
  cases trees with
  | nil => exact Nat.le_add_left_of_le ofFirst
  | cons second rest =>
      obtain ⟨ofSecond, ofRest⟩ := List.forall_mem_cons.mp below
      have both := around first second
      exact further (by omega) ofRest

theorem nesting_ofItems_le {bound : Nat} (below : ∀ tree ∈ trees, tree.nesting ≤ bound) :
    (ofItems trees).nesting ≤ 1 + bound := by
  cases trees with
  | nil => exact Nat.zero_le _
  | cons first rest =>
      obtain ⟨ofFirst, ofRest⟩ := List.forall_mem_cons.mp below
      refine nesting_foldl_le (fun left right => ?_) (fun _ _ _ => rfl) ofFirst ofRest
      cases left <;> simp only [nesting] <;> omega

theorem nesting_ofBranches_le {bound : Nat} (below : ∀ tree ∈ trees, tree.nesting ≤ bound) :
    (ofBranches trees).nesting ≤ 1 + bound := by
  cases trees with
  | nil => exact Nat.zero_le _
  | cons first rest =>
      obtain ⟨ofFirst, ofRest⟩ := List.forall_mem_cons.mp below
      refine nesting_foldl_le (fun left right => ?_) (fun _ _ _ => rfl) ofFirst ofRest
      cases left <;> simp only [nesting] <;> omega

end Tree

namespace Expr

/-- An expression that is no concatenation. -/
def isItem : Expr → Bool
  | .empty | .cat _ _ => false
  | _ => true

theorem ofItems_cons {first : Expr} {rest : List Expr} (further : rest ≠ []) :
    ofItems (first :: rest) = .cat first (ofItems rest) := by
  cases rest with
  | nil => exact absurd rfl further
  | cons => rfl

theorem concat_items {left right : Expr} (first : left.isItem = true) (second : right.isItem = true) :
    concat left right = .cat left right := by
  cases left <;> cases right <;> simp_all [isItem, concat]

variable {exprs : List Expr} {item : Expr}

theorem concat_ofItems (items : ∀ expr ∈ exprs, expr.isItem = true) (last : item.isItem = true) :
    concat (ofItems exprs) item = ofItems (exprs ++ [item]) := by
  induction exprs with
  | nil => rfl
  | cons first rest ih =>
      obtain ⟨here, later⟩ := List.forall_mem_cons.mp items
      cases rest with
      | nil => exact concat_items here last
      | cons second rest => exact congrArg (cat first) (ih later)

theorem foldl_concat_ofItems {before : List Expr} (ofBefore : ∀ expr ∈ before, expr.isItem = true)
    (items : ∀ expr ∈ exprs, expr.isItem = true) :
    exprs.foldl concat (ofItems before) = ofItems (before ++ exprs) := by
  induction exprs generalizing before with
  | nil => rw [List.append_nil, List.foldl_nil]
  | cons first rest ih =>
      obtain ⟨here, later⟩ := List.forall_mem_cons.mp items
      rw [List.foldl_cons, concat_ofItems ofBefore here, ih ?_ later, List.append_assoc]
      · rfl
      · simpa [here, or_imp, forall_and] using ofBefore

/-- Items between the two anchors. -/
theorem anchored_foldl_concat (items : ∀ expr ∈ exprs, expr.isItem = true) :
    (exprs.foldl concat .empty).anchored =
      .cat (.look .textStart) (ofItems (exprs ++ [.look .textEnd])) := by
  have body : exprs.foldl concat .empty = ofItems exprs :=
    foldl_concat_ofItems (List.forall_mem_nil _) items
  have opened : concat (.look .textStart) (ofItems exprs) = ofItems (.look .textStart :: exprs) := by
    cases exprs with
    | nil => rfl
    | cons first rest =>
        cases rest with
        | nil => exact concat_items rfl (items _ (.head _))
        | cons => rfl
  rw [anchored, body, opened, concat_ofItems (List.forall_mem_cons.mpr ⟨rfl, items⟩) rfl,
    List.cons_append, ofItems_cons (List.append_ne_nil_of_right_ne_nil _ (List.cons_ne_nil _ _))]

end Expr

theorem Expr.takes_foldl_concat {exprs : List Expr} {first : Expr} {start stop : Place}
    {marks : Marks} :
    (exprs.foldl concat first).Takes start marks stop ↔
      Continuation.Takes ((first :: exprs).map .run) start marks stop := by
  induction exprs generalizing first marks start with
  | nil =>
      constructor
      · intro takes
        exact ⟨stop, marks, [], takes, ⟨rfl, rfl⟩, rfl⟩
      · intro given
        obtain ⟨_, marks, _, takes, ⟨rfl, rfl⟩, rfl⟩ := given
        exact takes
  | cons second rest ih =>
      rw [List.foldl_cons, ih]
      constructor
      · intro given
        obtain ⟨_, _, later, both, tail, rfl⟩ := given
        obtain ⟨middle, one, two, ofFirst, ofSecond, rfl⟩ := takes_concat.mp both
        exact ⟨middle, one, later ++ two, ofFirst, ⟨_, two, later, ofSecond, tail, rfl⟩,
          (List.append_assoc ..).symm⟩
      · intro given
        obtain ⟨middle, one, _, ofFirst, ⟨_, two, later, ofSecond, tail, rfl⟩, rfl⟩ := given
        exact ⟨_, two ++ one, later, takes_concat.mpr ⟨middle, one, two, ofFirst, ofSecond, rfl⟩,
          tail, List.append_assoc ..⟩

/-! ## Counting groups -/

/-- The expression of a tree on its own has so many groups. -/
def Tree.Counts (tree : Tree) (count : Nat) : Prop :=
  ∃ expr, tree.toExpr false = .ok expr ∧ expr.groups.length = count

section

variable {pattern : String} {tree : Tree} {count : Nat}

theorem exists_tree_of_groupCount (counted : groupCount pattern = .ok count) :
    ∃ tree, Tree.read pattern.toList = .ok tree ∧ tree.Counts count := by
  unfold groupCount at counted
  cases read : Expr.read false pattern.toList with
  | error flaw =>
      rw [read] at counted
      cases counted
  | ok expr =>
      rw [read] at counted
      obtain ⟨tree, alone, lowered⟩ := exists_of_bind_ok read
      exact ⟨tree, alone, expr, lowered, Except.ok.inj counted⟩

theorem groupCount_of_read (read : Tree.read pattern.toList = .ok tree)
    (counts : tree.Counts count) : groupCount pattern = .ok count := by
  obtain ⟨expr, alone, length⟩ := counts
  have lowered : Expr.read false pattern.toList = .ok expr := by
    rw [Expr.read, read]
    exact alone
  rw [groupCount, lowered]
  exact congrArg Except.ok length

theorem groupCount_of_flaw {flaw : Flaw} (fails : Tree.read pattern.toList = .error flaw) :
    groupCount pattern = .error (.invalidPattern pattern .fragment) := by
  have unread : Expr.read false pattern.toList = .error flaw := by
    rw [Expr.read, fails]
    rfl
  rw [groupCount, unread]

end

/-! ## Parts -/

/-- Whether a pattern has a group that no match can enter. -/
def hidesGroup (pattern : String) : Bool :=
  match Tree.read pattern.toList with
  | .ok tree => tree.hidesGroup
  | .error _ => false

/-- A pattern that is put into a larger one. -/
structure Part where
  pattern : String
  tree : Tree
  groups : Nat
  names : List (List Char)
  read : Tree.read pattern.toList = .ok tree
  fragment : Reader.Fragment pattern.toList tree groups names

namespace Part

def group (part : Part) (opened : Nat) : Tree :=
  .group (opened + 1) (part.tree.renumber (opened + 1))

def groupsFrom : Nat → List Part → List Tree
  | _, [] => []
  | opened, part :: rest => part.group opened :: groupsFrom (opened + 1 + part.groups) rest

theorem closed_groupsFrom (opened : Nat) (parts : List Part) :
    ∀ tree ∈ groupsFrom opened parts, tree.isClosed = true := by
  induction parts generalizing opened with
  | nil => exact List.forall_mem_nil _
  | cons part rest ih =>
      intro tree given
      rcases given with _ | ⟨_, member⟩
      · rfl
      · exact ih _ tree member

theorem nesting_groupsFrom (opened : Nat) {parts : List Part} {part : Part} (member : part ∈ parts) :
    ∃ tree ∈ groupsFrom opened parts, tree.nesting = 1 + part.tree.nesting := by
  induction parts generalizing opened with
  | nil => cases member
  | cons first rest ih =>
      cases List.mem_cons.mp member with
      | inl same =>
        subst same
        exact ⟨_, .head _, congrArg (1 + ·) (Tree.nesting_renumber _ _)⟩
      | inr later =>
        obtain ⟨tree, inRest, same⟩ := ih _ later
        exact ⟨tree, .tail _ inRest, same⟩

/-- The part alone stands for an expression. -/
def Means (caseless : Bool) (part : Part) (expr : Expr) : Prop :=
  part.tree.toExpr caseless = .ok expr

theorem hidesGroup_eq (part : Part) : hidesGroup part.pattern = part.tree.hidesGroup := by
  rw [hidesGroup, part.read]

theorem groups_eq (part : Part) : part.tree.groups = List.range' 1 part.groups :=
  part.fragment.groups_eq

theorem nodup_groups (part : Part) : part.tree.groups.Nodup := by
  rw [part.groups_eq]
  exact List.nodup_range'

theorem stands_group {part : Part} {opened : Nat} {caseless : Bool} {expr : Expr}
    (stands : (part.group opened).Stands (.initial caseless) expr) :
    ∃ inner, part.Means caseless inner ∧
      expr = .group (opened + 1) (inner.renumber (opened + 1)) := by
  obtain ⟨branches, later, ofBody, same, _⟩ := Tree.alternatives_group_ok stands
  rw [Tree.alternatives_renumber] at ofBody
  cases alone : part.tree.alternatives (.initial caseless) with
  | error flaw =>
      rw [alone] at ofBody
      cases ofBody
  | ok lowered =>
      rw [alone] at ofBody
      cases ofBody
      refine ⟨.choice lowered.1, ?_, ?_⟩
      · simp only [Means, Tree.toExpr, alone]
        rfl
      · rw [List.cons.inj same |>.1, Expr.renumber_choice]

namespace Means

variable {part : Part} {caseless : Bool} {expr : Expr}

theorem keepsGroups (means : part.Means caseless expr) : KeepsGroups part.tree expr.groups := by
  obtain ⟨⟨branches, after⟩, lowered, success⟩ := exists_of_bind_ok means
  cases success
  have keeps := (part.tree.lowers lowered).keepsGroups part.nodup_groups
  rw [Expr.groups_choice (part.nodup_groups.sublist keeps.sublist)]
  exact keeps

theorem le_groups (means : part.Means caseless expr) {index : Nat} (member : index ∈ expr.groups) :
    1 ≤ index ∧ index ≤ part.groups := by
  have written := means.keepsGroups.sublist.subset member
  rw [part.groups_eq, List.mem_range'_1] at written
  omega

theorem mem_groups_renumber (means : part.Means caseless expr) {offset index : Nat}
    (member : index ∈ (expr.renumber offset).groups) :
    offset < index ∧ index ≤ offset + part.groups := by
  rw [Expr.groups_renumber] at member
  obtain ⟨original, inExpr, rfl⟩ := List.mem_map.mp member
  have bounds := means.le_groups inExpr
  omega

theorem nodup_groups (means : part.Means caseless expr) : expr.groups.Nodup :=
  part.nodup_groups.sublist means.keepsGroups.sublist

theorem takesWhole_iff (means : part.Means caseless expr)
    (shallow : (Reader.wholeTree part.tree).nesting ≤ nestingLimit) (text : String) :
    takesWhole caseless part.pattern text = true ↔ ∃ marks, expr.TakesAll text.toList marks := by
  obtain ⟨⟨branches, after⟩, lowered, success⟩ := exists_of_bind_ok means
  cases success
  have read := Reader.read_wholeText_fragment part.fragment
  rw [if_pos shallow] at read
  have compiled := compile_eq read (toExpr_wholeTree_eq lowered)
  rw [takesWhole, compiled]
  exact Expr.isSome_search_anchored_iff

end Means

/-- The number of groups that a part brings along, if none of them is hidden. -/
theorem groupCount_le {part : Part} {count : Nat} (counted : groupCount part.pattern = .ok count) :
    count ≤ part.groups ∧ (count = part.groups ↔ part.tree.hidesGroup = false) := by
  obtain ⟨tree, same, expr, means, rfl⟩ := exists_tree_of_groupCount counted
  obtain rfl : part.tree = tree := Except.ok.inj (part.read.symm.trans same)
  have keeps := Means.keepsGroups means
  have written : part.tree.groups.length = part.groups := by
    rw [part.groups_eq, List.length_range']
  rw [← keeps.all_iff, ← written]
  exact ⟨keeps.sublist.length_le, fun same => keeps.sublist.eq_of_length same,
    fun same => congrArg List.length same⟩

end Part

end TextSchema.Pattern
