import TextSchema.Proofs.Pattern.Lowers
import TextSchema.Proofs.Pattern.Takes

/-!
# Renumbering groups

A fragment that is read behind other groups gets higher group numbers. Its
expression is the same up to that offset, and so is what the expression takes.
-/

set_option autoImplicit false

namespace TextSchema.Pattern

/-- The tree with an offset added to all group numbers. -/
def Tree.renumber (offset : Nat) : Tree → Tree
  | .empty => .empty
  | .literal char => .literal char
  | .dot => .dot
  | .shorthand kind negated => .shorthand kind negated
  | .bracket negated body => .bracket negated body
  | .anchor kind => .anchor kind
  | .flags changes => .flags changes
  | .group index body => .group (offset + index) (body.renumber offset)
  | .scoped changes body => .scoped changes (body.renumber offset)
  | .repeated least most greedy body => .repeated least most greedy (body.renumber offset)
  | .cat left right => .cat (left.renumber offset) (right.renumber offset)
  | .alt left right => .alt (left.renumber offset) (right.renumber offset)

def Expr.renumber (offset : Nat) : Expr → Expr
  | .empty => .empty
  | .set chars => .set chars
  | .look condition => .look condition
  | .group index body => .group (offset + index) (body.renumber offset)
  | .repeated least most greedy body => .repeated least most greedy (body.renumber offset)
  | .cat left right => .cat (left.renumber offset) (right.renumber offset)
  | .alt left right => .alt (left.renumber offset) (right.renumber offset)

def Mark.renumber (offset : Nat) : Mark → Mark
  | .opened group => .opened (offset + group)
  | .closed group => .closed (offset + group)

def Mark.group : Mark → Nat
  | .opened group => group
  | .closed group => group

def Marks.renumber (offset : Nat) (marks : Marks) : Marks :=
  marks.map fun entry => (entry.1.renumber offset, entry.2)

@[simp] theorem Tree.renumber_zero (tree : Tree) : tree.renumber 0 = tree := by
  induction tree <;> simp_all [Tree.renumber]

@[simp] theorem Tree.nesting_renumber (offset : Nat) (tree : Tree) :
    (tree.renumber offset).nesting = tree.nesting := by
  induction tree with
  | cat left right leftIH rightIH =>
      cases left <;> simp_all [Tree.renumber, Tree.nesting]
  | alt left right leftIH rightIH =>
      cases left <;> simp_all [Tree.renumber, Tree.nesting]
  | _ => simp_all [Tree.renumber, Tree.nesting]

namespace Expr

variable (offset : Nat)

theorem groups_renumber (expr : Expr) :
    (expr.renumber offset).groups = expr.groups.map (offset + ·) := by
  induction expr <;> simp_all [groups, renumber]

theorem renumber_concat (left right : Expr) :
    (concat left right).renumber offset =
      concat (left.renumber offset) (right.renumber offset) := by
  induction left with
  | empty => rfl
  | cat first second _ ih => simp only [concat, renumber, ih]
  | _ => cases right <;> simp [concat, renumber]

theorem items_renumber (expr : Expr) :
    (expr.renumber offset).items = expr.items.map (renumber offset) := by
  induction expr <;> simp_all [items, renumber]

theorem renumber_ofItems (items : List Expr) :
    (ofItems items).renumber offset = ofItems (items.map (renumber offset)) := by
  fun_induction ofItems items with
  | case1 => rfl
  | case2 => rfl
  | case3 item rest notNil ih =>
      cases rest with
      | nil => exact absurd rfl notNil
      | cons second tail => simp_all [ofItems, renumber]

theorem renumber_alternation (branches : List Expr) :
    (alternation branches).renumber offset = alternation (branches.map (renumber offset)) := by
  fun_induction alternation branches with
  | case1 => rfl
  | case2 => rfl
  | case3 branch rest notNil ih =>
      cases rest with
      | nil => exact absurd rfl notNil
      | cons second tail => simp_all [alternation, renumber]

theorem alternatives_renumber (expr : Expr) :
    alternatives (expr.renumber offset) = (alternatives expr).map (renumber offset) := by
  induction expr <;> simp_all [alternatives, renumber]

theorem alike_renumber (left right : Expr) :
    alike (left.renumber offset) (right.renumber offset) = alike left right := by
  induction left generalizing right with
  | empty | set | look => cases right <;> rfl
  | group index body ih =>
      cases right with
      | group other more =>
          have indices : (offset + index == offset + other) = (index == other) := by
            rw [Bool.eq_iff_iff, beq_iff_eq, beq_iff_eq, Nat.add_left_cancel_iff]
          simp only [renumber, alike, indices, ih]
      | _ => rfl
  | repeated least most greedy body ih =>
      cases right with
      | repeated => simp only [renumber, alike, ih]
      | _ => rfl
  | cat first rest firstIH restIH =>
      cases right with
      | cat => simp only [renumber, alike, firstIH, restIH]
      | _ => rfl
  | alt first rest firstIH restIH =>
      cases right with
      | alt => simp only [renumber, alike, firstIH, restIH]
      | _ => rfl

@[simp] theorem isLetter_renumber (expr : Expr) : (expr.renumber offset).isLetter = expr.isLetter := by
  cases expr <;> rfl

@[simp] theorem isClass_renumber (expr : Expr) : (expr.renumber offset).isClass = expr.isClass := by
  cases expr <;> rfl

@[simp] theorem chars_renumber (expr : Expr) : (expr.renumber offset).chars = expr.chars := by
  cases expr <;> rfl

theorem parts_renumber (items : List Expr) :
    parts (items.map (renumber offset)) = (parts items).map (List.map (renumber offset)) := by
  induction items with
  | nil => rfl
  | cons item rest ih =>
      rw [List.map_cons, parts, parts, ih]
      rcases parts rest with _ | ⟨_ | ⟨next, run⟩, later⟩
      · rfl
      · rfl
      · simp only [List.map_cons, isLetter_renumber]
        split <;> rfl

theorem isEqv_renumber (left right : List Expr) :
    (left.map (renumber offset)).isEqv (right.map (renumber offset)) alike =
      left.isEqv right alike := by
  induction left generalizing right with
  | nil => cases right <;> rfl
  | cons first left ih =>
      cases right with
      | nil => rfl
      | cons second right => simp only [List.map_cons, List.isEqv_cons_cons, alike_renumber, ih]

theorem sharedParts_renumber (left right : List (List Expr)) :
    sharedParts (left.map (List.map (renumber offset))) (right.map (List.map (renumber offset))) =
      (sharedParts left right).map (List.map (renumber offset)) := by
  induction left generalizing right with
  | nil => rfl
  | cons first left ih =>
      cases right with
      | nil => rfl
      | cons second right =>
          simp only [List.map_cons, sharedParts, isEqv_renumber]
          split
          · rw [ih, List.map_cons]
          · rfl

theorem foldl_sharedParts_renumber (branches : List Expr) (lead : List (List Expr)) :
    (branches.map (renumber offset)).foldl
        (fun lead branch => sharedParts lead (parts branch.items))
        (lead.map (List.map (renumber offset))) =
      (branches.foldl (fun lead branch => sharedParts lead (parts branch.items)) lead).map
        (List.map (renumber offset)) := by
  induction branches generalizing lead with
  | nil => rfl
  | cons branch rest ih =>
      rw [List.map_cons, List.foldl_cons, List.foldl_cons, items_renumber, parts_renumber,
        sharedParts_renumber, ih]

theorem sharedLead_renumber (branches : List Expr) :
    sharedLead (branches.map (renumber offset)) = (sharedLead branches).map (renumber offset) := by
  have lengths : (branches.map (renumber offset)).all
        (fun branch => 2 ≤ (parts branch.items).length) =
      branches.all fun branch => 2 ≤ (parts branch.items).length := by
    simp only [List.all_map, Function.comp_def, items_renumber, parts_renumber, List.length_map]
  rcases branches with _ | ⟨first, _ | ⟨second, rest⟩⟩
  · rfl
  · rfl
  · rw [List.map_cons, List.map_cons] at lengths ⊢
    rw [sharedLead, sharedLead, lengths]
    split
    · rw [← List.map_cons, items_renumber, parts_renumber, foldl_sharedParts_renumber,
        List.map_flatten]
    · rfl

theorem renumber_anyOf (branches : List Expr) :
    (anyOf branches).renumber offset = anyOf (branches.map (renumber offset)) := by
  simp only [anyOf, List.all_map, List.map_map, Function.comp_def, isLetter_renumber,
    isClass_renumber, chars_renumber]
  split
  · rfl
  · exact renumber_alternation offset branches

theorem tails_renumber (shared : Nat) (branches : List Expr) :
    tails shared (branches.map (renumber offset)) =
      (tails shared branches).map (renumber offset) := by
  simp only [tails, List.flatMap_map, List.map_flatMap, items_renumber, ← List.map_drop,
    ← renumber_ofItems, alternatives_renumber]

theorem renumber_choice (branches : List Expr) :
    (choice branches).renumber offset = choice (branches.map (renumber offset)) := by
  have flat : (branches.map (renumber offset)).flatMap alternatives =
      (branches.flatMap alternatives).map (renumber offset) := by
    simp only [List.flatMap_map, List.map_flatMap, alternatives_renumber]
  unfold choice
  split
  · rfl
  · rename_i several
    split
    · rename_i branch only
      obtain ⟨first, rfl, rfl⟩ := List.map_eq_singleton_iff.mp only
      exact absurd rfl (several first)
    · simp only [flat, sharedLead_renumber]
      cases sharedLead (branches.flatMap alternatives) with
      | nil => exact renumber_anyOf offset _
      | cons first rest =>
          simp only [List.map_cons, renumber_ofItems, List.map_append, List.map_nil,
            renumber_anyOf, List.length_cons, List.length_map, tails_renumber]

@[simp] theorem takesNothing_renumber (expr : Expr) :
    (expr.renumber offset).takesNothing = expr.takesNothing := by
  induction expr <;> simp_all [takesNothing, renumber]

theorem renumber_repeatedOf (least : Nat) (most : Option Nat) (greedy : Bool) (body : Expr) :
    (repeatedOf least most greedy body).renumber offset =
      repeatedOf least most greedy (body.renumber offset) := by
  unfold repeatedOf countsFor
  rw [takesNothing_renumber]
  split <;> rfl

end Expr

/-! ## Lowering -/

def renumberLowered (offset : Nat) (lowered : List Expr × Flags) : List Expr × Flags :=
  (lowered.1.map (Expr.renumber offset), lowered.2)

/-- Lowering does not look at group numbers. -/
theorem Tree.alternatives_renumber (offset : Nat) (tree : Tree) (now : Flags) :
    (tree.renumber offset).alternatives now =
      (tree.alternatives now).map (renumberLowered offset) := by
  induction tree generalizing now with
  | empty | anchor | flags => rfl
  | literal char =>
      simp only [renumber, alternatives]
      cases lowered : now.literal char with
      | error flaw => rfl
      | ok expr =>
          obtain ⟨chars, rfl⟩ := set_of_literal lowered
          rfl
  | dot =>
      simp only [renumber, alternatives]
      cases lowered : now.dot with
      | error flaw => rfl
      | ok expr =>
          obtain ⟨chars, rfl⟩ := set_of_dot lowered
          rfl
  | shorthand kind negated =>
      simp only [renumber, alternatives]
      cases lowered : now.shorthand kind negated with
      | error flaw => rfl
      | ok chars => rfl
  | bracket negated body =>
      simp only [renumber, alternatives]
      cases lowered : now.bracket negated body with
      | error flaw => rfl
      | ok expr =>
          obtain ⟨chars, rfl⟩ := set_of_bracket lowered
          rfl
  | group index body ih =>
      simp only [renumber, alternatives, ih]
      cases body.alternatives now with
      | error flaw => rfl
      | ok lowered =>
          apply congrArg Except.ok
          simp [renumberLowered, Expr.renumber, Expr.renumber_choice]
  | «scoped» changes body ih =>
      simp only [renumber, alternatives, ih]
      cases body.alternatives (now.apply changes) with
      | error flaw => rfl
      | ok lowered =>
          apply congrArg Except.ok
          simp [renumberLowered, Expr.renumber_choice]
  | repeated least most greedy body ih =>
      simp only [renumber, alternatives, ih]
      cases body.alternatives now with
      | error flaw => rfl
      | ok lowered =>
          apply congrArg Except.ok
          simp [renumberLowered, Expr.renumber_repeatedOf, Expr.renumber_choice]
  | cat left right leftIH rightIH =>
      simp only [renumber, alternatives, leftIH]
      cases left.alternatives now with
      | error flaw => rfl
      | ok lefts =>
          simp only [Except.map, bind, Except.bind, renumberLowered, rightIH]
          cases right.alternatives lefts.2 with
          | error flaw => rfl
          | ok rights =>
              apply congrArg Except.ok
              simp [Expr.renumber_concat, Expr.renumber_choice]
  | alt left right leftIH rightIH =>
      simp only [renumber, alternatives, leftIH]
      cases left.alternatives now with
      | error flaw => rfl
      | ok lefts =>
          simp only [Except.map, bind, Except.bind, renumberLowered, rightIH]
          cases right.alternatives lefts.2 with
          | error flaw => rfl
          | ok rights =>
              apply congrArg Except.ok
              simp

/-! ## What renumbered expressions take -/

theorem Passes.map {pass other : Place → Marks → Place → Prop} {change : Marks → Marks}
    (empty : change [] = []) (append : ∀ one two, change (one ++ two) = change one ++ change two)
    (each : ∀ {start marks stop}, pass start marks stop → other start (change marks) stop)
    {least : Nat} {most : Option Nat} {start stop : Place} {marks : Marks}
    (passes : Passes pass least most start marks stop) :
    Passes other least most start (change marks) stop := by
  induction passes with
  | done =>
      rw [empty]
      exact .done
  | more allowed here _ ih =>
      rw [append]
      exact .more allowed (each here) ih

theorem Passes.unmap {pass other : Place → Marks → Place → Prop} {change : Marks → Marks}
    (empty : change [] = []) (append : ∀ one two, change (one ++ two) = change one ++ change two)
    (each : ∀ {start marks stop}, other start marks stop →
      ∃ before, pass start before stop ∧ marks = change before)
    {least : Nat} {most : Option Nat} {start stop : Place} {marks : Marks}
    (passes : Passes other least most start marks stop) :
    ∃ before, Passes pass least most start before stop ∧ marks = change before := by
  induction passes with
  | done => exact ⟨[], .done, empty.symm⟩
  | more allowed here _ ih =>
      obtain ⟨first, taken, rfl⟩ := each here
      obtain ⟨later, passes, rfl⟩ := ih
      exact ⟨later ++ first, .more allowed taken passes, (append _ _).symm⟩

@[simp] theorem Marks.renumber_nil (offset : Nat) : Marks.renumber offset [] = [] := rfl

@[simp] theorem Marks.renumber_append (offset : Nat) (one two : Marks) :
    Marks.renumber offset (one ++ two) = Marks.renumber offset one ++ Marks.renumber offset two :=
  List.map_append

/-- A renumbered expression takes the same with renumbered marks. -/
theorem Expr.takes_renumber {offset : Nat} {expr : Expr} {start stop : Place} {marks : Marks} :
    (expr.renumber offset).Takes start marks stop ↔
      ∃ before, expr.Takes start before stop ∧ marks = Marks.renumber offset before := by
  induction expr generalizing start marks stop with
  | empty | look =>
      constructor
      · intro takes
        exact ⟨[], by simp_all [renumber, Takes], by simp_all [renumber, Takes]⟩
      · intro given
        obtain ⟨before, takes, rfl⟩ := given
        simp_all [renumber, Takes]
  | set chars =>
      constructor
      · intro given
        obtain ⟨found, rfl, rfl⟩ := given
        exact ⟨[], ⟨found, rfl, rfl⟩, rfl⟩
      · intro given
        obtain ⟨before, ⟨found, rfl, rfl⟩, rfl⟩ := given
        exact ⟨found, rfl, rfl⟩
  | group index body ih =>
      constructor
      · intro given
        obtain ⟨inner, inside, rfl⟩ := given
        obtain ⟨before, taken, rfl⟩ := ih.mp inside
        exact ⟨_, ⟨before, taken, rfl⟩, by simp [Marks.renumber, Mark.renumber]⟩
      · intro given
        obtain ⟨_, ⟨inner, inside, rfl⟩, rfl⟩ := given
        exact ⟨_, ih.mpr ⟨inner, inside, rfl⟩, by simp [Marks.renumber, Mark.renumber]⟩
  | repeated least most greedy body ih =>
      constructor
      · intro passes
        exact Passes.unmap (Marks.renumber_nil offset) (Marks.renumber_append offset)
          (fun inside => ih.mp inside) passes
      · intro given
        obtain ⟨before, passes, rfl⟩ := given
        exact Passes.map (Marks.renumber_nil offset) (Marks.renumber_append offset)
          (fun inside => ih.mpr ⟨_, inside, rfl⟩) passes
  | cat left right leftIH rightIH =>
      constructor
      · intro given
        obtain ⟨middle, first, later, here, there, rfl⟩ := given
        obtain ⟨one, taken, rfl⟩ := leftIH.mp here
        obtain ⟨two, added, rfl⟩ := rightIH.mp there
        exact ⟨two ++ one, ⟨middle, one, two, taken, added, rfl⟩, by simp⟩
      · intro given
        obtain ⟨_, ⟨middle, one, two, here, there, rfl⟩, rfl⟩ := given
        exact ⟨middle, _, _, leftIH.mpr ⟨one, here, rfl⟩, rightIH.mpr ⟨two, there, rfl⟩, by simp⟩
  | alt left right leftIH rightIH =>
      constructor
      · intro given
        cases given with
        | inl here =>
          obtain ⟨before, taken, rfl⟩ := leftIH.mp here
          exact ⟨before, .inl taken, rfl⟩
        | inr here =>
          obtain ⟨before, taken, rfl⟩ := rightIH.mp here
          exact ⟨before, .inr taken, rfl⟩
      · intro given
        rcases given with ⟨before, here | here, rfl⟩
        · exact .inl (leftIH.mpr ⟨before, here, rfl⟩)
        · exact .inr (rightIH.mpr ⟨before, here, rfl⟩)

end TextSchema.Pattern
