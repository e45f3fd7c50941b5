import TextSchema.Pattern.Expr
import TextSchema.Proofs.Pattern.CharSets

/-!
# Choices between alternatives

What a choice is made of: its one alternative, or a set or an alternation, behind the
beginning that all alternatives share. That beginning stands at the front of each of
them, item by item, up to the way its sets are written.
-/

set_option autoImplicit false

namespace TextSchema.Pattern.Expr

/-- At the front of some items stand others, each like the one in its place. -/
inductive LeadOf : List Expr → List Expr → Prop where
  | nil {items : List Expr} : LeadOf [] items
  | cons {first own : Expr} {lead items : List Expr} :
      alike first own = true → LeadOf lead items → LeadOf (first :: lead) (own :: items)

@[simp] theorem alike_self (expr : Expr) : alike expr expr = true := by
  induction expr with
  | empty => rfl
  | set chars => exact CharSet.same_self chars
  | look condition => exact beq_self_eq_true condition
  | group index body ih => simp only [alike, beq_self_eq_true, ih, Bool.and_true]
  | repeated least most greedy body ih => simp only [alike, beq_self_eq_true, ih, Bool.and_true]
  | cat first rest firstIH restIH => simp only [alike, firstIH, restIH, Bool.and_true]
  | alt first rest firstIH restIH => simp only [alike, firstIH, restIH, Bool.and_true]

namespace LeadOf

variable {left right lead items : List Expr}

theorem of_isPrefix (start : lead <+: items) : LeadOf lead items := by
  obtain ⟨rest, rfl⟩ := start
  induction lead with
  | nil => exact .nil
  | cons first lead ih => exact .cons (alike_self first) ih

theorem of_append (leads : LeadOf (left ++ right) items) : LeadOf left items := by
  induction left generalizing items with
  | nil => exact .nil
  | cons first left ih =>
      cases leads with
      | cons same later => exact .cons same (ih later)

theorem append_of_isEqv (same : left.isEqv right alike = true) (leads : LeadOf lead items) :
    LeadOf (left ++ lead) (right ++ items) := by
  induction left generalizing right with
  | nil =>
      cases right with
      | nil => exact leads
      | cons => cases same
  | cons first left ih =>
      cases right with
      | nil => cases same
      | cons second right =>
          obtain ⟨here, later⟩ := Bool.and_eq_true_iff.mp same
          exact .cons here (ih later)

/-- What does not depend on the way sets are written is the same of a lead and of the items in
its place. -/
theorem map_take {α : Type} {feature : Expr → α}
    (invariant : ∀ {one other}, alike one other = true → feature one = feature other)
    (leads : LeadOf lead items) :
    (items.take lead.length).map feature = lead.map feature := by
  induction leads with
  | nil => rfl
  | cons same _ ih =>
      rw [List.length_cons, List.take_succ_cons, List.map_cons, List.map_cons, invariant same, ih]

end LeadOf

theorem flatten_parts (items : List Expr) : (parts items).flatten = items := by
  fun_induction parts items with
  | case1 => rfl
  | case2 item rest next run later split _ ih =>
      rw [split] at ih
      rw [← ih]
      rfl
  | case3 item rest next run later split _ ih =>
      rw [split] at ih
      rw [← ih]
      rfl
  | case4 item rest _ ih => exact congrArg (item :: ·) ih

theorem sharedParts_isPrefix (left right : List (List Expr)) :
    sharedParts left right <+: left := by
  fun_induction sharedParts left right with
  | case1 left lefts right rights _ ih => exact List.cons_prefix_cons.mpr ⟨rfl, ih⟩
  | case2 => exact List.nil_prefix
  | case3 => exact List.nil_prefix

theorem leadOf_sharedParts (left right : List (List Expr)) :
    LeadOf (sharedParts left right).flatten right.flatten := by
  fun_induction sharedParts left right with
  | case1 left lefts right rights same ih => exact ih.append_of_isEqv same
  | case2 => exact .nil
  | case3 => exact .nil

private theorem foldl_sharedParts (rest : List Expr) (lead : List (List Expr)) :
    rest.foldl (fun lead branch => sharedParts lead (parts branch.items)) lead <+: lead ∧
      ∀ branch ∈ rest, LeadOf
        (rest.foldl (fun lead branch => sharedParts lead (parts branch.items)) lead).flatten
        branch.items := by
  induction rest generalizing lead with
  | nil => exact ⟨List.prefix_refl _, List.forall_mem_nil _⟩
  | cons branch rest ih =>
      obtain ⟨ofLead, ofRest⟩ := ih (sharedParts lead (parts branch.items))
      rw [List.foldl_cons]
      refine ⟨ofLead.trans (sharedParts_isPrefix lead (parts branch.items)), ?_⟩
      intro other given
      rcases given with _ | ⟨_, member⟩
      · obtain ⟨lost, whole⟩ := ofLead
        have leads := leadOf_sharedParts lead (parts branch.items)
        rw [← whole, List.flatten_append, flatten_parts] at leads
        exact leads.of_append
      · exact ofRest other member

/-- Each alternative begins with the shared beginning. -/
theorem leadOf_sharedLead {branches : List Expr} {branch : Expr} (member : branch ∈ branches) :
    LeadOf (sharedLead branches) branch.items := by
  unfold sharedLead
  split
  · rename_i first second rest
    split
    · obtain ⟨ofFirst, ofRest⟩ := foldl_sharedParts (second :: rest) (parts first.items)
      rcases member with _ | ⟨_, member⟩
      · obtain ⟨lost, whole⟩ := ofFirst
        refine LeadOf.of_isPrefix ⟨lost.flatten, ?_⟩
        rw [← List.flatten_append, whole, flatten_parts]
      · exact ofRest branch member
    · exact .nil
  · exact .nil

/-- Alternatives become one set only if each of them is a set. -/
theorem anyOf_cases (branches : List Expr) :
    (∃ sets, branches = sets.map .set ∧ anyOf branches = .set (.unionAll sets)) ∨
      anyOf branches = alternation branches := by
  unfold anyOf
  split
  · next sets =>
      have all : ∀ branch ∈ branches, branch = .set branch.chars := by
        intro branch member
        rw [Bool.or_eq_true, List.all_eq_true, List.all_eq_true] at sets
        have kind := sets.imp (· branch member) (· branch member)
        cases branch with
        | set chars => rfl
        | _ => cases kind <;> contradiction
      refine .inl ⟨branches.map chars, ?_, rfl⟩
      rw [List.map_map]
      exact (List.map_id branches).symm.trans (List.map_congr_left all)
  · exact .inr rfl

theorem choice_cases (branches : List Expr) :
    branches = [choice branches] ∨
      choice branches = anyOf (branches.flatMap alternatives) ∨
      choice branches = ofItems (sharedLead (branches.flatMap alternatives) ++
        [anyOf (tails (sharedLead (branches.flatMap alternatives)).length
          (branches.flatMap alternatives))]) := by
  unfold choice
  split
  · exact .inl rfl
  · right
    dsimp only
    split
    · exact .inl rfl
    · exact .inr rfl

theorem choice_of_apart {first second : Expr} {rest : List Expr}
    (apart : sharedLead ((first :: second :: rest).flatMap alternatives) = []) :
    choice (first :: second :: rest) = anyOf ((first :: second :: rest).flatMap alternatives) := by
  unfold choice
  simp only [apart]

/-- Groups have nothing in common, so that a choice between them stays as it is. -/
theorem choice_of_groups {branches : List Expr} (some_ : branches ≠ [])
    (groups : ∀ branch ∈ branches, ∃ index body, branch = .group index body) :
    choice branches = alternation branches := by
  have flat : branches.flatMap alternatives = branches := by
    have single : ∀ branch ∈ branches, alternatives branch = [branch] := by
      intro branch member
      obtain ⟨index, body, rfl⟩ := groups branch member
      rfl
    rw [List.flatMap_def, List.map_congr_left single, ← List.flatMap_def, List.flatMap_singleton']
  cases branches with
  | nil => exact absurd rfl some_
  | cons first rest =>
      obtain ⟨index, body, rfl⟩ := groups first (.head _)
      cases rest with
      | nil => rfl
      | cons second rest =>
          rw [choice_of_apart (by rw [flat]; rfl), flat]
          rfl

end TextSchema.Pattern.Expr
