import TextSchema.Pattern.Lowering
import TextSchema.Proofs.Outcome

/-!
# Lowering as a relation

`Lowers` says by the structure of a tree which alternatives it stands for and
which flags are in force after it. What holds of all lowered expressions is proved
along its derivations.
-/

set_option autoImplicit false

namespace TextSchema.Pattern

namespace Tree

variable {left right body : Tree} {now after : Flags} {branches : List Expr}

theorem alternatives_group_ok {index : Nat}
    (lowered : (group index body).alternatives now = .ok (branches, after)) :
    ∃ inner later, body.alternatives now = .ok (inner, later) ∧
      branches = [.group index (.choice inner)] ∧ after = now := by
  obtain ⟨⟨inner, later⟩, ofBody, success⟩ := exists_of_bind_ok lowered
  cases success
  exact ⟨inner, later, ofBody, rfl, rfl⟩

theorem alternatives_scoped_ok {changes : FlagChanges}
    (lowered : (Tree.scoped changes body).alternatives now = .ok (branches, after)) :
    ∃ inner later, body.alternatives (now.apply changes) = .ok (inner, later) ∧
      branches = [.choice inner] ∧ after = now := by
  obtain ⟨⟨inner, later⟩, ofBody, success⟩ := exists_of_bind_ok lowered
  cases success
  exact ⟨inner, later, ofBody, rfl, rfl⟩

theorem alternatives_repeated_ok {least : Nat} {most : Option Nat} {greedy : Bool}
    (lowered : (repeated least most greedy body).alternatives now = .ok (branches, after)) :
    ∃ inner, body.alternatives now = .ok (inner, after) ∧
      branches = [.repeatedOf least most (greedy != now.swapGreed) (.choice inner)] := by
  obtain ⟨⟨inner, later⟩, ofBody, success⟩ := exists_of_bind_ok lowered
  cases success
  exact ⟨inner, ofBody, rfl⟩

theorem alternatives_cat_ok
    (lowered : (cat left right).alternatives now = .ok (branches, after)) :
    ∃ lefts between rights, left.alternatives now = .ok (lefts, between) ∧
      right.alternatives between = .ok (rights, after) ∧
      branches = [.concat (.choice lefts) (.choice rights)] := by
  obtain ⟨⟨lefts, between⟩, ofLeft, rest⟩ := exists_of_bind_ok lowered
  obtain ⟨⟨rights, later⟩, ofRight, success⟩ := exists_of_bind_ok rest
  cases success
  exact ⟨lefts, between, rights, ofLeft, ofRight, rfl⟩

theorem alternatives_scoped_eq {changes : FlagChanges} {inner : List Expr} {later : Flags}
    (ofBody : body.alternatives (now.apply changes) = .ok (inner, later)) :
    (Tree.scoped changes body).alternatives now = .ok ([.choice inner], now) := by
  rw [alternatives, ofBody]
  rfl

theorem alternatives_cat_eq {lefts rights : List Expr} {between : Flags}
    (ofLeft : left.alternatives now = .ok (lefts, between))
    (ofRight : right.alternatives between = .ok (rights, after)) :
    (cat left right).alternatives now =
      .ok ([.concat (.choice lefts) (.choice rights)], after) := by
  simp only [alternatives, ofLeft, ofRight, bind, Except.bind]
  rfl

theorem alternatives_alt_ok
    (lowered : (alt left right).alternatives now = .ok (branches, after)) :
    ∃ lefts between rights, left.alternatives now = .ok (lefts, between) ∧
      right.alternatives between = .ok (rights, after) ∧ branches = lefts ++ rights := by
  obtain ⟨⟨lefts, between⟩, ofLeft, rest⟩ := exists_of_bind_ok lowered
  obtain ⟨⟨rights, later⟩, ofRight, success⟩ := exists_of_bind_ok rest
  cases success
  exact ⟨lefts, between, rights, ofLeft, ofRight, rfl⟩

theorem alternatives_alt_eq {lefts rights : List Expr} {between : Flags}
    (ofLeft : left.alternatives now = .ok (lefts, between))
    (ofRight : right.alternatives between = .ok (rights, after)) :
    (alt left right).alternatives now = .ok (lefts ++ rights, after) := by
  simp only [alternatives, ofLeft, ofRight, bind, Except.bind]
  rfl

end Tree

def Tree.takesOne : Tree → Bool
  | .literal _ | .dot | .shorthand _ _ | .bracket _ _ => true
  | _ => false

/-- A tree stands for alternatives, with the flags before and after it. -/
inductive Lowers : Tree → Flags → List Expr → Flags → Prop where
  | empty {now} : Lowers .empty now [.empty] now
  | one {tree now chars} : tree.takesOne = true → Lowers tree now [.set chars] now
  | anchor {kind now} : Lowers (.anchor kind) now [.look (now.anchor kind)] now
  | flags {changes now} : Lowers (.flags changes) now [.empty] (now.apply changes)
  | group {index body now branches after} :
      Lowers body now branches after →
      Lowers (.group index body) now [.group index (.choice branches)] now
  | scoped {changes body now branches after} :
      Lowers body (now.apply changes) branches after →
      Lowers (.scoped changes body) now [.choice branches] now
  | repeated {least most greedy body now branches after} :
      Lowers body now branches after →
      Lowers (.repeated least most greedy body) now
        [.repeatedOf least most (greedy != now.swapGreed) (.choice branches)] after
  | cat {left right now lefts between rights after} :
      Lowers left now lefts between → Lowers right between rights after →
      Lowers (.cat left right) now [.concat (.choice lefts) (.choice rights)] after
  | alt {left right now lefts between rights after} :
      Lowers left now lefts between → Lowers right between rights after →
      Lowers (.alt left right) now (lefts ++ rights) after

theorem set_of_literal {flags : Flags} {literal : Literal} {expr : Expr}
    (lowered : flags.literal literal = .ok expr) : ∃ chars, expr = .set chars := by
  unfold Flags.literal at lowered
  split at lowered
  · split at lowered <;> cases lowered <;> exact ⟨_, rfl⟩
  · split at lowered
    · cases lowered
      exact ⟨_, rfl⟩
    · split at lowered <;> cases lowered
      exact ⟨_, rfl⟩

theorem set_of_dot {flags : Flags} {expr : Expr} (lowered : flags.dot = .ok expr) :
    ∃ chars, expr = .set chars := by
  unfold Flags.dot at lowered
  split at lowered
  · cases lowered
  · split at lowered
    · cases lowered
      exact ⟨_, rfl⟩
    · split at lowered <;> cases lowered <;> exact ⟨_, rfl⟩

theorem set_of_bracket {flags : Flags} {negated : Bool} {body : ClassTree} {expr : Expr}
    (lowered : flags.bracket negated body = .ok expr) : ∃ chars, expr = .set chars := by
  obtain ⟨chars, _, success⟩ := exists_of_bind_ok lowered
  cases success
  exact ⟨_, rfl⟩

theorem Tree.lowers {tree : Tree} {now after : Flags} {branches : List Expr}
    (lowered : tree.alternatives now = .ok (branches, after)) :
    Lowers tree now branches after := by
  induction tree generalizing now after branches with
  | empty =>
      cases lowered
      exact .empty
  | literal char =>
      obtain ⟨expr, outcome, success⟩ := exists_of_bind_ok lowered
      cases success
      obtain ⟨chars, rfl⟩ := set_of_literal outcome
      exact .one rfl
  | dot =>
      obtain ⟨expr, outcome, success⟩ := exists_of_bind_ok lowered
      cases success
      obtain ⟨chars, rfl⟩ := set_of_dot outcome
      exact .one rfl
  | shorthand kind negated =>
      obtain ⟨chars, outcome, success⟩ := exists_of_bind_ok lowered
      cases success
      exact .one rfl
  | bracket negated body =>
      obtain ⟨expr, outcome, success⟩ := exists_of_bind_ok lowered
      cases success
      obtain ⟨chars, rfl⟩ := set_of_bracket outcome
      exact .one rfl
  | anchor kind =>
      cases lowered
      exact .anchor
  | flags changes =>
      cases lowered
      exact .flags
  | group index body ih =>
      obtain ⟨inner, later, ofBody, rfl, rfl⟩ := alternatives_group_ok lowered
      exact .group (ih ofBody)
  | «scoped» changes body ih =>
      obtain ⟨inner, later, ofBody, rfl, rfl⟩ := alternatives_scoped_ok lowered
      exact .scoped (ih ofBody)
  | repeated least most greedy body ih =>
      obtain ⟨inner, ofBody, rfl⟩ := alternatives_repeated_ok lowered
      exact .repeated (ih ofBody)
  | cat left right leftIH rightIH =>
      obtain ⟨lefts, between, rights, ofLeft, ofRight, rfl⟩ := alternatives_cat_ok lowered
      exact .cat (leftIH ofLeft) (rightIH ofRight)
  | alt left right leftIH rightIH =>
      obtain ⟨lefts, between, rights, ofLeft, ofRight, rfl⟩ := alternatives_alt_ok lowered
      exact .alt (leftIH ofLeft) (rightIH ofRight)

end TextSchema.Pattern
