import TextSchema.Proofs.Pattern.Edits
import TextSchema.Proofs.Pattern.Lowers
import TextSchema.Proofs.Pattern.Alternatives

/-!
# Groups of expressions

Which of the written groups an expression still has. A group under a repetition
that allows no pass is gone, all others stay: a beginning that alternatives share
has no groups, since no number is written twice. What an expression takes leaves
marks of its own groups only.
-/

set_option autoImplicit false

namespace TextSchema.Pattern

/-- Whether a group stands under a repetition that allows no pass. -/
def Tree.hidesGroup : Tree → Bool
  | .group _ body => body.hidesGroup
  | .scoped _ body => body.hidesGroup
  | .repeated least most _ body =>
      (least == 0 && most == some 0 && !body.groups.isEmpty) || body.hidesGroup
  | .cat left right => left.hidesGroup || right.hidesGroup
  | .alt left right => left.hidesGroup || right.hidesGroup
  | _ => false

namespace Expr

theorem groups_concat (left right : Expr) :
    (concat left right).groups = left.groups ++ right.groups := by
  induction left with
  | empty => rfl
  | cat first second _ ih => simp [concat, groups, ih]
  | _ => cases right <;> simp [concat, groups]

theorem groups_foldl_concat (exprs : List Expr) (first : Expr) :
    (exprs.foldl concat first).groups = first.groups ++ exprs.flatMap groups := by
  induction exprs generalizing first with
  | nil => exact (List.append_nil _).symm
  | cons second rest ih =>
      rw [List.foldl_cons, ih, groups_concat, List.flatMap_cons, List.append_assoc]

theorem flatMap_groups_items (expr : Expr) : expr.items.flatMap groups = expr.groups := by
  induction expr with
  | cat first second _ ih => simp [items, groups, ih]
  | _ => simp [items, groups]

theorem groups_ofItems (items : List Expr) : (ofItems items).groups = items.flatMap groups := by
  fun_induction ofItems items with
  | case1 => rfl
  | case2 item => simp
  | case3 item rest _ ih => simp [groups, ih]

theorem groups_alternation (branches : List Expr) :
    (alternation branches).groups = branches.flatMap groups := by
  fun_induction alternation branches with
  | case1 => rfl
  | case2 branch => simp
  | case3 branch rest _ ih => simp [groups, ih]

theorem groups_anyOf (branches : List Expr) :
    (anyOf branches).groups = branches.flatMap groups := by
  rcases anyOf_cases branches with ⟨sets, rfl, same⟩ | same
  · rw [same, List.flatMap_map]
    exact (List.flatMap_eq_nil_iff.mpr fun _ _ => rfl).symm
  · rw [same, groups_alternation]

theorem flatMap_groups_alternatives (expr : Expr) :
    (alternatives expr).flatMap groups = expr.groups := by
  induction expr with
  | alt first second _ ih => simp [alternatives, groups, ih]
  | _ => simp [alternatives, groups]

theorem groups_tails (shared : Nat) (branches : List Expr) :
    (tails shared branches).flatMap groups =
      branches.flatMap fun branch => (branch.items.drop shared).flatMap groups := by
  simp only [tails, List.flatMap_assoc, flatMap_groups_alternatives, groups_ofItems]

theorem groups_eq_of_alike {left right : Expr} (same : alike left right = true) :
    left.groups = right.groups := by
  fun_induction alike left right with
  | case1 | case2 | case3 => rfl
  | case4 index left other right ih =>
      obtain ⟨indices, bodies⟩ := Bool.and_eq_true_iff.mp same
      rw [groups, groups, eq_of_beq indices, ih bodies]
  | case5 least most greedy left fewest limit eager right ih =>
      exact ih (Bool.and_eq_true_iff.mp same).2
  | case6 first rest other more firstIH restIH | case7 first rest other more firstIH restIH =>
      obtain ⟨firsts, rests⟩ := Bool.and_eq_true_iff.mp same
      rw [groups, groups, firstIH firsts, restIH rests]
  | case8 => cases same

theorem LeadOf.groups_items {lead items : List Expr} (leads : LeadOf lead items) :
    items.flatMap groups = lead.flatMap groups ++ (items.drop lead.length).flatMap groups := by
  rw [List.flatMap_def (l := lead), ← leads.map_take groups_eq_of_alike, ← List.flatMap_def,
    ← List.flatMap_append, List.take_append_drop]

/-- A shared beginning has no groups if no number is used twice. -/
theorem groups_sharedLead {branches : List Expr} (nodup : (branches.flatMap groups).Nodup) :
    (sharedLead branches).flatMap groups = [] := by
  rcases branches with _ | ⟨first, _ | ⟨second, rest⟩⟩
  · rfl
  · rfl
  · apply List.eq_nil_iff_forall_not_mem.mpr
    intro index shared
    have inBranch : ∀ branch ∈ first :: second :: rest, index ∈ branch.groups := by
      intro branch member
      rw [← flatMap_groups_items, (leadOf_sharedLead member).groups_items]
      exact List.mem_append_left _ shared
    have one := inBranch first (.head _)
    have two := inBranch second (.tail _ (.head _))
    rw [List.flatMap_cons, List.nodup_append] at nodup
    refine nodup.2.2 index one index ?_ rfl
    exact List.mem_flatMap.mpr ⟨second, .head _, two⟩

theorem groups_choice {branches : List Expr} (nodup : (branches.flatMap groups).Nodup) :
    (choice branches).groups = branches.flatMap groups := by
  have flat : (branches.flatMap alternatives).flatMap groups = branches.flatMap groups := by
    simp only [List.flatMap_assoc, flatMap_groups_alternatives]
  have lead := groups_sharedLead (flat ▸ nodup)
  rcases choice_cases branches with one | same | same
  · rw [one]
    exact (List.flatMap_singleton ..).symm
  · rw [same, groups_anyOf, flat]
  · have tail : ∀ branch ∈ branches.flatMap alternatives,
        (branch.items.drop (sharedLead (branches.flatMap alternatives)).length).flatMap groups =
          branch.groups := by
      intro branch member
      rw [← flatMap_groups_items branch, (leadOf_sharedLead member).groups_items, lead,
        List.nil_append]
    rw [same, groups_ofItems, List.flatMap_append, lead, List.nil_append, List.flatMap_singleton,
      groups_anyOf, groups_tails, ← flat, List.flatMap_def, List.map_congr_left tail,
      ← List.flatMap_def]

theorem countsFor_eq_none_iff {least : Nat} {most : Option Nat} {body : Expr} :
    countsFor least most body = (0, some 0) ↔ least = 0 ∧ most = some 0 := by
  unfold countsFor
  split
  · rcases most with _ | most
    · simp
    · simp only [Option.getD_some, Prod.mk.injEq, Option.some.injEq]
      omega
  · exact Prod.mk.injEq .. ▸ Iff.rfl

theorem groups_repeatedOf (least : Nat) (most : Option Nat) (greedy : Bool) (body : Expr) :
    (repeatedOf least most greedy body).groups =
      if least = 0 ∧ most = some 0 then [] else body.groups := by
  by_cases none : least = 0 ∧ most = some 0
  · rw [if_pos none, repeatedOf, countsFor_eq_none_iff.mpr none]
    rfl
  · have other : countsFor least most body ≠ (0, some 0) := by
      rwa [ne_eq, countsFor_eq_none_iff]
    rw [if_neg none]
    unfold repeatedOf
    split
    · exact absurd ‹_› other
    · rfl
    · rfl

end Expr

/-! ## Lowering -/

/-- Of the groups written some are kept, in order, and all of them if none is hidden. -/
structure KeepsGroups (tree : Tree) (kept : List Nat) : Prop where
  sublist : kept.Sublist tree.groups
  all_iff : kept = tree.groups ↔ tree.hidesGroup = false

theorem KeepsGroups.of_nil {tree : Tree} (written : tree.groups = [])
    (shown : tree.hidesGroup = false) : KeepsGroups tree [] :=
  ⟨List.nil_sublist _, by simp [written, shown]⟩

theorem KeepsGroups.append {left right both : Tree} {lefts rights : List Nat}
    (one : KeepsGroups left lefts) (two : KeepsGroups right rights)
    (written : both.groups = left.groups ++ right.groups)
    (hidden : both.hidesGroup = (left.hidesGroup || right.hidesGroup)) :
    KeepsGroups both (lefts ++ rights) := by
  refine ⟨written ▸ one.sublist.append two.sublist, ?_⟩
  rw [written, hidden, Bool.or_eq_false_iff, ← one.all_iff, ← two.all_iff]
  constructor
  · intro same
    have lengths := congrArg List.length same
    have leftLength := one.sublist.length_le
    have rightLength := two.sublist.length_le
    rw [List.length_append, List.length_append] at lengths
    exact List.append_inj same (by omega)
  · intro given
    obtain ⟨rfl, rfl⟩ := given
    rfl

theorem Lowers.keepsGroups {tree : Tree} {now after : Flags} {branches : List Expr}
    (lowered : Lowers tree now branches after) (nodup : tree.groups.Nodup) :
    KeepsGroups tree (branches.flatMap Expr.groups) := by
  induction lowered with
  | empty => exact .of_nil rfl rfl
  | @one tree now chars item =>
      refine .of_nil ?_ ?_
      · cases tree <;> first | rfl | cases item
      · cases tree <;> first | rfl | cases item
  | anchor => exact .of_nil rfl rfl
  | flags => exact .of_nil rfl rfl
  | @group index body now branches after _ ih =>
      have inner := (List.nodup_cons.mp nodup).2
      have keeps := ih inner
      rw [List.flatMap_singleton, Expr.groups, Expr.groups_choice (inner.sublist keeps.sublist)]
      exact ⟨keeps.sublist.cons_cons index, (List.cons_inj_right index).trans keeps.all_iff⟩
  | «scoped» _ ih =>
      have keeps := ih nodup
      rw [List.flatMap_singleton, Expr.groups_choice (nodup.sublist keeps.sublist)]
      exact ⟨keeps.sublist, keeps.all_iff⟩
  | @repeated least most greedy body now branches after _ ih =>
      have keeps := ih nodup
      rw [List.flatMap_singleton, Expr.groups_repeatedOf,
        Expr.groups_choice (nodup.sublist keeps.sublist)]
      have hidden : (Tree.repeated least most greedy body).hidesGroup =
          ((least == 0 && most == some 0 && !body.groups.isEmpty) || body.hidesGroup) := rfl
      by_cases none : least = 0 ∧ most = some 0
      · rw [if_pos none]
        obtain ⟨rfl, rfl⟩ := none
        refine ⟨List.nil_sublist _, ?_⟩
        change [] = body.groups ↔ _
        cases written : body.groups with
        | nil =>
            have nothing := keeps.sublist
            rw [written, List.sublist_nil] at nothing
            have shown : body.hidesGroup = false := keeps.all_iff.mp (by rw [nothing, written])
            simp [hidden, written, shown]
        | cons first rest => simp [hidden, written]
      · rw [if_neg none]
        have allowed : (least == 0 && most == some 0) = false := by
          simpa using none
        rw [allowed, Bool.false_and, Bool.false_or] at hidden
        exact ⟨keeps.sublist, hidden ▸ keeps.all_iff⟩
  | cat _ _ leftIH rightIH =>
      obtain ⟨left, right, _⟩ := List.nodup_append.mp nodup
      have lefts := leftIH left
      have rights := rightIH right
      rw [List.flatMap_singleton, Expr.groups_concat,
        Expr.groups_choice (left.sublist lefts.sublist),
        Expr.groups_choice (right.sublist rights.sublist)]
      exact lefts.append rights rfl rfl
  | alt _ _ leftIH rightIH =>
      obtain ⟨left, right, _⟩ := List.nodup_append.mp nodup
      rw [List.flatMap_append]
      exact (leftIH left).append (rightIH right) rfl rfl

/-! ## Marks -/

theorem Expr.Takes.group_mem {expr : Expr} {start stop : Place} {marks : Marks}
    (takes : expr.Takes start marks stop) : ∀ mark ∈ marks, mark.1.group ∈ expr.groups := by
  induction expr generalizing start marks stop with
  | empty =>
      obtain ⟨rfl, _⟩ := takes
      exact List.forall_mem_nil _
  | set chars =>
      obtain ⟨_, rfl, _⟩ := takes
      exact List.forall_mem_nil _
  | look condition =>
      obtain ⟨_, rfl, _⟩ := takes
      exact List.forall_mem_nil _
  | group index body ih =>
      obtain ⟨inner, inside, rfl⟩ := takes
      intro mark given
      rcases given with _ | ⟨_, member⟩
      · exact .head _
      · cases List.mem_append.mp member with
        | inl ofBody => exact .tail _ (ih inside mark ofBody)
        | inr opening =>
          obtain rfl := List.mem_singleton.mp opening
          exact .head _
  | repeated least most greedy body ih =>
      induction takes with
      | done => exact List.forall_mem_nil _
      | more _ pass _ passesIH =>
          intro mark member
          cases List.mem_append.mp member with
          | inl later => exact passesIH mark later
          | inr first => exact ih pass mark first
  | cat left right leftIH rightIH =>
      obtain ⟨middle, first, later, ofLeft, ofRight, rfl⟩ := takes
      intro mark member
      cases List.mem_append.mp member with
      | inl second => exact List.mem_append_right _ (rightIH ofRight mark second)
      | inr first => exact List.mem_append_left _ (leftIH ofLeft mark first)
  | alt left right leftIH rightIH =>
      cases takes with
      | inl ofLeft =>
        exact fun mark member => List.mem_append_left _ (leftIH ofLeft mark member)
      | inr ofRight =>
        exact fun mark member => List.mem_append_right _ (rightIH ofRight mark member)

theorem lookup_of_other {marks : Marks} {mark : Mark}
    (other : ∀ entry ∈ marks, entry.1.group ≠ mark.group) : marks.lookup mark = none := by
  rw [List.lookup_eq_none_iff]
  intro entry member
  simp only [bne_iff_ne, ne_eq]
  intro same
  exact other entry member (by rw [same])

theorem Match.group?_of_lookup {found : Match} {index start stop : Nat} (numbered : index ≠ 0)
    (opened : found.marks.lookup (.opened index) = some start)
    (closed : found.marks.lookup (.closed index) = some stop) :
    found.group? index = some (start, stop) := by
  rw [group?, if_neg numbered, opened, closed]
  rfl

theorem Expr.Takes.lookup_group {index : Nat} {body : Expr} {start stop : Place} {marks : Marks}
    (takes : (Expr.group index body).Takes start marks stop) (alone : index ∉ body.groups) :
    marks.lookup (.opened index) = some start.index ∧
      marks.lookup (.closed index) = some stop.index := by
  obtain ⟨inner, inside, rfl⟩ := takes
  have skipped : List.lookup (Mark.opened index) inner = none := by
    apply lookup_of_other
    intro entry member same
    apply alone
    have ofBody := inside.group_mem entry member
    rwa [same] at ofBody
  constructor
  · have unequal : (Mark.opened index == Mark.closed index) = false := rfl
    rw [List.lookup_cons, unequal, List.lookup_append, skipped]
    simp
  · exact List.lookup_cons_self

end TextSchema.Pattern
