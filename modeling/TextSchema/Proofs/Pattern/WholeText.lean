import TextSchema.Proofs.Pattern.Numbering

/-!
# Matching whole texts

A pattern between its two anchors matches a text exactly if its expression takes
the text from the start to the end. The match lies at the start of the text, so a
search never goes past the first place.
-/

set_option autoImplicit false

namespace TextSchema.Pattern

/-- Whether a pattern that compiles takes a whole text. -/
def takesWhole (caseless : Bool) (pattern text : String) : Bool :=
  match Acceptor.compile pattern caseless with
  | .ok acceptor => acceptor.accepts text
  | .error _ => false

namespace Expr

/-- The expression takes the whole text and leaves these marks. -/
def TakesAll (expr : Expr) (text : List Char) (marks : Marks) : Prop :=
  ∃ stop, expr.Takes (.first text) marks stop ∧ stop.rest = []

variable {left right body : Expr} {start stop : Place} {marks : Marks}

theorem takes_cat_empty : (cat left .empty).Takes start marks stop ↔ left.Takes start marks stop := by
  constructor
  · intro given
    obtain ⟨middle, first, _, takes, ⟨rfl, rfl⟩, rfl⟩ := given
    exact takes
  · intro takes
    exact ⟨stop, marks, [], takes, ⟨rfl, rfl⟩, rfl⟩

theorem takes_empty_cat :
    (cat .empty right).Takes start marks stop ↔ right.Takes start marks stop := by
  constructor
  · intro given
    obtain ⟨_, _, later, ⟨rfl, rfl⟩, takes, rfl⟩ := given
    rwa [List.append_nil]
  · intro takes
    exact ⟨start, [], marks, ⟨rfl, rfl⟩, takes, (List.append_nil _).symm⟩

theorem takes_cat_assoc {first second third : Expr} :
    (cat (cat first second) third).Takes start marks stop ↔
      (cat first (cat second third)).Takes start marks stop := by
  constructor
  · intro given
    obtain ⟨_, _, last, ⟨_, one, two, ofFirst, ofSecond, rfl⟩, ofThird, rfl⟩ := given
    exact ⟨_, one, last ++ two, ofFirst, ⟨_, two, last, ofSecond, ofThird, rfl⟩,
      (List.append_assoc ..).symm⟩
  · intro given
    obtain ⟨_, one, _, ofFirst, ⟨_, two, last, ofSecond, ofThird, rfl⟩, rfl⟩ := given
    exact ⟨_, two ++ one, last, ⟨_, one, two, ofFirst, ofSecond, rfl⟩, ofThird,
      List.append_assoc ..⟩

theorem takes_concat :
    (concat left right).Takes start marks stop ↔ (cat left right).Takes start marks stop := by
  induction left generalizing start marks stop with
  | empty => exact takes_empty_cat.symm
  | cat first second _ ih =>
      rw [takes_cat_assoc]
      constructor
      · intro given
        obtain ⟨middle, one, later, ofFirst, rest, rfl⟩ := given
        exact ⟨middle, one, later, ofFirst, ih.mp rest, rfl⟩
      · intro given
        obtain ⟨middle, one, later, ofFirst, rest, rfl⟩ := given
        exact ⟨middle, one, later, ofFirst, ih.mpr rest, rfl⟩
  | _ =>
      cases right with
      | empty => exact takes_cat_empty.symm
      | _ => exact Iff.rfl

def anchored (body : Expr) : Expr :=
  concat (concat (.look .textStart) body) (.look .textEnd)

theorem takes_anchored :
    body.anchored.Takes start marks stop ↔
      start.before = none ∧ body.Takes start marks stop ∧ stop.rest = [] := by
  unfold anchored
  rw [takes_concat]
  constructor
  · intro given
    obtain ⟨middle, first, _, opening, ⟨atEnd, rfl, rfl⟩, rfl⟩ := given
    obtain ⟨_, _, later, ⟨atStart, rfl, rfl⟩, takes, rfl⟩ := takes_concat.mp opening
    refine ⟨by simpa [Look.holds] using atStart, by simpa using takes, ?_⟩
    simpa [Look.holds] using atEnd
  · intro given
    obtain ⟨atStart, takes, atEnd⟩ := given
    refine ⟨stop, marks, [], takes_concat.mpr ?_, ⟨by simp [Look.holds, atEnd], rfl, rfl⟩, rfl⟩
    exact ⟨start, [], marks, ⟨by simp [Look.holds, atStart], rfl, rfl⟩, takes,
      (List.append_nil _).symm⟩

theorem searchFrom_eq_matchAt {expr : Expr}
    (atStart : ∀ place marks stop, expr.Takes place marks stop → place.before = none)
    (before : Option Char) (text : List Char) (index : Nat) :
    expr.searchFrom before text index = expr.matchAt ⟨before, text, index⟩ := by
  induction text generalizing before index with
  | nil => rfl
  | cons char rest ih =>
      have behind : expr.matchAt ⟨some char, rest, index + 1⟩ = none := by
        apply Option.not_isSome_iff_eq_none.mp
        intro found
        obtain ⟨marks, stop, takes⟩ := isSome_matchAt_iff.mp found
        cases atStart _ _ _ takes
      rw [searchFrom, ih, behind]
      cases expr.matchAt ⟨before, char :: rest, index⟩ <;> rfl

theorem search_anchored (body : Expr) (text : List Char) :
    body.anchored.search text = body.anchored.matchAt (.first text) :=
  searchFrom_eq_matchAt (fun _ _ _ takes => (takes_anchored.mp takes).1) none text 0

/-- The match that is found is the whole text as the expression takes it. -/
theorem takesAll_of_search {body : Expr} {text : List Char} {found : Match}
    (success : body.anchored.search text = some found) : body.TakesAll text found.marks := by
  rw [search_anchored] at success
  obtain ⟨stop, takes, _⟩ := takes_of_matchAt success
  obtain ⟨_, inside, ended⟩ := takes_anchored.mp takes
  exact ⟨stop, inside, ended⟩

theorem isSome_search_anchored_iff {body : Expr} {text : List Char} :
    (body.anchored.search text).isSome = true ↔ ∃ marks, body.TakesAll text marks := by
  rw [search_anchored, isSome_matchAt_iff]
  constructor
  · intro given
    obtain ⟨marks, stop, takes⟩ := given
    obtain ⟨_, inside, ended⟩ := takes_anchored.mp takes
    exact ⟨marks, stop, inside, ended⟩
  · intro given
    obtain ⟨marks, stop, takes, ended⟩ := given
    exact ⟨marks, stop, takes_anchored.mpr ⟨rfl, takes, ended⟩⟩

end Expr

/-! ## Compiled patterns -/

open Reader

theorem toExpr_wholeTree_eq {body : Tree} {caseless : Bool} {branches : List Expr} {after : Flags}
    (lowered : body.alternatives (.initial caseless) = .ok (branches, after)) :
    (wholeTree body).toExpr caseless = .ok (Expr.choice branches).anchored := by
  have opening : (Tree.cat (.anchor .lineStart) (.scoped [] body)).alternatives
      (.initial caseless) = .ok ([_], .initial caseless) :=
    Tree.alternatives_cat_eq rfl (Tree.alternatives_scoped_eq lowered)
  rw [Tree.toExpr, wholeTree, Tree.alternatives_cat_eq opening rfl]
  rfl

theorem toExpr_wholeTree {body : Tree} {caseless : Bool} {expr : Expr}
    (lowered : (wholeTree body).toExpr caseless = .ok expr) :
    ∃ branches after, body.alternatives (.initial caseless) = .ok (branches, after) ∧
      expr = (Expr.choice branches).anchored := by
  obtain ⟨⟨branches, after⟩, ofWhole, success⟩ := exists_of_bind_ok lowered
  cases success
  obtain ⟨_, between, _, ofBoth, ofEnd, rfl⟩ := Tree.alternatives_cat_ok ofWhole
  obtain ⟨_, middle, _, ofStart, ofBody, rfl⟩ := Tree.alternatives_cat_ok ofBoth
  cases ofStart
  obtain ⟨inner, later, ofInner, rfl, rfl⟩ := Tree.alternatives_scoped_ok ofBody
  cases ofEnd
  exact ⟨inner, later, ofInner, rfl⟩

theorem exists_acceptor {caseless : Bool} {pattern text : String}
    (taken : takesWhole caseless pattern text = true) :
    ∃ acceptor, Acceptor.compile pattern caseless = .ok acceptor := by
  unfold takesWhole at taken
  split at taken
  · exact ⟨_, ‹_›⟩
  · cases taken

theorem compile_ok {pattern : String} {caseless : Bool} {acceptor : Acceptor}
    (compiled : Acceptor.compile pattern caseless = .ok acceptor) :
    ∃ tree, Tree.read (wholeText pattern).toList = .ok tree ∧
      tree.toExpr caseless = .ok acceptor.expr := by
  unfold Acceptor.compile at compiled
  cases read : Expr.read caseless (wholeText pattern).toList with
  | error flaw =>
      rw [read] at compiled
      cases compiled
  | ok expr =>
      rw [read] at compiled
      cases compiled
      exact exists_of_bind_ok read

theorem compile_body {pattern : String} {caseless : Bool} {acceptor : Acceptor} {body : Tree}
    (compiled : Acceptor.compile pattern caseless = .ok acceptor)
    (reads : ∀ result, wholeStart.readOn (pattern.toList ++ [')', '$']) = .ok result →
      result = wholeTree body) :
    (wholeTree body).nesting ≤ nestingLimit ∧
      ∃ branches after, body.alternatives (.initial caseless) = .ok (branches, after) ∧
        acceptor.expr = (Expr.choice branches).anchored := by
  obtain ⟨whole, read, lowered⟩ := compile_ok compiled
  rw [read_wholeText] at read
  obtain ⟨tree, readOn, shallow⟩ := exists_of_bind_ok read
  obtain rfl := reads tree readOn
  change (if (wholeTree body).nesting ≤ nestingLimit then _ else _) = _ at shallow
  split at shallow
  · cases shallow
    exact ⟨‹_›, toExpr_wholeTree lowered⟩
  · cases shallow

theorem compile_eq {pattern : String} {caseless : Bool} {tree : Tree} {expr : Expr}
    (read : Tree.read (wholeText pattern).toList = .ok tree)
    (lowered : tree.toExpr caseless = .ok expr) :
    Acceptor.compile pattern caseless = .ok ⟨pattern, expr⟩ := by
  have whole : Expr.read caseless (wholeText pattern).toList = .ok expr := by
    rw [Expr.read, read]
    exact lowered
  rw [Acceptor.compile, whole]

end TextSchema.Pattern
