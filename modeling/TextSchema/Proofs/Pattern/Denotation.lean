import TextSchema.Proofs.Pattern.Language

/-!
# Languages of pattern trees

The texts that a pattern takes, read off its tree. The statements are about whatever
a tree is lowered to, so that they say nothing where lowering fails.
-/

set_option autoImplicit false

namespace TextSchema.Pattern

open scoped Computability
open List (Forall₂)

/-- Under these flags, a tree stands for an expression that has no conditions and takes
the texts of a language. -/
def Tree.Denotes (now : Flags) (tree : Tree) (words : Language Char) : Prop :=
  ∀ branches after, tree.alternatives now = .ok (branches, after) →
    (Expr.choice branches).looksAround = false ∧ (Expr.choice branches).language = words

def blankWords : Language Char :=
  {word | ∃ char, word = [char] ∧ Text.isBlank char = true}

/-- The texts that a pattern takes alone. -/
def itemWords (caseless : Bool) (pattern : String) : Language Char :=
  {word | takesWhole caseless pattern (String.ofList word) = true}

namespace Tree

variable {tree : Tree} {trees : List Tree} {now : Flags} {words : Language Char}
  {languages : List (Language Char)} {caseless : Bool}

theorem Denotes.group (denotes : tree.Denotes now words) (index offset : Nat) :
    (Tree.group index (tree.renumber offset)).Denotes now words := by
  intro branches after lowered
  obtain ⟨_, later, ofBody, rfl, _⟩ := alternatives_group_ok lowered
  rw [alternatives_renumber] at ofBody
  cases alone : tree.alternatives now with
  | error flaw =>
      rw [alone] at ofBody
      cases ofBody
  | ok inner =>
      rw [alone] at ofBody
      cases ofBody
      obtain ⟨free, same⟩ := denotes inner.1 inner.2 alone
      change (Expr.choice (inner.1.map (Expr.renumber offset))).looksAround = false ∧
        (Expr.choice (inner.1.map (Expr.renumber offset))).language = words
      rw [← Expr.renumber_choice, Expr.looksAround_renumber, Expr.language_renumber]
      exact ⟨free, same⟩

theorem Denotes.star (denotes : tree.Denotes now words) (greedy : Bool) :
    (Tree.repeated 0 none greedy tree).Denotes now words∗ := by
  intro branches after lowered
  obtain ⟨inner, ofBody, rfl⟩ := alternatives_repeated_ok lowered
  obtain ⟨free, rfl⟩ := denotes inner after ofBody
  exact ⟨Expr.looksAround_repeatedOf _ _ _ free, Expr.language_repeatedOf_star _ _⟩

theorem Denotes.optional (denotes : tree.Denotes now words) (greedy : Bool) :
    (Tree.repeated 0 (some 1) greedy tree).Denotes now (1 + words) := by
  intro branches after lowered
  obtain ⟨inner, ofBody, rfl⟩ := alternatives_repeated_ok lowered
  obtain ⟨free, rfl⟩ := denotes inner after ofBody
  exact ⟨Expr.looksAround_repeatedOf _ _ _ free, Expr.language_repeatedOf_optional _ _⟩

theorem Denotes.ofItems (closed : ∀ tree ∈ trees, tree.isClosed = true)
    (denotes : Forall₂ (Denotes now) trees languages) :
    (Tree.ofItems trees).Denotes now languages.prod := by
  intro branches after lowered
  obtain ⟨exprs, stands, same⟩ := alternatives_ofItems closed lowered
  rw [same, Expr.looksAround_foldl_concat, Expr.language_foldl_concat]
  clear same lowered closed
  change (exprs.any Expr.looksAround) = false ∧ 1 * (exprs.map Expr.language).prod = _
  rw [one_mul]
  induction denotes generalizing exprs with
  | nil =>
      cases stands
      exact ⟨rfl, rfl⟩
  | cons first _ ih =>
      cases stands with
      | cons here later =>
          obtain ⟨free, same⟩ := first _ _ here
          obtain ⟨freeLater, sameLater⟩ := ih _ later
          constructor
          · rw [List.any_cons, freeLater, Bool.or_false]
            exact free
          · rw [List.map_cons, List.prod_cons, List.prod_cons, sameLater]
            exact congrArg (· * _) same

theorem denotes_blankRun : Reader.blankRun.Denotes (.initial caseless) blankWords∗ := by
  refine Denotes.star ?_ true
  intro branches after lowered
  cases lowered
  exact ⟨rfl, rfl⟩

theorem denotes_plain {char : Char} (alone : caseless = true → Text.caseVariants char = []) :
    (Reader.plain char).Denotes (.initial caseless) {[char]} := by
  intro branches after lowered
  have words : ∀ chars : CharSet, (∀ other, chars.mem other = true ↔ other = char) →
      (Expr.set chars).language = {[char]} := by
    intro chars only
    ext word
    constructor
    · intro member
      obtain ⟨other, rfl, inSet⟩ := member
      rw [(only other).mp inSet]
      rfl
    · intro member
      exact ⟨char, member, (only char).mpr rfl⟩
  cases caseless with
  | false =>
      cases lowered
      exact ⟨rfl, words _ (by simp [Literal.plain])⟩
  | true =>
      cases lowered
      refine ⟨rfl, words _ ?_⟩
      simp [Literal.plain, alone rfl]

theorem denotes_plains {text : List Char}
    (alone : caseless = true → ∀ char ∈ text, Text.caseVariants char = []) :
    Forall₂ (Denotes (.initial caseless)) (text.map Reader.plain)
      (text.map fun char => {[char]}) := by
  rw [List.forall₂_map_left_iff, List.forall₂_map_right_iff, List.forall₂_same]
  exact fun char member => denotes_plain fun folds => alone folds char member

theorem prod_letters (text : List Char) :
    (text.map fun char => ({[char]} : Language Char)).prod = {text} := by
  induction text with
  | nil => rfl
  | cons char rest ih =>
      rw [List.map_cons, List.prod_cons, ih]
      ext word
      rw [Language.mem_mul]
      constructor
      · intro member
        obtain ⟨one, inFirst, two, inRest, rfl⟩ := member
        rw [show one = [char] from inFirst, show two = rest from inRest]
        rfl
      · intro member
        exact ⟨[char], rfl, rest, rfl, (show word = char :: rest from member).symm⟩

end Tree

/-- What a part takes alone, the larger pattern takes in its place. -/
theorem Part.denotes {part : Part} {caseless : Bool}
    (shallow : (Reader.wholeTree part.tree).nesting ≤ nestingLimit)
    (free : looksAround part.pattern = false) :
    part.tree.Denotes (.initial caseless) (itemWords caseless part.pattern) := by
  intro branches after lowered
  have means : part.Means caseless (.choice branches) := by
    rw [Means, Tree.toExpr, lowered]
    rfl
  refine ⟨means.looksAround free, ?_⟩
  ext word
  have same := means.takesWhole_iff_mem shallow free (String.ofList word)
  rw [String.toList_ofList] at same
  exact same.symm

/-- A pattern that compiles takes the texts of its language. -/
theorem takesWhole_iff_of_denotes {pattern : String} {caseless : Bool} {acceptor : Acceptor}
    {body : Tree} {words : Language Char}
    (compiled : Acceptor.compile pattern caseless = .ok acceptor)
    (reads : ∀ result, Reader.wholeStart.readOn (pattern.toList ++ [')', '$']) = .ok result →
      result = Reader.wholeTree body)
    (denotes : body.Denotes (.initial caseless) words) (text : String) :
    takesWhole caseless pattern text = true ↔ text.toList ∈ words := by
  obtain ⟨_, branches, after, lowered, same⟩ := compile_body compiled reads
  obtain ⟨free, rfl⟩ := denotes branches after lowered
  rw [takesWhole, compiled]
  change (acceptor.expr.search text.toList).isSome = true ↔ _
  rw [same, Expr.isSome_search_anchored_iff, Expr.exists_takesAll_iff free]

end TextSchema.Pattern
