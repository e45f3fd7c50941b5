import Mathlib.Computability.Language
import TextSchema.Proofs.Pattern.Parts

/-!
# Languages of expressions

The texts that an expression takes, wherever they stand. What is taken at a place
is always such a text; without assertions about the surroundings, each of them is
taken at every place where it stands. Only then is matching a part of a text the
same as matching that part alone.
-/

set_option autoImplicit false

namespace TextSchema.Pattern

open scoped Computability

/-! ## Stretches of a text -/

/-- Between the places stands this stretch of text. -/
def Place.Spans (start : Place) (word : List Char) (stop : Place) : Prop :=
  start.rest = word ++ stop.rest ∧ stop = start.skip word.length

namespace Place

theorem skip_add (place : Place) (first second : Nat) :
    place.skip (first + second) = (place.skip first).skip second := by
  induction first generalizing place with
  | zero => rw [Nat.zero_add, skip]
  | succ first ih => rw [Nat.succ_add, skip, skip, ih]

theorem rest_next (place : Place) : place.next.rest = place.rest.tail := by
  unfold next
  cases rest : place.rest with
  | nil => exact rest
  | cons => rfl

theorem rest_skip (place : Place) (count : Nat) :
    (place.skip count).rest = place.rest.drop count := by
  induction count generalizing place with
  | zero => rfl
  | succ count ih => rw [skip, ih, rest_next, List.drop_tail]

theorem index_skip (place : Place) {count : Nat} (within : count ≤ place.rest.length) :
    (place.skip count).index = place.index + count := by
  induction count generalizing place with
  | zero => rfl
  | succ count ih =>
      cases rest : place.rest with
      | nil => simp [rest] at within
      | cons char tail =>
          have onward : count ≤ place.next.rest.length := by
            rw [rest_next, rest]
            simpa [rest] using within
          rw [skip, ih place.next onward]
          simp only [next, rest]
          omega

theorem spans_nil (place : Place) : place.Spans [] place := ⟨rfl, rfl⟩

theorem spans_skip {place : Place} {word rest : List Char} (text : place.rest = word ++ rest) :
    place.Spans word (place.skip word.length) := by
  refine ⟨?_, rfl⟩
  rw [rest_skip, text, List.drop_left]

theorem Spans.char {place : Place} {char : Char} {rest : List Char}
    (text : place.rest = char :: rest) : place.Spans [char] place.next :=
  @spans_skip place [char] rest text

namespace Spans

variable {start middle stop : Place} {word first second : List Char}

theorem append (one : start.Spans first middle) (two : middle.Spans second stop) :
    start.Spans (first ++ second) stop := by
  obtain ⟨text, rfl⟩ := one
  obtain ⟨more, rfl⟩ := two
  refine ⟨?_, ?_⟩
  · rw [text, more, List.append_assoc]
  · rw [List.length_append, skip_add]

theorem index_eq (spans : start.Spans word stop) : stop.index = start.index + word.length := by
  obtain ⟨text, rfl⟩ := spans
  apply index_skip start
  rw [text, List.length_append]
  exact Nat.le_add_right _ _

end Spans

end Place

namespace Expr

def looksAround : Expr → Bool
  | .empty | .set _ => false
  | .look _ => true
  | .group _ body => body.looksAround
  | .repeated _ _ _ body => body.looksAround
  | .cat left right => left.looksAround || right.looksAround
  | .alt left right => left.looksAround || right.looksAround

def repeatedWords (least : Nat) (most : Option Nat) (words : Language Char) : Language Char :=
  {text | ∃ parts : List (List Char), text = parts.flatten ∧ least ≤ parts.length ∧
    (∀ limit, most = some limit → parts.length ≤ max least limit) ∧ ∀ part ∈ parts, part ∈ words}

/-- The texts that an expression takes where its conditions hold. -/
def language : Expr → Language Char
  | .empty => 1
  | .set chars => {text | ∃ char, text = [char] ∧ chars.mem char = true}
  | .look _ => 1
  | .group _ body => body.language
  | .repeated least most _ body => repeatedWords least most body.language
  | .cat left right => left.language * right.language
  | .alt left right => left.language + right.language

variable {expr body left right : Expr} {start stop : Place} {marks : Marks}

private theorem Passes.mem_words {least : Nat} {most : Option Nat} {words : Language Char}
    (through : ∀ {start stop : Place} {marks : Marks}, body.Takes start marks stop →
      ∃ word ∈ words, start.Spans word stop)
    (passes : Passes body.Takes least most start marks stop) :
    ∃ word ∈ repeatedWords least most words, start.Spans word stop := by
  induction passes with
  | @done most place =>
      exact ⟨[], ⟨[], rfl, Nat.le_refl _, fun _ _ => Nat.zero_le _, List.forall_mem_nil _⟩,
        place.spans_nil⟩
  | @more least most start middle stop first later allowed pass _ ih =>
      obtain ⟨word, inWords, here⟩ := through pass
      obtain ⟨_, ⟨parts, rfl, enough, bounded, all⟩, there⟩ := ih
      refine ⟨word ++ parts.flatten, ⟨word :: parts, rfl, ?_, ?_, ?_⟩, here.append there⟩
      · rw [List.length_cons]
        omega
      · intro limit same
        subst same
        have bound := bounded (limit - 1) rfl
        have positive : least ≠ 0 ∨ limit ≠ 0 := by simpa using allowed
        rw [List.length_cons]
        omega
      · exact List.forall_mem_cons.mpr ⟨inWords, all⟩

theorem Takes.mem_language (takes : expr.Takes start marks stop) :
    ∃ word ∈ expr.language, start.Spans word stop := by
  induction expr generalizing start marks stop with
  | empty =>
      obtain ⟨_, rfl⟩ := takes
      exact ⟨[], rfl, stop.spans_nil⟩
  | set chars =>
      obtain ⟨⟨char, text, rest, member⟩, _, rfl⟩ := takes
      exact ⟨[char], ⟨char, rfl, member⟩, Place.Spans.char rest⟩
  | look condition =>
      obtain ⟨_, _, rfl⟩ := takes
      exact ⟨[], rfl, stop.spans_nil⟩
  | group index body ih =>
      obtain ⟨inner, inside, _⟩ := takes
      exact ih inside
  | repeated least most greedy body ih => exact Passes.mem_words (fun pass => ih pass) takes
  | cat left right leftIH rightIH =>
      obtain ⟨middle, first, later, here, there, _⟩ := takes
      obtain ⟨one, inLeft, spansLeft⟩ := leftIH here
      obtain ⟨two, inRight, spansRight⟩ := rightIH there
      exact ⟨one ++ two, Language.append_mem_mul inLeft inRight, spansLeft.append spansRight⟩
  | alt left right leftIH rightIH =>
      cases takes with
      | inl here =>
        obtain ⟨word, inLeft, spans⟩ := leftIH here
        exact ⟨word, .inl inLeft, spans⟩
      | inr here =>
        obtain ⟨word, inRight, spans⟩ := rightIH here
        exact ⟨word, .inr inRight, spans⟩

private theorem passes_of_mem_words {least : Nat} {most : Option Nat} {words : Language Char}
    (through : ∀ {start : Place} {word rest : List Char}, word ∈ words →
      start.rest = word ++ rest → ∃ marks, body.Takes start marks (start.skip word.length))
    {word rest : List Char} (member : word ∈ repeatedWords least most words)
    (text : start.rest = word ++ rest) :
    ∃ marks, Passes body.Takes least most start marks (start.skip word.length) := by
  obtain ⟨parts, rfl, enough, bounded, all⟩ := member
  induction parts generalizing least most start with
  | nil =>
      obtain rfl : least = 0 := Nat.le_zero.mp enough
      exact ⟨[], .done⟩
  | cons part parts ih =>
      obtain ⟨inWords, all⟩ := List.forall_mem_cons.mp all
      rw [List.length_cons] at enough bounded
      rw [List.flatten_cons, List.append_assoc] at text
      obtain ⟨first, pass⟩ := through inWords text
      have between : (start.skip part.length).rest = parts.flatten ++ rest := by
        rw [Place.rest_skip, text, List.drop_left]
      have allowed : least ≠ 0 ∨ most ≠ some 0 := by
        apply Classical.or_iff_not_imp_left.mpr
        intro none_owed exhausted
        have bound := bounded 0 exhausted
        omega
      have remaining : ∀ limit, most.map (· - 1) = some limit →
          parts.length ≤ max (least - 1) limit := by
        intro limit same
        obtain ⟨before, rfl, rfl⟩ := Option.map_eq_some_iff.mp same
        have bound := bounded before rfl
        omega
      obtain ⟨later, passes⟩ := ih between (by omega) remaining all
      rw [List.flatten_cons, List.length_append, Place.skip_add]
      exact ⟨later ++ first, .more allowed pass passes⟩

theorem exists_takes_of_mem {word rest : List Char} (free : expr.looksAround = false)
    (member : word ∈ expr.language) (text : start.rest = word ++ rest) :
    ∃ marks, expr.Takes start marks (start.skip word.length) := by
  induction expr generalizing start word rest with
  | empty =>
      obtain rfl : word = [] := member
      exact ⟨[], rfl, rfl⟩
  | set chars =>
      obtain ⟨char, rfl, inSet⟩ := member
      exact ⟨[], ⟨char, rest, text, inSet⟩, rfl, rfl⟩
  | look condition => cases free
  | group index body ih =>
      obtain ⟨marks, inside⟩ := ih free member text
      exact ⟨_, marks, inside, rfl⟩
  | repeated least most greedy body ih =>
      exact passes_of_mem_words (fun inWords text => ih free inWords text) member text
  | cat left right leftIH rightIH =>
      obtain ⟨one, inLeft, two, inRight, rfl⟩ := Language.mem_mul.mp member
      obtain ⟨freeLeft, freeRight⟩ := Bool.or_eq_false_iff.mp free
      rw [List.append_assoc] at text
      obtain ⟨first, here⟩ := leftIH freeLeft inLeft text
      have between : (start.skip one.length).rest = two ++ rest := by
        rw [Place.rest_skip, text, List.drop_left]
      obtain ⟨later, there⟩ := rightIH freeRight inRight between
      rw [List.length_append, Place.skip_add]
      exact ⟨_, _, first, later, here, there, rfl⟩
  | alt left right leftIH rightIH =>
      obtain ⟨freeLeft, freeRight⟩ := Bool.or_eq_false_iff.mp free
      cases member with
      | inl inLeft =>
        obtain ⟨marks, here⟩ := leftIH freeLeft inLeft text
        exact ⟨marks, .inl here⟩
      | inr inRight =>
        obtain ⟨marks, here⟩ := rightIH freeRight inRight text
        exact ⟨marks, .inr here⟩

/-- Without conditions, a whole text is taken exactly if it is in the language. -/
theorem exists_takesAll_iff (free : expr.looksAround = false) {text : List Char} :
    (∃ marks, expr.TakesAll text marks) ↔ text ∈ expr.language := by
  constructor
  · intro given
    obtain ⟨marks, stop, takes, ended⟩ := given
    obtain ⟨word, member, same, _⟩ := takes.mem_language
    rw [ended, List.append_nil] at same
    rwa [show text = word from same]
  · intro member
    have here : (Place.first text).rest = text ++ [] := (List.append_nil text).symm
    obtain ⟨marks, takes⟩ := exists_takes_of_mem free member here
    refine ⟨marks, _, takes, ?_⟩
    rw [Place.rest_skip]
    exact List.drop_length

/-! ## Languages of composed expressions -/

theorem language_concat (left right : Expr) :
    (concat left right).language = left.language * right.language := by
  induction left with
  | empty => exact (one_mul _).symm
  | cat first rest _ ih =>
      change first.language * (concat rest right).language = _
      rw [ih, ← mul_assoc]
      rfl
  | _ =>
      cases right with
      | empty => exact (mul_one _).symm
      | _ => rfl

theorem language_foldl_concat (exprs : List Expr) (first : Expr) :
    (exprs.foldl concat first).language = first.language * (exprs.map language).prod := by
  induction exprs generalizing first with
  | nil => exact (mul_one _).symm
  | cons second rest ih => rw [List.foldl_cons, ih, language_concat, List.map_cons, List.prod_cons,
      mul_assoc]

theorem prod_language_items (expr : Expr) : (expr.items.map language).prod = expr.language := by
  induction expr with
  | empty => rfl
  | cat first rest _ ih =>
      rw [items, List.map_cons, List.prod_cons, ih]
      rfl
  | _ => exact List.prod_singleton

theorem language_ofItems (items : List Expr) :
    (ofItems items).language = (items.map language).prod := by
  induction items with
  | nil => rfl
  | cons first rest ih =>
      cases rest with
      | nil => exact List.prod_singleton.symm
      | cons =>
          rw [List.map_cons, List.prod_cons, ← ih]
          rfl

theorem mem_language_alternation {branches : List Expr} (some_ : branches ≠ [])
    {word : List Char} :
    word ∈ (alternation branches).language ↔ ∃ branch ∈ branches, word ∈ branch.language := by
  induction branches with
  | nil => exact absurd rfl some_
  | cons first rest ih =>
      cases rest with
      | nil => simp [alternation]
      | cons second rest =>
          rw [List.exists_mem_cons_iff, ← ih (List.cons_ne_nil _ _)]
          exact Iff.rfl

theorem mem_language_anyOf {branches : List Expr} (some_ : branches ≠ []) {word : List Char} :
    word ∈ (anyOf branches).language ↔ ∃ branch ∈ branches, word ∈ branch.language := by
  rcases anyOf_cases branches with ⟨sets, rfl, same⟩ | same
  · rw [same]
    constructor
    · rintro ⟨char, rfl, member⟩
      rw [CharSet.mem_unionAll, List.any_eq_true] at member
      obtain ⟨chars, ofSets, inChars⟩ := member
      exact ⟨.set chars, List.mem_map_of_mem ofSets, char, rfl, inChars⟩
    · rintro ⟨_, member, inBranch⟩
      obtain ⟨chars, ofSets, rfl⟩ := List.mem_map.mp member
      obtain ⟨char, rfl, inChars⟩ := inBranch
      exact ⟨char, rfl, CharSet.mem_unionAll.trans (List.any_eq_true.mpr ⟨chars, ofSets, inChars⟩)⟩
  · rw [same, mem_language_alternation some_]

theorem exists_mem_language_alternatives (expr : Expr) {word : List Char} :
    (∃ branch ∈ alternatives expr, word ∈ branch.language) ↔ word ∈ expr.language := by
  induction expr with
  | alt first rest _ ih =>
      rw [alternatives, List.exists_mem_cons_iff, ih]
      exact Iff.rfl
  | _ => simp [alternatives]

theorem exists_mem_language_flatMap {branches : List Expr} (change : Expr → Expr)
    {word : List Char} :
    (∃ branch ∈ branches.flatMap (fun branch => alternatives (change branch)),
        word ∈ branch.language) ↔
      ∃ branch ∈ branches, word ∈ (change branch).language := by
  simp only [List.mem_flatMap, ← exists_mem_language_alternatives (change _)]
  constructor
  · rintro ⟨branch, ⟨whole, member, ofWhole⟩, inBranch⟩
    exact ⟨whole, member, branch, ofWhole, inBranch⟩
  · rintro ⟨whole, member, branch, ofWhole, inBranch⟩
    exact ⟨branch, ⟨whole, member, ofWhole⟩, inBranch⟩

theorem flatMap_alternatives_ne_nil {branches : List Expr} (some_ : branches ≠ [])
    (change : Expr → Expr) :
    branches.flatMap (fun branch => alternatives (change branch)) ≠ [] := by
  obtain ⟨branch, member⟩ := List.exists_mem_of_ne_nil branches some_
  intro empty
  have none := List.flatMap_eq_nil_iff.mp empty branch member
  cases part : change branch <;> simp [part, alternatives] at none

theorem language_eq_of_alike {left right : Expr} (same : alike left right = true) :
    left.language = right.language := by
  fun_induction alike left right with
  | case1 | case3 => rfl
  | case2 left right =>
      simp only [language, CharSet.mem_of_same same]
      rfl
  | case4 index left other right ih => exact ih (Bool.and_eq_true_iff.mp same).2
  | case5 least most greedy left fewest limit eager right ih =>
      obtain ⟨counts, bodies⟩ := Bool.and_eq_true_iff.mp same
      obtain ⟨bounds, _⟩ := Bool.and_eq_true_iff.mp counts
      obtain ⟨leasts, mosts⟩ := Bool.and_eq_true_iff.mp bounds
      rw [language, language, eq_of_beq leasts, eq_of_beq mosts, ih bodies]
  | case6 first rest other more firstIH restIH | case7 first rest other more firstIH restIH =>
      obtain ⟨firsts, rests⟩ := Bool.and_eq_true_iff.mp same
      rw [language, language, firstIH firsts, restIH rests]
  | case8 => cases same

theorem LeadOf.language_items {lead items : List Expr} (leads : LeadOf lead items) :
    (items.map language).prod =
      (lead.map language).prod * (ofItems (items.drop lead.length)).language := by
  rw [language_ofItems, ← leads.map_take language_eq_of_alike, ← List.prod_append,
    ← List.map_append, List.take_append_drop]

theorem mem_language_behind_sharedLead {branches : List Expr} (some_ : branches ≠ [])
    {word : List Char} :
    word ∈ (ofItems (sharedLead branches ++
        [anyOf (tails (sharedLead branches).length branches)])).language ↔
      ∃ branch ∈ branches, word ∈ branch.language := by
  have split : ∀ branch ∈ branches, branch.language =
      ((sharedLead branches).map language).prod *
        (ofItems (branch.items.drop (sharedLead branches).length)).language := by
    intro branch member
    rw [← prod_language_items branch, (leadOf_sharedLead member).language_items]
  have behind {rest : List Char} :
      rest ∈ (anyOf (tails (sharedLead branches).length branches)).language ↔
        ∃ branch ∈ branches,
          rest ∈ (ofItems (branch.items.drop (sharedLead branches).length)).language :=
    (mem_language_anyOf (flatMap_alternatives_ne_nil some_ _)).trans
      (exists_mem_language_flatMap fun branch =>
        ofItems (branch.items.drop (sharedLead branches).length))
  rw [language_ofItems, List.map_append, List.prod_append, List.map_singleton,
    List.prod_singleton, Language.mem_mul]
  constructor
  · intro given
    obtain ⟨one, inLead, two, inTail, rfl⟩ := given
    obtain ⟨branch, member, inRest⟩ := behind.mp inTail
    refine ⟨branch, member, ?_⟩
    rw [split branch member]
    exact Language.append_mem_mul inLead inRest
  · intro given
    obtain ⟨branch, member, inBranch⟩ := given
    rw [split branch member] at inBranch
    obtain ⟨one, inLead, two, inRest, rfl⟩ := Language.mem_mul.mp inBranch
    exact ⟨one, inLead, two, behind.mpr ⟨branch, member, inRest⟩, rfl⟩

/-- A choice takes what one of its alternatives takes, whether or not they share a beginning. -/
theorem mem_language_choice {branches : List Expr} (some_ : branches ≠ []) {word : List Char} :
    word ∈ (choice branches).language ↔ ∃ branch ∈ branches, word ∈ branch.language := by
  have flat : (∃ branch ∈ branches.flatMap alternatives, word ∈ branch.language) ↔
      ∃ branch ∈ branches, word ∈ branch.language := exists_mem_language_flatMap id
  have apart : branches.flatMap alternatives ≠ [] := flatMap_alternatives_ne_nil some_ id
  rcases choice_cases branches with one | same | same
  · rw [one]
    simp only [List.mem_singleton, exists_eq_left]
    rfl
  · rw [same, mem_language_anyOf apart, flat]
  · rw [same, mem_language_behind_sharedLead apart, flat]

theorem language_renumber (offset : Nat) (expr : Expr) :
    (expr.renumber offset).language = expr.language := by
  induction expr with
  | empty | set | look => rfl
  | group index body ih => exact ih
  | repeated least most greedy body ih => exact congrArg (repeatedWords least most) ih
  | cat left right leftIH rightIH => exact congrArg₂ (· * ·) leftIH rightIH
  | alt left right leftIH rightIH => exact congrArg₂ (· + ·) leftIH rightIH

theorem eq_nil_of_takesNothing (nothing : expr.takesNothing = true) {word : List Char}
    (member : word ∈ expr.language) : word = [] := by
  induction expr generalizing word with
  | empty | look => exact member
  | set => cases nothing
  | group index body ih => exact ih nothing member
  | repeated least most greedy body ih =>
      obtain ⟨parts, rfl, _, _, all⟩ := member
      exact List.flatten_eq_nil_iff.mpr fun part inParts => ih nothing (all part inParts)
  | cat left right leftIH rightIH =>
      obtain ⟨nothingLeft, nothingRight⟩ := Bool.and_eq_true_iff.mp nothing
      obtain ⟨one, inLeft, two, inRight, rfl⟩ := Language.mem_mul.mp member
      rw [leftIH nothingLeft inLeft, rightIH nothingRight inRight, List.append_nil]
  | alt left right leftIH rightIH =>
      obtain ⟨nothingLeft, nothingRight⟩ := Bool.and_eq_true_iff.mp nothing
      cases member with
      | inl inLeft => exact leftIH nothingLeft inLeft
      | inr inRight => exact rightIH nothingRight inRight

theorem repeatedWords_star (words : Language Char) : repeatedWords 0 none words = words∗ := by
  ext text
  rw [Language.mem_kstar]
  constructor
  · intro member
    obtain ⟨parts, same, _, _, all⟩ := member
    exact ⟨parts, same, all⟩
  · intro member
    obtain ⟨parts, same, all⟩ := member
    exact ⟨parts, same, Nat.zero_le _, fun _ absent => (by cases absent), all⟩

theorem repeatedWords_optional (words : Language Char) :
    repeatedWords 0 (some 1) words = 1 + words := by
  ext text
  constructor
  · intro member
    obtain ⟨parts, rfl, _, bounded, all⟩ := member
    have few := bounded 1 rfl
    match parts with
    | [] => exact .inl rfl
    | [part] =>
        rw [List.flatten_singleton]
        exact .inr (all part (.head _))
    | _ :: _ :: _ => simp at few
  · intro member
    cases member with
    | inl missing =>
      obtain rfl : text = [] := missing
      exact ⟨[], rfl, Nat.zero_le _, fun _ _ => Nat.zero_le _, List.forall_mem_nil _⟩
    | inr present =>
      refine ⟨[text], List.flatten_singleton.symm, Nat.zero_le _, ?_, ?_⟩
      · intro limit same
        cases same
        exact Nat.le_refl _
      · intro part only
        rwa [List.mem_singleton.mp only]

/-- A repetition without end. Where a pass takes nothing, one pass is all of them. -/
theorem language_repeatedOf_star (greedy : Bool) (body : Expr) :
    (repeatedOf 0 none greedy body).language = body.language∗ := by
  cases takes : body.takesNothing with
  | false =>
      have counted : countsFor 0 none body = (0, none) := by
        rw [countsFor, takes]
        rfl
      rw [repeatedOf, counted]
      exact repeatedWords_star _
  | true =>
      have counted : countsFor 0 none body = (0, some 1) := by
        rw [countsFor, takes]
        rfl
      rw [repeatedOf, counted]
      change repeatedWords 0 (some 1) body.language = _
      rw [repeatedWords_optional]
      ext text
      constructor
      · intro member
        cases member with
        | inl missing => exact missing ▸ Language.nil_mem_kstar _
        | inr present => exact eq_nil_of_takesNothing takes present ▸ Language.nil_mem_kstar _
      · intro member
        obtain ⟨parts, rfl, all⟩ := Language.mem_kstar.mp member
        left
        exact List.flatten_eq_nil_iff.mpr fun part inParts =>
          eq_nil_of_takesNothing takes (all part inParts)

theorem language_repeatedOf_optional (greedy : Bool) (body : Expr) :
    (repeatedOf 0 (some 1) greedy body).language = 1 + body.language := by
  have counted : countsFor 0 (some 1) body = (0, some 1) := by
    unfold countsFor
    split <;> rfl
  rw [repeatedOf, counted]
  exact repeatedWords_optional _

/-! ## Conditions in composed expressions -/

theorem looksAround_concat (left right : Expr) :
    (concat left right).looksAround = (left.looksAround || right.looksAround) := by
  induction left with
  | empty => rfl
  | cat first rest _ ih =>
      change (first.looksAround || (concat rest right).looksAround) = _
      rw [ih, ← Bool.or_assoc]
      rfl
  | _ =>
      cases right with
      | empty => exact (Bool.or_false _).symm
      | _ => rfl

theorem looksAround_foldl_concat (exprs : List Expr) (first : Expr) :
    (exprs.foldl concat first).looksAround =
      (first.looksAround || exprs.any looksAround) := by
  induction exprs generalizing first with
  | nil => exact (Bool.or_false _).symm
  | cons second rest ih => rw [List.foldl_cons, ih, looksAround_concat, List.any_cons,
      Bool.or_assoc]

theorem looksAround_renumber (offset : Nat) (expr : Expr) :
    (expr.renumber offset).looksAround = expr.looksAround := by
  induction expr with
  | empty | set | look => rfl
  | group index body ih => exact ih
  | repeated least most greedy body ih => exact ih
  | cat left right leftIH rightIH => exact congrArg₂ (· || ·) leftIH rightIH
  | alt left right leftIH rightIH => exact congrArg₂ (· || ·) leftIH rightIH

theorem looksAround_repeatedOf (least : Nat) (most : Option Nat) (greedy : Bool) {body : Expr}
    (free : body.looksAround = false) : (repeatedOf least most greedy body).looksAround = false := by
  unfold repeatedOf
  split
  · rfl
  · exact free
  · exact free

theorem any_looksAround_items (expr : Expr) : expr.items.any looksAround = expr.looksAround := by
  induction expr with
  | cat first rest _ ih => exact congrArg (first.looksAround || ·) ih
  | empty => rfl
  | _ => exact Bool.or_false _

theorem looksAround_ofItems (items : List Expr) :
    (ofItems items).looksAround = items.any looksAround := by
  induction items with
  | nil => rfl
  | cons first rest ih =>
      cases rest with
      | nil => exact (Bool.or_false _).symm
      | cons => exact congrArg (first.looksAround || ·) ih

theorem looksAround_alternation (branches : List Expr) :
    (alternation branches).looksAround = branches.any looksAround := by
  induction branches with
  | nil => rfl
  | cons first rest ih =>
      cases rest with
      | nil => exact (Bool.or_false _).symm
      | cons => exact congrArg (first.looksAround || ·) ih

theorem looksAround_anyOf (branches : List Expr) :
    (anyOf branches).looksAround = branches.any looksAround := by
  rcases anyOf_cases branches with ⟨sets, rfl, same⟩ | same
  · rw [same, List.any_map]
    exact (List.any_eq_false.mpr fun _ _ => Bool.false_ne_true).symm
  · rw [same, looksAround_alternation]

theorem any_looksAround_alternatives (expr : Expr) :
    (alternatives expr).any looksAround = expr.looksAround := by
  induction expr with
  | alt first rest _ ih => exact congrArg (first.looksAround || ·) ih
  | _ => exact Bool.or_false _

theorem looksAround_eq_of_alike {left right : Expr} (same : alike left right = true) :
    left.looksAround = right.looksAround := by
  fun_induction alike left right with
  | case1 | case2 | case3 => rfl
  | case4 index left other right ih => exact ih (Bool.and_eq_true_iff.mp same).2
  | case5 least most greedy left fewest limit eager right ih =>
      exact ih (Bool.and_eq_true_iff.mp same).2
  | case6 first rest other more firstIH restIH | case7 first rest other more firstIH restIH =>
      obtain ⟨firsts, rests⟩ := Bool.and_eq_true_iff.mp same
      rw [looksAround, looksAround, firstIH firsts, restIH rests]
  | case8 => cases same

theorem LeadOf.looksAround_items {lead items : List Expr} (leads : LeadOf lead items) :
    items.any looksAround = (lead.any looksAround || (items.drop lead.length).any looksAround) := by
  have same : (items.take lead.length).any looksAround = lead.any looksAround := by
    simpa only [List.any_map, Function.id_comp] using
      congrArg (List.any · id) (leads.map_take looksAround_eq_of_alike)
  rw [← same, ← List.any_append, List.take_append_drop]

theorem looksAround_choice {branches : List Expr}
    (free : ∀ branch ∈ branches, branch.looksAround = false) :
    (choice branches).looksAround = false := by
  have flat : ∀ branch ∈ branches.flatMap alternatives, branch.looksAround = false := by
    intro branch member
    obtain ⟨whole, ofBranches, ofWhole⟩ := List.mem_flatMap.mp member
    have none := (any_looksAround_alternatives whole).trans (free whole ofBranches)
    exact Bool.eq_false_iff.mpr (List.any_eq_false.mp none branch ofWhole)
  rcases choice_cases branches with one | same | same
  · exact free _ (one ▸ .head _)
  · rw [same, looksAround_anyOf]
    exact List.any_eq_false.mpr fun branch member => Bool.eq_false_iff.mp (flat branch member)
  · generalize branches.flatMap alternatives = branches at same flat
    rw [same, looksAround_ofItems, List.any_append, List.any_cons, List.any_nil, Bool.or_false,
      looksAround_anyOf, tails]
    simp only [Bool.or_eq_false_iff, List.any_flatMap, any_looksAround_alternatives,
      looksAround_ofItems]
    have split : ∀ branch ∈ branches, ((sharedLead branches).any looksAround ||
        (branch.items.drop (sharedLead branches).length).any looksAround) = false := by
      intro branch member
      rw [← (leadOf_sharedLead member).looksAround_items, any_looksAround_items, flat branch member]
    refine ⟨?_, List.any_eq_false.mpr fun branch member => ?_⟩
    · cases branches with
      | nil => rfl
      | cons first rest => exact (Bool.or_eq_false_iff.mp (split first (.head _))).1
    · exact Bool.eq_false_iff.mp (Bool.or_eq_false_iff.mp (split branch member)).2

end Expr

def Tree.looksAround : Tree → Bool
  | .anchor _ => true
  | .group _ body | .scoped _ body => body.looksAround
  | .repeated _ _ _ body => body.looksAround
  | .cat left right | .alt left right => left.looksAround || right.looksAround
  | _ => false

theorem Lowers.looksAround {tree : Tree} {now after : Flags} {branches : List Expr}
    (lowered : Lowers tree now branches after) (free : tree.looksAround = false) :
    ∀ branch ∈ branches, branch.looksAround = false := by
  induction lowered with
  | empty | one | flags =>
      intro branch only
      rw [List.mem_singleton.mp only]
      rfl
  | anchor => cases free
  | group _ ih | «scoped» _ ih =>
      intro branch only
      rw [List.mem_singleton.mp only]
      exact Expr.looksAround_choice (ih free)
  | repeated _ ih =>
      intro branch only
      rw [List.mem_singleton.mp only]
      exact Expr.looksAround_repeatedOf _ _ _ (Expr.looksAround_choice (ih free))
  | cat _ _ leftIH rightIH =>
      obtain ⟨freeLeft, freeRight⟩ := Bool.or_eq_false_iff.mp free
      intro branch only
      rw [List.mem_singleton.mp only, Expr.looksAround_concat, Bool.or_eq_false_iff]
      exact ⟨Expr.looksAround_choice (leftIH freeLeft), Expr.looksAround_choice (rightIH freeRight)⟩
  | alt _ _ leftIH rightIH =>
      obtain ⟨freeLeft, freeRight⟩ := Bool.or_eq_false_iff.mp free
      intro branch member
      cases List.mem_append.mp member with
      | inl inLeft => exact leftIH freeLeft branch inLeft
      | inr inRight => exact rightIH freeRight branch inRight

/-- Whether a pattern has a condition on a position. -/
def looksAround (pattern : String) : Bool :=
  match Tree.read pattern.toList with
  | .ok tree => tree.looksAround
  | .error _ => false

/-- Whether a pattern anywhere skips blanks and comments. -/
def skipsBlanks (pattern : String) : Bool :=
  match Tree.read pattern.toList with
  | .ok tree => tree.skipsBlanks
  | .error _ => false

namespace Part

theorem looksAround_eq (part : Part) : looksAround part.pattern = part.tree.looksAround := by
  rw [looksAround, part.read]

theorem Means.looksAround {part : Part} {caseless : Bool} {expr : Expr}
    (means : part.Means caseless expr) (free : Pattern.looksAround part.pattern = false) :
    expr.looksAround = false := by
  obtain ⟨⟨branches, after⟩, lowered, success⟩ := exists_of_bind_ok means
  cases success
  exact Expr.looksAround_choice ((part.tree.lowers lowered).looksAround (part.looksAround_eq ▸ free))

theorem Means.takesWhole_iff_mem {part : Part} {caseless : Bool} {expr : Expr}
    (means : part.Means caseless expr)
    (shallow : (Reader.wholeTree part.tree).nesting ≤ nestingLimit)
    (free : Pattern.looksAround part.pattern = false) (text : String) :
    takesWhole caseless part.pattern text = true ↔ text.toList ∈ expr.language :=
  (means.takesWhole_iff shallow text).trans (Expr.exists_takesAll_iff (means.looksAround free))

theorem exists_of_groupCount {pattern : String} {count : Nat}
    (counted : groupCount pattern = .ok count) (dense : skipsBlanks pattern = false) :
    ∃ part : Part, part.pattern = pattern := by
  obtain ⟨tree, alone, _⟩ := exists_tree_of_groupCount counted
  rw [skipsBlanks, alone] at dense
  obtain ⟨groups, names, fragment⟩ := Reader.fragment_of_read alone dense
  exact ⟨⟨pattern, tree, groups, names, alone, fragment⟩, rfl⟩

end Part

end TextSchema.Pattern
