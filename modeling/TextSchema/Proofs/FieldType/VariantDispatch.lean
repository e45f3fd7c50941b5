import TextSchema.FieldType.Variant
import TextSchema.Proofs.Pattern.Parts

/-!
# The member that a variant chooses

With an acceptor for each member, a variant leaves a text to the first member
whose pattern takes it. One acceptor for all members tells the member by the
number of its group, counted from the groups of the members before it. The two
ways agree on a text exactly if none of those members has a hidden group.
-/

set_option autoImplicit false

namespace TextSchema

open Pattern
open List (Forall₂)

namespace Pattern

/-! ## Reading alternatives -/

open Reader

theorem toList_alternativePatterns (pattern : String) (rest : List String) :
    (alternativePatterns (pattern :: rest)).toList =
      '(' :: (pattern.toList ++ ')' ::
        match rest with
        | [] => []
        | _ :: _ => '|' :: (alternativePatterns rest).toList) := by
  cases rest with
  | nil => simp [alternativePatterns, grouped]
  | cons second tail => simp [alternativePatterns, grouped, String.intercalate_cons_cons]

theorem readOn_alternatives {reader : Reader} (ready : reader.Ready) (fresh : reader.items = [])
    (opened : reader.stack = wholeStart.stack) {part : Part} {rest : List Part} {result : Tree}
    (success : reader.readOn
      ((alternativePatterns ((part :: rest).map (·.pattern))).toList ++ [')', '$']) = .ok result) :
    result = wholeTree (.ofBranches
      (reader.branches.reverse ++ Part.groupsFrom reader.groups (part :: rest))) := by
  induction rest generalizing reader part with
  | nil =>
      have split : (alternativePatterns [part.pattern]).toList ++ [')', '$'] =
          '(' :: (part.pattern.toList ++ ')' :: [')', '$']) := by
        simp [toList_alternativePatterns]
      rw [List.map_singleton, split] at success
      have closing := readOn_group ready part.fragment success
      rw [ready.withGroup.readOn_end opened closing]
      simp [body, withGroup, fresh, Part.groupsFrom, Part.group, Tree.ofItems]
  | cons second tail ih =>
      have split : (alternativePatterns ((part :: second :: tail).map (·.pattern))).toList ++
          [')', '$'] = '(' :: (part.pattern.toList ++ ')' :: '|' ::
            ((alternativePatterns ((second :: tail).map (·.pattern))).toList ++ [')', '$'])) := by
        simp [toList_alternativePatterns]
      rw [split] at success
      have further := readOn_group ready part.fragment success
      rw [readOn, feed_bar ready.withGroup] at further
      rw [ih ready.withGroup.alternate rfl opened further]
      simp [alternate, withGroup, fresh, Part.groupsFrom, Part.group, Tree.ofItems]

/-! ## Lowered alternatives -/

def Part.openedBy : List Part → Nat
  | [] => 0
  | part :: rest => 1 + part.groups + Part.openedBy rest

/-- The expressions of groups around parts, so many groups having been opened
before them. -/
inductive Grouped (caseless : Bool) : Nat → List Part → List Expr → Prop where
  | nil {opened} : Grouped caseless opened [] []
  | cons {opened part inner rest exprs} :
      part.Means caseless inner → Grouped caseless (opened + 1 + part.groups) rest exprs →
      Grouped caseless opened (part :: rest)
        (.group (opened + 1) (inner.renumber (opened + 1)) :: exprs)

theorem grouped_of_stands {caseless : Bool} {opened : Nat} {parts : List Part} {exprs : List Expr}
    (stands : Forall₂ (Tree.Stands (.initial caseless)) (Part.groupsFrom opened parts) exprs) :
    Grouped caseless opened parts exprs := by
  induction parts generalizing opened exprs with
  | nil =>
      cases stands
      exact .nil
  | cons part rest ih =>
      cases stands with
      | cons first later =>
          obtain ⟨inner, means, rfl⟩ := Part.stands_group first
          exact .cons means (ih later)

namespace Grouped

variable {caseless : Bool} {opened : Nat} {parts : List Part} {exprs : List Expr}

theorem split {before after : List Expr} {expr : Expr}
    (grouped : Grouped caseless opened parts (before ++ expr :: after)) :
    ∃ earlier part later inner, parts = earlier ++ part :: later ∧
      Grouped caseless opened earlier before ∧ part.Means caseless inner ∧
      expr = .group (opened + Part.openedBy earlier + 1)
        (inner.renumber (opened + Part.openedBy earlier + 1)) := by
  induction before generalizing opened parts with
  | nil =>
      cases grouped with
      | cons means _ => exact ⟨[], _, _, _, rfl, .nil, means, rfl⟩
  | cons first rest ih =>
      cases grouped with
      | @cons _ part inner _ _ means others =>
          obtain ⟨earlier, chosen, later, own, rfl, same, meansOwn, rfl⟩ := ih others
          have total : opened + 1 + part.groups + Part.openedBy earlier =
              opened + Part.openedBy (part :: earlier) := by
            rw [Part.openedBy]
            omega
          rw [total]
          exact ⟨part :: earlier, chosen, later, own, rfl, .cons means same, meansOwn, rfl⟩

end Grouped

theorem Expr.exists_takesAll_group_iff {index offset : Nat} {inner : Expr} {text : List Char} :
    (∃ marks, (Expr.group index (inner.renumber offset)).TakesAll text marks) ↔
      ∃ marks, inner.TakesAll text marks := by
  constructor
  · intro given
    obtain ⟨_, stop, ⟨marks, inside, rfl⟩, ended⟩ := given
    obtain ⟨original, takes, _⟩ := takes_renumber.mp inside
    exact ⟨original, stop, takes, ended⟩
  · intro given
    obtain ⟨marks, stop, takes, ended⟩ := given
    exact ⟨_, stop, ⟨_, takes_renumber.mpr ⟨marks, takes, rfl⟩, rfl⟩, ended⟩

theorem Grouped.isGroup {caseless : Bool} {opened : Nat} {parts : List Part} {exprs : List Expr}
    (grouped : Grouped caseless opened parts exprs) :
    ∀ expr ∈ exprs, ∃ index body, expr = .group index body := by
  induction grouped with
  | nil => exact List.forall_mem_nil _
  | cons _ _ ih => exact List.forall_mem_cons.mpr ⟨⟨_, _, rfl⟩, ih⟩

private theorem items_of_grouped {caseless : Bool} {opened : Nat} {parts : List Part}
    {exprs : List Expr} (grouped : Grouped caseless opened parts exprs) (some_ : parts ≠ []) :
    exprs ≠ [] ∧ Expr.choice exprs = Expr.alternation exprs ∧
      (Expr.alternation exprs).items = [Expr.alternation exprs] := by
  have groups := grouped.isGroup
  cases grouped with
  | nil => exact absurd rfl some_
  | cons _ rest =>
      refine ⟨List.cons_ne_nil _ _, Expr.choice_of_groups (List.cons_ne_nil _ _) groups, ?_⟩
      cases rest with
      | nil => rfl
      | cons => rfl

theorem compile_alternatives {caseless : Bool} {part : Part} {rest : List Part}
    {acceptor : Acceptor}
    (compiled : Acceptor.compile (alternativePatterns ((part :: rest).map (·.pattern))) caseless =
      .ok acceptor) :
    (∃ exprs, Grouped caseless 0 (part :: rest) exprs ∧
      acceptor.expr = (Expr.alternation exprs).anchored) ∧
      ∀ other ∈ part :: rest, (wholeTree other.tree).nesting ≤ nestingLimit := by
  obtain ⟨shallow, branches, after, lowered, same⟩ := compile_body compiled
    fun _ success => readOn_alternatives wholeStart_ready rfl rfl success
  refine ⟨⟨branches, ?_⟩, ?_⟩
  · obtain ⟨_, stands⟩ := Tree.alternatives_ofBranches rfl (Part.closed_groupsFrom _ _) lowered
    have grouped : Grouped caseless 0 (part :: rest) branches := grouped_of_stands stands
    exact ⟨grouped, by rw [same, (items_of_grouped grouped (by simp)).2.1]⟩
  · intro other member
    obtain ⟨tree, inGroups, same⟩ := Part.nesting_groupsFrom 0 member
    have inBody := Tree.nesting_le_ofBranches tree inGroups
    rw [nesting_wholeTree] at shallow ⊢
    change 2 + (Tree.ofBranches (Part.groupsFrom 0 (part :: rest))).nesting ≤ _ at shallow
    omega

theorem Grouped.takesWhole_eq_false {caseless : Bool} {opened : Nat} {parts : List Part}
    {exprs : List Expr} {text : String} (grouped : Grouped caseless opened parts exprs)
    (shallow : ∀ part ∈ parts, (wholeTree part.tree).nesting ≤ nestingLimit)
    (none : ∀ expr ∈ exprs, ∀ marks, ¬ expr.TakesAll text.toList marks) :
    ∀ part ∈ parts, takesWhole caseless part.pattern text = false := by
  induction grouped with
  | nil =>
      intro part member
      cases member
  | cons means _ ih =>
      intro part member
      cases List.mem_cons.mp member with
      | inl same =>
        subst same
        apply Bool.eq_false_iff.mpr
        intro takes
        have taken := (means.takesWhole_iff (shallow _ member) text).mp takes
        exact absurd (Expr.exists_takesAll_group_iff.mpr taken)
          (not_exists.mpr (none _ (.head _)))
      | inr later =>
        exact ih (fun other inRest => shallow other (.tail _ inRest))
          (fun expr inRest => none expr (.tail _ inRest)) part later

/-! ## Group numbers -/

theorem groupNumbers_ok {next : Nat} {pattern : String} {rest : List String} {numbers : List Nat}
    (success : groupNumbers next (pattern :: rest) = .ok numbers) :
    ∃ count later, groupCount pattern = .ok count ∧
      groupNumbers (next + 1 + count) rest = .ok later ∧ numbers = next :: later := by
  obtain ⟨count, counted, tail⟩ := exists_of_bind_ok success
  obtain ⟨later, ofRest, same⟩ := exists_of_bind_ok tail
  cases same
  exact ⟨count, later, counted, ofRest, rfl⟩

/-- The number computed for a part is at most the number of its group, and equal to
it exactly if none of the parts before it hides a group. -/
theorem groupNumbers_split {next : Nat} {earlier later : List Part} {part : Part}
    {numbers : List Nat}
    (success : groupNumbers next ((earlier ++ part :: later).map (·.pattern)) = .ok numbers) :
    ∃ lower number higher, numbers = lower ++ number :: higher ∧
      lower.length = earlier.length ∧ (∀ other ∈ lower, next ≤ other ∧ other < number) ∧
      next ≤ number ∧ number ≤ next + Part.openedBy earlier ∧
      (number = next + Part.openedBy earlier ↔
        ∀ other ∈ earlier, hidesGroup other.pattern = false) := by
  induction earlier generalizing next numbers with
  | nil =>
      obtain ⟨count, higher, _, _, rfl⟩ := groupNumbers_ok success
      exact ⟨[], next, higher, rfl, rfl, List.forall_mem_nil _, Nat.le_refl _, Nat.le_refl _,
        fun _ => List.forall_mem_nil _, fun _ => rfl⟩
  | cons first rest ih =>
      obtain ⟨count, tail, counted, ofRest, rfl⟩ := groupNumbers_ok success
      obtain ⟨lower, number, higher, rfl, same, below, least, most, exact_⟩ := ih ofRest
      obtain ⟨bound, shown⟩ := Part.groupCount_le counted
      have total : Part.openedBy (first :: rest) = 1 + first.groups + Part.openedBy rest := rfl
      refine ⟨next :: lower, number, higher, rfl, by simp [same], ?_, by omega, by omega, ?_⟩
      · intro other member
        cases List.mem_cons.mp member with
        | inl same =>
          subst same
          omega
        | inr inLower =>
          have bounds := below other inLower
          omega
      · rw [List.forall_mem_cons, ← exact_, first.hidesGroup_eq, ← shown]
        omega

/-! ## The chosen member -/

theorem group?_of_takesAll {caseless : Bool} {part : Part} {inner : Expr} {index : Nat}
    {text : List Char} {found : Match} (positive : 0 < index) (means : part.Means caseless inner)
    (takes : (Expr.group index (inner.renumber index)).TakesAll text found.marks) :
    (found.group? index).isSome = true ∧
      ∀ number, 0 < number → number < index → found.group? number = none := by
  obtain ⟨stop, takes, _⟩ := takes
  have above : ∀ number ∈ (inner.renumber index).groups, index < number :=
    fun number member => (means.mem_groups_renumber member).1
  constructor
  · have looked := takes.lookup_group fun member => Nat.lt_irrefl _ (above index member)
    rw [Match.group?_of_lookup (by omega) looked.1 looked.2]
    rfl
  · intro number least below
    have missing : found.marks.lookup (.opened number) = none := by
      apply lookup_of_other
      intro entry member same
      have ofGroup := takes.group_mem entry member
      rw [same] at ofGroup
      cases List.mem_cons.mp ofGroup with
      | inl same =>
        subst same
        exact Nat.lt_irrefl _ below
      | inr inInner => exact Nat.lt_asymm below (above number inInner)
    rw [Match.group?, if_neg (by omega), missing]
    rfl

theorem exists_part {pattern : String} {caseless : Bool} {count : Nat} {acceptor : Acceptor}
    (counted : groupCount pattern = .ok count)
    (compiled : Acceptor.compile pattern caseless = .ok acceptor) :
    ∃ part : Part, part.pattern = pattern := by
  obtain ⟨_, whole, _⟩ := compile_ok compiled
  unfold groupCount at counted
  cases read : Expr.read false pattern.toList with
  | error flaw =>
      rw [read] at counted
      cases counted
  | ok expr =>
      obtain ⟨tree, alone, _⟩ := exists_of_bind_ok read
      obtain ⟨groups, names, fragment⟩ := exists_fragment alone whole
      exact ⟨⟨pattern, tree, groups, names, alone, fragment⟩, rfl⟩

private theorem findIdx?_eq_length_iff {α : Type} {accept : α → Bool} {lower higher : List α}
    {item : α} (none : ∀ other ∈ lower, accept other = false) :
    (lower ++ item :: higher).findIdx? accept = some lower.length ↔ accept item = true := by
  have notBefore : lower.findIdx? accept = .none := List.findIdx?_eq_none_iff.mpr none
  rw [List.findIdx?_append, notBefore, Option.none_or, List.findIdx?_cons]
  cases accepted : accept item with
  | true => exact iff_of_true (congrArg some (Nat.zero_add _)) rfl
  | false =>
      refine iff_of_false (fun same => ?_) Bool.false_ne_true
      obtain ⟨index, found, behind⟩ := Option.map_eq_some_iff.mp same
      obtain ⟨before, _, rfl⟩ := Option.map_eq_some_iff.mp found
      omega

/-- The first of the parts that takes a text, by its place. -/
theorem findIdx?_of_first {caseless : Bool} {parts earlier later : List Part} {chosen : Part}
    {text : String} (members : parts = earlier ++ chosen :: later)
    (takes : takesWhole caseless chosen.pattern text = true)
    (refuses : ∀ other ∈ earlier, takesWhole caseless other.pattern text = false) :
    (parts.map (·.pattern)).findIdx? (takesWhole caseless · text) = some earlier.length := by
  rw [members, List.map_append, List.map_cons, ← List.length_map (·.pattern)]
  exact (findIdx?_eq_length_iff (List.forall_mem_map.mpr refuses)).mpr takes

/-- A search through alternatives finds nothing if no part takes the text, and otherwise
a match of the first part that does. -/
theorem find?_alternatives {caseless : Bool} {part : Part} {rest : List Part}
    {acceptor : Acceptor}
    (compiled : Acceptor.compile (alternativePatterns ((part :: rest).map (·.pattern))) caseless =
      .ok acceptor) (text : String) :
    (acceptor.find? text = none ∧
        ∀ other ∈ part :: rest, takesWhole caseless other.pattern text = false) ∨
      ∃ found earlier chosen later inner, acceptor.find? text = some found ∧
        part :: rest = earlier ++ chosen :: later ∧
        takesWhole caseless chosen.pattern text = true ∧
        (∀ other ∈ earlier, takesWhole caseless other.pattern text = false) ∧
        chosen.Means caseless inner ∧
        (Expr.group (Part.openedBy earlier + 1)
          (inner.renumber (Part.openedBy earlier + 1))).TakesAll text.toList found.marks := by
  obtain ⟨⟨exprs, grouped, same⟩, shallow⟩ := compile_alternatives compiled
  obtain ⟨some_, _, single⟩ := items_of_grouped grouped (by simp)
  have finds : acceptor.find? text = (Expr.alternation exprs).anchored.search text.toList := by
    rw [Acceptor.find?, same]
  cases outcome : acceptor.find? text with
  | none =>
      left
      refine ⟨rfl, grouped.takesWhole_eq_false shallow fun expr member marks takes => ?_⟩
      have missing : ¬ ((Expr.alternation exprs).anchored.search text.toList).isSome = true := by
        rw [← finds, outcome]
        exact Bool.false_ne_true
      obtain ⟨stop, ofExpr, ended⟩ := takes
      exact missing (Expr.isSome_search_anchored_iff.mpr
        ⟨marks, stop, Expr.takes_alternation_of_mem member ofExpr, ended⟩)
  | some found =>
      right
      rw [finds] at outcome
      obtain ⟨before, expr, after, rfl, none, takes⟩ :=
        Expr.takesAll_of_search_alternation some_ single outcome
      obtain ⟨earlier, chosen, later, inner, members, groupedBefore, means, rfl⟩ := grouped.split
      rw [Nat.zero_add] at takes
      have inParts : ∀ other, other ∈ earlier ++ [chosen] → other ∈ part :: rest := by
        intro other member
        rw [members]
        simp only [List.mem_append, List.mem_cons, List.not_mem_nil, or_false] at member ⊢
        exact member.imp_right .inl
      refine ⟨found, earlier, chosen, later, inner, rfl, members, ?_, ?_, means, takes⟩
      · rw [means.takesWhole_iff (shallow chosen (inParts chosen (by simp)))]
        exact Expr.exists_takesAll_group_iff.mp ⟨_, takes⟩
      · exact groupedBefore.takesWhole_eq_false
          (fun other member => shallow other (inParts other (by simp [member]))) none

/-- The combined search names the first member that takes the text, if no member
before it hides a group, and another one or none otherwise. -/
theorem memberFor?_combined {caseless : Bool} {part : Part} {rest : List Part}
    {acceptor : Acceptor} {numbers : List Nat}
    (counted : groupNumbers 1 ((part :: rest).map (·.pattern)) = .ok numbers)
    (compiled : Acceptor.compile (alternativePatterns ((part :: rest).map (·.pattern))) caseless =
      .ok acceptor) (text : String) :
    ((MemberSearch.combined acceptor numbers).memberFor? text = none ∧
        ∀ other ∈ part :: rest, takesWhole caseless other.pattern text = false) ∨
      ∃ earlier chosen later, part :: rest = earlier ++ chosen :: later ∧
        takesWhole caseless chosen.pattern text = true ∧
        (∀ other ∈ earlier, takesWhole caseless other.pattern text = false) ∧
        ((MemberSearch.combined acceptor numbers).memberFor? text = some earlier.length ↔
          ∀ other ∈ earlier, hidesGroup other.pattern = false) := by
  rcases find?_alternatives compiled text with ⟨nothing, refuses⟩ |
    ⟨found, earlier, chosen, later, inner, finds, members, takesChosen, refuses, means, takes⟩
  · left
    refine ⟨?_, refuses⟩
    rw [MemberSearch.memberFor?, nothing]
    rfl
  · right
    refine ⟨earlier, chosen, later, members, takesChosen, refuses, ?_⟩
    rw [members] at counted
    obtain ⟨lower, number, higher, rfl, sameLength, below, least, most, exact_⟩ :=
      groupNumbers_split counted
    obtain ⟨takesPart, lowerNone⟩ := group?_of_takesAll (by omega) means takes
    rw [MemberSearch.memberFor?, finds, ← exact_, ← sameLength]
    refine (findIdx?_eq_length_iff fun other member => ?_).trans ⟨fun takesNumber => ?_, ?_⟩
    · rw [lowerNone other (below other member).1 (by have bound := below other member; omega)]
      rfl
    · refine Nat.le_antisymm most (Nat.not_lt.mp fun lower => ?_)
      rw [lowerNone number least (by omega)] at takesNumber
      cases takesNumber
    · intro same
      rw [same, Nat.add_comm 1]
      exact takesPart

end Pattern

/-! ## Variants -/

def Settings.memberPattern (settings : Settings) (type : FieldType) : String :=
  type.patternOr settings.defaultPattern

def Settings.foldedSearch (caseless : Bool) (patterns : List String) :
    Except DecodeError (Option (List Acceptor)) :=
  if caseless then .ok none else (compileAll true patterns).map some

theorem Settings.variant_ok {settings : Settings} {members : List FieldType}
    {options : VariantSettings} {type : FieldType}
    (built : (settings.variant members options).result = .ok type) :
    ∃ search folded, members ≠ [] ∧
      memberSearch (options.caseless.getD settings.caseless) options.compiled
        (members.map settings.memberPattern) = .ok search ∧
      foldedSearch (options.caseless.getD settings.caseless)
        (members.map settings.memberPattern) = .ok folded ∧
      type.decode = VariantDecoder.decode ⟨members, search, folded,
        options.strict.getD settings.strict, describeMembers members⟩ := by
  unfold variant at built
  dsimp only at built
  split at built
  · cases built
  · rename_i filled
    split at built
    · cases built
    · simp only [Attempt.result_bind, Building.result_ofDecode] at built
      obtain ⟨search, searched, built⟩ := exists_of_bind_ok built
      obtain ⟨folded, ofFolded, built⟩ := exists_of_bind_ok built
      obtain ⟨_, _, built⟩ := exists_of_bind_ok built
      obtain rfl := Except.ok.inj built
      refine ⟨search, folded, ?_, eq_ok_of_mapError searched, eq_ok_of_mapError ofFolded, rfl⟩
      intro empty
      exact filled (by rw [empty]; rfl)

theorem VariantDecoder.head?_events (variant : VariantDecoder) (text : String) :
    (variant.decode text).events.head? =
      (variant.search.memberFor? text).map (.dispatched variant.description text) := by
  unfold decode
  cases variant.search.memberFor? text with
  | some index => rfl
  | none =>
      dsimp only
      split
      · split <;> rfl
      · rfl

theorem VariantDecoder.decode_eq_iff {members : List FieldType} {one two : MemberSearch}
    {folded : Option (List Acceptor)} {strict : Bool} {description text : String} :
    decode ⟨members, one, folded, strict, description⟩ text =
        decode ⟨members, two, folded, strict, description⟩ text ↔
      one.memberFor? text = two.memberFor? text := by
  constructor
  · intro same
    have heads := congrArg (fun decoding => List.head? (Attempt.events decoding)) same
    simp only [head?_events] at heads
    refine (Option.map_inj_right fun left right dispatched => ?_).mp heads
    cases dispatched
    rfl
  · intro same
    unfold decode
    rw [same]

theorem memberFor?_each {caseless : Bool} {patterns : List String} {acceptors : List Acceptor}
    (compiled : compileAll caseless patterns = .ok acceptors) (text : String) :
    (MemberSearch.each acceptors).memberFor? text =
      patterns.findIdx? (takesWhole caseless · text) := by
  rw [MemberSearch.memberFor?]
  induction patterns generalizing acceptors with
  | nil =>
      cases compiled
      rfl
  | cons pattern rest ih =>
      obtain ⟨first, ofFirst, tail⟩ := exists_of_bind_ok compiled
      obtain ⟨others, ofRest, same⟩ := exists_of_bind_ok tail
      cases same
      have takes : takesWhole caseless pattern text = first.accepts text := by
        rw [takesWhole, ofFirst]
      rw [List.findIdx?_cons, List.findIdx?_cons, takes, ih ofRest]

theorem exists_parts {caseless : Bool} {next : Nat} {patterns : List String} {numbers : List Nat}
    {acceptors : List Acceptor} (counted : groupNumbers next patterns = .ok numbers)
    (compiled : compileAll caseless patterns = .ok acceptors) :
    ∃ parts : List Part, parts.map (·.pattern) = patterns := by
  induction patterns generalizing next numbers acceptors with
  | nil => exact ⟨[], rfl⟩
  | cons pattern rest ih =>
      obtain ⟨count, later, ofPattern, ofRest, _⟩ := groupNumbers_ok counted
      obtain ⟨first, ofFirst, tail⟩ := exists_of_bind_ok compiled
      obtain ⟨others, ofOthers, _⟩ := exists_of_bind_ok tail
      obtain ⟨part, rfl⟩ := exists_part ofPattern ofFirst
      obtain ⟨parts, rfl⟩ := ih ofRest ofOthers
      exact ⟨part :: parts, rfl⟩

/-- Both searches choose the same member exactly if no member before the first that
takes the text hides a group. -/
theorem memberFor?_eq_iff {caseless : Bool} {patterns : List String} {fast slow : MemberSearch}
    (some_ : patterns ≠ []) (ofFast : Settings.memberSearch caseless true patterns = .ok fast)
    (ofSlow : Settings.memberSearch caseless false patterns = .ok slow) (text : String) :
    slow.memberFor? text = patterns.findIdx? (takesWhole caseless · text) ∧
      (fast.memberFor? text = slow.memberFor? text ↔
        ∀ index, patterns.findIdx? (takesWhole caseless · text) = some index →
          ∀ pattern ∈ patterns.take index, hidesGroup pattern = false) := by
  obtain ⟨numbers, counted, tail⟩ := exists_of_bind_ok ofFast
  obtain ⟨acceptor, combined, sameFast⟩ := exists_of_bind_ok tail
  obtain ⟨acceptors, each, sameSlow⟩ := exists_of_bind_ok ofSlow
  cases sameFast
  cases sameSlow
  have slowFinds := memberFor?_each each text
  obtain ⟨parts, rfl⟩ := exists_parts counted each
  refine ⟨slowFinds, ?_⟩
  rw [slowFinds]
  cases parts with
  | nil => exact absurd rfl some_
  | cons part rest =>
      rcases memberFor?_combined counted combined text with
        ⟨nothing, refuses⟩ | ⟨earlier, chosen, later, members, takes, refuses, chosenIff⟩
      · have none : ((part :: rest).map (·.pattern)).findIdx? (takesWhole caseless · text) =
            .none := by
          simpa [List.findIdx?_eq_none_iff] using refuses
        rw [nothing, none]
        exact ⟨fun _ _ absent => (by cases absent), fun _ => rfl⟩
      · have before : ((part :: rest).map (·.pattern)).take earlier.length =
            earlier.map (·.pattern) := by
          rw [members, List.map_append, ← List.length_map, List.take_left]
        rw [findIdx?_of_first members takes refuses, chosenIff]
        constructor
        · intro shown index same
          cases same
          rw [before]
          exact List.forall_mem_map.mpr shown
        · intro shown
          have hidden := shown _ rfl
          rw [before] at hidden
          exact List.forall_mem_map.mp hidden

theorem VariantDecoder.result_of_memberFor? {variant : VariantDecoder} {text : String}
    {index : Nat} {chosen : FieldType} (found : variant.search.memberFor? text = some index)
    (member : variant.members[index]? = some chosen) :
    (variant.decode text).result = (chosen.decode text).result := by
  rw [decode, found]
  dsimp only
  rw [member, Attempt.result_bind, Attempt.result_note]
  rfl

/-- With an acceptor for each member, a variant leaves a text to the first member whose
pattern takes it. With one acceptor for all, it decodes a text in the same way exactly
if no member before that one hides a group. -/
theorem Settings.variant_decode_eq_iff {settings : Settings} {members : List FieldType}
    {options : VariantSettings} {fast slow : FieldType}
    (fastBuilt : (settings.variant members { options with compiled := true }).result = .ok fast)
    (slowBuilt : (settings.variant members { options with compiled := false }).result = .ok slow)
    (text : String) :
    (∀ index chosen, (members.map settings.memberPattern).findIdx?
          (takesWhole (options.caseless.getD settings.caseless) · text) = some index →
        members[index]? = some chosen →
        (slow.decode text).result = (chosen.decode text).result) ∧
      (fast.decode text = slow.decode text ↔
        ∀ index, (members.map settings.memberPattern).findIdx?
            (takesWhole (options.caseless.getD settings.caseless) · text) = some index →
          ∀ pattern ∈ (members.map settings.memberPattern).take index,
            hidesGroup pattern = false) := by
  obtain ⟨fastSearch, folded, some_, ofFast, ofFolded, fastDecodes⟩ := variant_ok fastBuilt
  obtain ⟨slowSearch, others, _, ofSlow, ofOthers, slowDecodes⟩ := variant_ok slowBuilt
  obtain rfl : folded = others := Except.ok.inj (ofFolded.symm.trans ofOthers)
  obtain ⟨first, chosenIff⟩ := memberFor?_eq_iff (by simpa using some_) ofFast ofSlow text
  rw [fastDecodes, slowDecodes]
  constructor
  · intro index chosen found member
    exact VariantDecoder.result_of_memberFor? (first.trans found) member
  · exact VariantDecoder.decode_eq_iff.trans chosenIff

def FieldType.ofText (name pattern : String) : FieldType :=
  (FieldType.plain (some pattern) ⟨⟨[name]⟩, fun text => pure (.string text)⟩).renamed name

/-- Two members with groups that take part in matches. -/
theorem variant_decode_eq_of_shown_groups :
    ∃ fast slow : FieldType,
      (Settings.standard.variant [.ofText "b" "(a)+b", .ofText "c" "(?<n>c)"]
        { VariantSettings.none with compiled := true }).result = .ok fast ∧
      (Settings.standard.variant [.ofText "b" "(a)+b", .ofText "c" "(?<n>c)"]
        { VariantSettings.none with compiled := false }).result = .ok slow ∧
      fast.decode "c" = slow.decode "c" := by
  obtain ⟨fast, fastBuilt⟩ : ∃ fast : FieldType,
      (Settings.standard.variant [.ofText "b" "(a)+b", .ofText "c" "(?<n>c)"]
        { VariantSettings.none with compiled := true }).result = .ok fast := ⟨_, rfl⟩
  obtain ⟨slow, slowBuilt⟩ : ∃ slow : FieldType,
      (Settings.standard.variant [.ofText "b" "(a)+b", .ofText "c" "(?<n>c)"]
        { VariantSettings.none with compiled := false }).result = .ok slow := ⟨_, rfl⟩
  have second : ["(a)+b", "(?<n>c)"].findIdx? (takesWhole true · "c") = some 1 := by
    decide +kernel
  have shown : hidesGroup "(a)+b" = false := by decide +kernel
  refine ⟨fast, slow, fastBuilt, slowBuilt, ?_⟩
  apply (Settings.variant_decode_eq_iff fastBuilt slowBuilt "c").2.mpr
  intro index found pattern member
  obtain rfl : 1 = index := Option.some.inj (second.symm.trans found)
  obtain rfl := List.mem_singleton.mp member
  exact shown

/-- A group that no match can enter shifts the numbers of all members behind it: the text
of the second member is refused by one acceptor for both. -/
theorem variant_refuses_after_hidden_group :
    ∃ fast slow : FieldType,
      (Settings.standard.variant [.ofText "b" "(a)\x7B0\x7Db", .ofText "c" "c"]
        { VariantSettings.none with compiled := true }).result = .ok fast ∧
      (Settings.standard.variant [.ofText "b" "(a)\x7B0\x7Db", .ofText "c" "c"]
        { VariantSettings.none with compiled := false }).result = .ok slow ∧
      (fast.decode "c").result = .error (.noVariantMatch "c" "b|c") ∧
      (slow.decode "c").result = .ok (.string "c") :=
  ⟨_, _, rfl, rfl, rfl, rfl⟩

end TextSchema
