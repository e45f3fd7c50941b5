import TextSchema.FieldType.Repeated
import TextSchema.Proofs.Pattern.Denotation
import TextSchema.Proofs.Text.Pieces

/-!
# Patterns of lists

The texts that the patterns for several items take: items with the separator and any
blanks between them. In the pattern of a possibly empty list only the first item may be
missing, so a list may also begin with its first separator.
-/

set_option autoImplicit false

namespace TextSchema

open Pattern
open scoped Computability
open List (Forall₂)

/-- A separator that stands for itself, in patterns and in texts. -/
structure PlainSeparator (caseless : Bool) (separator : String) : Prop where
  nonempty : separator ≠ ""
  literal : escape separator = separator
  unblank : ∀ char ∈ separator.toList, Text.isBlank char = false
  alone : caseless = true → ∀ char ∈ separator.toList, Text.caseVariants char = []

/-- A pattern for the items of a list with this separator: it can be put into larger
patterns, has no conditions, and takes nothing that cutting or trimming would change. -/
structure ListItem (caseless : Bool) (separator pattern : String) : Prop where
  counted : ∃ count, groupCount pattern = .ok count
  dense : skipsBlanks pattern = false
  free : looksAround pattern = false
  apart : ∀ item, takesWhole caseless pattern item = true →
    ∀ char ∈ item.toList, char ∉ separator.toList
  unpadded : ∀ item, takesWhole caseless pattern item = true → Text.Unpadded item.toList

/-- The texts of lists: items with a separator and any blanks between them. -/
inductive Joined (separator : String) : List String → List Char → Prop where
  | one {item} : Joined separator [item] item.toList
  | more {item items left right text} :
      Text.AllBlank left → Text.AllBlank right → Joined separator items text →
      Joined separator (item :: items)
        (item.toList ++ (left ++ (separator.toList ++ (right ++ text))))

/-- As in `Joined`, where each separator may be any of these. -/
inductive Separated (separators : Language Char) : List String → List Char → Prop where
  | one {item} : Separated separators [item] item.toList
  | more {item items left between right text} :
      Text.AllBlank left → between ∈ separators → Text.AllBlank right →
      Separated separators items text →
      Separated separators (item :: items) (item.toList ++ (left ++ (between ++ (right ++ text))))

theorem joined_iff {separator : String} {items : List String} {text : List Char} :
    Joined separator items text ↔ Separated {separator.toList} items text := by
  constructor
  · intro joined
    induction joined with
    | one => exact .one
    | more ofLeft ofRight _ ih => exact .more ofLeft rfl ofRight ih
  · intro separated
    induction separated with
    | one => exact .one
    | more ofLeft same ofRight _ ih =>
        cases same
        exact .more ofLeft ofRight ih

/-- The texts of possibly empty lists, with the items that their pattern finds: nothing, a
list, or further items without a first one. -/
inductive Found (separator : String) : List String → List Char → Prop where
  | none : Found separator [] []
  | headed {items text} : Joined separator items text → Found separator items text
  | headless {items left right text} :
      Text.AllBlank left → Text.AllBlank right → Joined separator items text →
      Found separator items (left ++ (separator.toList ++ (right ++ text)))

/-- A text is the list of these items, and a pattern takes each of them. -/
structure Lists (caseless : Bool) (separator pattern : String) (items : List String)
    (text : String) : Prop where
  joined : Joined separator items text.toList
  taken : ∀ item ∈ items, takesWhole caseless pattern item = true

namespace Pattern

open Reader

/-! ## Reading -/

def furtherTree (part : Part) (letters : String) : Tree :=
  .ofItems (blankRun :: (letters.toList.map plain ++ [blankRun, part.group 0]))

def furtherText (pattern separator : String) : List Char :=
  '\\' :: 's' :: '*' :: (separator.toList ++
    '\\' :: 's' :: '*' :: '(' :: (pattern.toList ++ [')']))

theorem exists_escape {letters : String} (nonempty : letters ≠ "") :
    ∃ char rest, (escape letters).toList = char :: rest ∧ char ≠ '?' := by
  obtain ⟨first, others, written⟩ : ∃ first others, letters.toList = first :: others :=
    List.exists_cons_of_ne_nil (by simpa using nonempty)
  rw [escape, String.toList_ofList, written, List.flatMap_cons]
  split
  · exact ⟨'\\', _, rfl, by decide⟩
  · rename_i plain
    refine ⟨first, _, rfl, ?_⟩
    rintro rfl
    exact plain rfl

theorem fragment_furtherText (part : Part) {letters : String} (nonempty : letters ≠ "") :
    Fragment (furtherText part.pattern (escape letters)) (furtherTree part letters)
      (1 + part.groups) part.names := by
  obtain ⟨first, rest, written, head⟩ := exists_escape nonempty
  have before := start_ready.withItems [blankRun]
  have between := before.withItems (letters.toList.map plain)
  have after := between.withItems [blankRun]
  refine ⟨(((start.withItems [blankRun]).withItems (letters.toList.map plain)).withItems
    [blankRun]).withGroup part.tree part.groups part.names, ?_, ?_, rfl, ?_, ?_⟩
  · have fed : start.feed (furtherText part.pattern (escape letters)) =
        (((start.withItems [blankRun]).withItems (letters.toList.map plain)).withItems
          [blankRun]).feed ('(' :: (part.pattern.toList ++ [')'])) := by
      rw [furtherText, written, List.cons_append, feed_blankRun start_ready head,
        ← List.cons_append, ← written, feed_append, escape, String.toList_ofList,
        feed_escape before]
      have opening : '(' ≠ '?' := by decide
      exact feed_blankRun between opening
    rw [fed]
    rcases feed_group after part.fragment with done | ⟨_, taken⟩
    · exact done
    · exact absurd rfl taken
  · have items : ([blankRun].reverse ++ ((letters.toList.map plain).reverse ++
        ([blankRun].reverse ++ []))).reverse ++ [part.group 0] =
        blankRun :: (letters.toList.map plain ++ [blankRun, part.group 0]) := by simp
    rw [furtherTree, ← items, ← List.reverse_reverse [part.group 0], ← List.reverse_append]
    rfl
  · exact congrArg (· + part.groups) (Nat.zero_add 1)
  · exact List.append_nil _

def furtherItems (part : Part) (letters : String) (opened : Nat) : Tree :=
  .repeated 0 none true
    (.group (opened + 1) ((furtherTree part letters).renumber (opened + 1)))

theorem readOn_further {reader : Reader} (ready : reader.Ready)
    (opened : reader.stack = wholeStart.stack) (only : reader.branches = []) {part : Part}
    {letters : String} (nonempty : letters ≠ "") {result : Tree}
    (success : reader.readOn ('(' :: (furtherText part.pattern (escape letters) ++
      [')', '*', ')', '$'])) = .ok result) :
    result = wholeTree (.ofItems (reader.items.reverse ++
      [furtherItems part letters reader.groups])) := by
  have further := readOn_group ready (fragment_furtherText part nonempty) success
  have grouped : (reader.withGroup (furtherTree part letters) (1 + part.groups)
    part.names).Ready := ready.withGroup
  have closing : ')' ≠ '?' := by decide
  rw [readOn, feed_quantified grouped rfl closing] at further
  rw [(grouped.repeatLast 0 none true).readOn_end opened further]
  simp [withGroup, repeatLast, body, only, furtherItems, Tree.ofBranches]

theorem toList_zeroOrOne (pattern separator : String) (rest : List Char) :
    (Cardinality.zeroOrOne.patternFor pattern separator).toList ++ rest =
      '(' :: (pattern.toList ++ ')' :: '?' :: rest) := by
  simp [Cardinality.patternFor, Cardinality.template?, fillTemplate]

theorem toList_oneOrMore (pattern separator : String) (rest : List Char) :
    (Cardinality.oneOrMore.patternFor pattern separator).toList ++ rest =
      '(' :: (pattern.toList ++ ')' ::
        '(' :: (furtherText pattern separator ++ ')' :: '*' :: rest)) := by
  simp [Cardinality.patternFor, Cardinality.template?, Cardinality.moreItems, fillTemplate,
    furtherText]

theorem toList_zeroOrMore (pattern separator : String) (rest : List Char) :
    (Cardinality.zeroOrMore.patternFor pattern separator).toList ++ rest =
      '(' :: (pattern.toList ++ ')' :: '?' ::
        '(' :: (furtherText pattern separator ++ ')' :: '*' :: rest)) := by
  simp [Cardinality.patternFor, Cardinality.template?, Cardinality.moreItems, fillTemplate,
    furtherText]

theorem readOn_oneOrMore {part : Part} {letters : String} (nonempty : letters ≠ "")
    {result : Tree} (success : wholeStart.readOn
      ((Cardinality.oneOrMore.patternFor part.pattern (escape letters)).toList ++ [')', '$']) =
        .ok result) :
    result = wholeTree
      (.ofItems [part.group 0, furtherItems part letters (1 + part.groups)]) := by
  rw [toList_oneOrMore] at success
  have further := readOn_group wholeStart_ready part.fragment success
  exact readOn_further wholeStart_ready.withGroup rfl rfl nonempty further

theorem readOn_zeroOrMore {part : Part} {letters : String} (nonempty : letters ≠ "")
    {result : Tree} (success : wholeStart.readOn
      ((Cardinality.zeroOrMore.patternFor part.pattern (escape letters)).toList ++ [')', '$']) =
        .ok result) :
    result = wholeTree (.ofItems [.repeated 0 (some 1) true (part.group 0),
      furtherItems part letters (1 + part.groups)]) := by
  rw [toList_zeroOrMore] at success
  have further := readOn_group wholeStart_ready part.fragment success
  have grouped : (wholeStart.withGroup part.tree part.groups part.names).Ready :=
    wholeStart_ready.withGroup
  have opening : '(' ≠ '?' := by decide
  rw [readOn, feed_quantified grouped rfl opening] at further
  exact readOn_further (grouped.repeatLast 0 (some 1) true) rfl rfl nonempty further

/-! ## Languages -/

/-- The texts of a separator and a further item. -/
def furtherWords (caseless : Bool) (pattern : String) (separators : Language Char) :
    Language Char :=
  blankWords∗ * (separators * (blankWords∗ * itemWords caseless pattern))

theorem shallow_of_items {part : Part} {first further : Tree}
    (shallow : (wholeTree (.ofItems [first, further])).nesting ≤ nestingLimit)
    (within : (part.group 0).nesting ≤ first.nesting) :
    (wholeTree part.tree).nesting ≤ nestingLimit := by
  have inBody : first.nesting ≤ _ := Tree.nesting_le_ofItems first (.head [further])
  have own : (part.group 0).nesting = 1 + part.tree.nesting :=
    congrArg (1 + ·) (Tree.nesting_renumber _ _)
  rw [nesting_wholeTree] at shallow ⊢
  omega

section

variable {part : Part} {caseless : Bool} {letters : String} {languages : List (Language Char)}

theorem denotes_item (shallow : (wholeTree part.tree).nesting ≤ nestingLimit)
    (free : looksAround part.pattern = false) :
    (part.group 0).Denotes (.initial caseless) (itemWords caseless part.pattern) :=
  (Part.denotes shallow free).group 1 1

theorem denotes_furtherItems
    (separators : Forall₂ (Tree.Denotes (.initial caseless)) (letters.toList.map plain) languages)
    (shallow : (wholeTree part.tree).nesting ≤ nestingLimit)
    (free : looksAround part.pattern = false) (opened : Nat) :
    (furtherItems part letters opened).Denotes (.initial caseless)
      (furtherWords caseless part.pattern languages.prod)∗ := by
  have closed : ∀ tree ∈ blankRun :: (letters.toList.map plain ++ [blankRun, part.group 0]),
      tree.isClosed = true := by
    intro tree member
    cases List.mem_cons.mp member with
    | inl same =>
      subst same
      rfl
    | inr later =>
      cases List.mem_append.mp later with
      | inl letter => exact Tree.isClosed_of_mem_plain letter
      | inr last =>
        cases List.mem_cons.mp last with
        | inl same =>
          subst same
          rfl
        | inr only =>
          rw [List.mem_singleton.mp only]
          rfl
  have words : (blankWords∗ :: (languages ++ [blankWords∗, itemWords caseless part.pattern])).prod =
      furtherWords caseless part.pattern languages.prod := by
    simp [furtherWords]
  have inner : (furtherTree part letters).Denotes (.initial caseless)
      (furtherWords caseless part.pattern languages.prod) := by
    rw [← words]
    exact Tree.Denotes.ofItems closed
      (.cons Tree.denotes_blankRun (List.rel_append separators
        (.cons Tree.denotes_blankRun (.cons (denotes_item shallow free) .nil))))
  exact (inner.group _ _).star true

theorem takesWhole_oneOrMore_iff_mem (nonempty : letters ≠ "")
    (separators : Forall₂ (Tree.Denotes (.initial caseless)) (letters.toList.map plain) languages)
    (free : looksAround part.pattern = false) {acceptor : Acceptor}
    (compiled : Acceptor.compile (Cardinality.oneOrMore.patternFor part.pattern (escape letters))
      caseless = .ok acceptor) (text : String) :
    takesWhole caseless (Cardinality.oneOrMore.patternFor part.pattern (escape letters)) text =
        true ↔
      text.toList ∈ itemWords caseless part.pattern *
        (furtherWords caseless part.pattern languages.prod)∗ := by
  have reads := fun result => @readOn_oneOrMore part letters nonempty result
  have shallow := shallow_of_items (compile_body compiled reads).1 (Nat.le_refl _)
  refine takesWhole_iff_of_denotes compiled reads ?_ text
  rw [← mul_one (_∗)]
  exact Tree.Denotes.ofItems (by simp [Part.group, furtherItems, Tree.isClosed])
    (.cons (denotes_item shallow free)
      (.cons (denotes_furtherItems separators shallow free _) .nil))

theorem takesWhole_zeroOrMore_iff_mem (nonempty : letters ≠ "")
    (separators : Forall₂ (Tree.Denotes (.initial caseless)) (letters.toList.map plain) languages)
    (free : looksAround part.pattern = false) {acceptor : Acceptor}
    (compiled : Acceptor.compile (Cardinality.zeroOrMore.patternFor part.pattern (escape letters))
      caseless = .ok acceptor) (text : String) :
    takesWhole caseless (Cardinality.zeroOrMore.patternFor part.pattern (escape letters)) text =
        true ↔
      text.toList ∈ (1 + itemWords caseless part.pattern) *
        (furtherWords caseless part.pattern languages.prod)∗ := by
  have reads := fun result => @readOn_zeroOrMore part letters nonempty result
  have shallow := shallow_of_items (compile_body compiled reads).1 (Nat.le_add_left _ 1)
  refine takesWhole_iff_of_denotes compiled reads ?_ text
  rw [← mul_one (_∗)]
  exact Tree.Denotes.ofItems (by simp [Part.group, furtherItems, Tree.isClosed])
    (.cons ((denotes_item shallow free).optional true)
      (.cons (denotes_furtherItems separators shallow free _) .nil))

end

/-! ## Items with separators between them -/

theorem mem_blankWords_star {word : List Char} :
    word ∈ blankWords∗ ↔ Text.AllBlank word := by
  rw [Language.mem_kstar]
  constructor
  · intro member char inWord
    obtain ⟨parts, rfl, all⟩ := member
    obtain ⟨part, inParts, inPart⟩ := List.mem_flatten.mp inWord
    obtain ⟨other, rfl, blank⟩ := all part inParts
    rwa [List.mem_singleton.mp inPart]
  · intro blanks
    refine ⟨word.map fun char => [char], ?_, ?_⟩
    · induction word with
      | nil => rfl
      | cons char rest ih =>
          rw [List.map_cons, List.flatten_cons, ← ih (List.forall_mem_cons.mp blanks).2]
          rfl
    · intro part member
      obtain ⟨char, inWord, rfl⟩ := List.mem_map.mp member
      exact ⟨char, rfl, blanks char inWord⟩

section

variable {caseless : Bool} {pattern separator : String} {separators : Language Char}
  {items : List String} {text : List Char}

theorem mem_itemWords {item : String} :
    item.toList ∈ itemWords caseless pattern ↔ takesWhole caseless pattern item = true := by
  change takesWhole caseless pattern (String.ofList item.toList) = true ↔ _
  rw [String.ofList_toList]

theorem mem_furtherWords {word : List Char} :
    word ∈ furtherWords caseless pattern separators ↔
      ∃ (left between right : List Char) (item : String), Text.AllBlank left ∧
        between ∈ separators ∧ Text.AllBlank right ∧ takesWhole caseless pattern item = true ∧
        word = left ++ (between ++ (right ++ item.toList)) := by
  constructor
  · intro member
    obtain ⟨left, ofLeft, _, tail, rfl⟩ := Language.mem_mul.mp member
    obtain ⟨between, inBetween, _, rest, rfl⟩ := Language.mem_mul.mp tail
    obtain ⟨right, ofRight, item, ofItem, rfl⟩ := Language.mem_mul.mp rest
    refine ⟨left, between, right, String.ofList item, mem_blankWords_star.mp ofLeft, inBetween,
      mem_blankWords_star.mp ofRight, ofItem, ?_⟩
    rw [String.toList_ofList]
  · intro written
    obtain ⟨left, between, right, item, ofLeft, inBetween, ofRight, ofItem, rfl⟩ := written
    exact Language.append_mem_mul (mem_blankWords_star.mpr ofLeft)
      (Language.append_mem_mul inBetween
        (Language.append_mem_mul (mem_blankWords_star.mpr ofRight) (mem_itemWords.mpr ofItem)))

theorem mem_of_separated (separated : Separated separators items text)
    (all : ∀ item ∈ items, takesWhole caseless pattern item = true) :
    text ∈ itemWords caseless pattern * (furtherWords caseless pattern separators)∗ := by
  induction separated with
  | @one item =>
      rw [← List.append_nil item.toList]
      exact Language.append_mem_mul (mem_itemWords.mpr (all item (.head _)))
        (Language.nil_mem_kstar _)
  | @more item items left between right text ofLeft inBetween ofRight _ ih =>
      obtain ⟨ofItem, others⟩ := List.forall_mem_cons.mp all
      obtain ⟨first, ofFirst, rest, ofRest, rfl⟩ := Language.mem_mul.mp (ih others)
      apply Language.append_mem_mul (mem_itemWords.mpr ofItem)
      have further : left ++ (between ++ (right ++ first)) ∈
          furtherWords caseless pattern separators := by
        refine mem_furtherWords.mpr
          ⟨left, between, right, String.ofList first, ofLeft, inBetween, ofRight, ofFirst, ?_⟩
        rw [String.toList_ofList]
      have within : furtherWords caseless pattern separators *
          (furtherWords caseless pattern separators)∗ ≤
            (furtherWords caseless pattern separators)∗ := mul_kstar_le_kstar
      have both : left ++ (between ++ (right ++ first)) ++ rest ∈
          (furtherWords caseless pattern separators)∗ :=
        within (Language.append_mem_mul further ofRest)
      simpa only [List.append_assoc] using both

theorem exists_separated (member : text ∈ itemWords caseless pattern *
      (furtherWords caseless pattern separators)∗) :
    ∃ items, Separated separators items text ∧
      ∀ item ∈ items, takesWhole caseless pattern item = true := by
  obtain ⟨first, ofFirst, rest, ofRest, rfl⟩ := Language.mem_mul.mp member
  obtain ⟨parts, rfl, all⟩ := Language.mem_kstar.mp ofRest
  clear member ofRest
  induction parts generalizing first with
  | nil =>
      refine ⟨[String.ofList first], ?_, List.forall_mem_singleton.mpr ofFirst⟩
      have one : Separated separators [String.ofList first] (String.ofList first).toList := .one
      rw [String.toList_ofList] at one
      simpa using one
  | cons part parts ih =>
      obtain ⟨ofPart, others⟩ := List.forall_mem_cons.mp all
      obtain ⟨left, between, right, item, ofLeft, inBetween, ofRight, ofItem, rfl⟩ :=
        mem_furtherWords.mp ofPart
      obtain ⟨items, separated, taken⟩ := ih item.toList (mem_itemWords.mpr ofItem) others
      refine ⟨String.ofList first :: items, ?_, List.forall_mem_cons.mpr ⟨ofFirst, taken⟩⟩
      have more : Separated separators (String.ofList first :: items) _ :=
        .more ofLeft inBetween ofRight separated
      rw [String.toList_ofList] at more
      simpa using more

theorem exists_found (member : text ∈ (1 + itemWords caseless pattern) *
      (furtherWords caseless pattern {separator.toList})∗) :
    ∃ items, Found separator items text ∧
      ∀ item ∈ items, takesWhole caseless pattern item = true := by
  rw [add_mul, one_mul, ← Language.one_add_self_mul_kstar_eq_kstar] at member
  rcases member with (nothing | headless) | headed
  · obtain rfl : text = [] := nothing
    exact ⟨[], .none, List.forall_mem_nil _⟩
  · obtain ⟨part, ofPart, rest, ofRest, rfl⟩ := Language.mem_mul.mp headless
    obtain ⟨left, _, right, item, ofLeft, rfl, ofRight, ofItem, rfl⟩ := mem_furtherWords.mp ofPart
    obtain ⟨items, separated, all⟩ :=
      exists_separated (Language.append_mem_mul (mem_itemWords.mpr ofItem) ofRest)
    refine ⟨items, ?_, all⟩
    have found : Found separator items _ := .headless ofLeft ofRight (joined_iff.mpr separated)
    simpa only [List.append_assoc] using found
  · rw [Language.one_add_self_mul_kstar_eq_kstar] at headed
    obtain ⟨items, separated, all⟩ := exists_separated headed
    exact ⟨items, .headed (joined_iff.mpr separated), all⟩

/-- The pattern of one or more items takes exactly the lists of texts that the pattern of
an item takes. -/
theorem takesWhole_oneOrMore_iff (plainly : PlainSeparator caseless separator)
    (listable : ListItem caseless separator pattern) {acceptor : Acceptor}
    (compiled : Acceptor.compile (Cardinality.oneOrMore.patternFor pattern separator) caseless =
      .ok acceptor) (text : String) :
    takesWhole caseless (Cardinality.oneOrMore.patternFor pattern separator) text = true ↔
      ∃ items, Lists caseless separator pattern items text := by
  obtain ⟨count, counted⟩ := listable.counted
  obtain ⟨part, rfl⟩ := Part.exists_of_groupCount counted listable.dense
  have takes := @takesWhole_oneOrMore_iff_mem part caseless separator _ plainly.nonempty
    (Tree.denotes_plains plainly.alone) listable.free acceptor
  rw [plainly.literal, Tree.prod_letters] at takes
  rw [takes compiled]
  constructor
  · intro member
    obtain ⟨items, separated, taken⟩ := exists_separated member
    exact ⟨items, joined_iff.mpr separated, taken⟩
  · intro listed
    obtain ⟨items, lists⟩ := listed
    exact mem_of_separated (joined_iff.mp lists.joined) lists.taken

/-- The pattern of any number of items finds items in every text that it takes. -/
theorem exists_found_of_takesWhole (plainly : PlainSeparator caseless separator)
    (listable : ListItem caseless separator pattern) {text : String}
    (taken : takesWhole caseless (Cardinality.zeroOrMore.patternFor pattern separator) text = true) :
    ∃ items, Found separator items text.toList ∧
      ∀ item ∈ items, takesWhole caseless pattern item = true := by
  obtain ⟨count, counted⟩ := listable.counted
  obtain ⟨part, rfl⟩ := Part.exists_of_groupCount counted listable.dense
  obtain ⟨acceptor, compiled⟩ := exists_acceptor taken
  have takes := @takesWhole_zeroOrMore_iff_mem part caseless separator _ plainly.nonempty
    (Tree.denotes_plains plainly.alone) listable.free acceptor
  rw [plainly.literal, Tree.prod_letters] at takes
  exact exists_found ((takes compiled text).mp taken)

end

end Pattern

end TextSchema
