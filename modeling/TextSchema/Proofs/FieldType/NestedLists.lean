import TextSchema.Proofs.FieldType.ListDecoding

/-!
# Lists of lists

Lists whose items are lists again, each level with a separator of its own. A tree written
with these separators, with blanks around its leaves, is decoded to the same tree, or fails
as the first of its leaves that does not decode.
-/

set_option autoImplicit false

namespace TextSchema

open Text (AllBlank Unpadded)

/-! ## Trees and their text -/

/-- The text of an item with the blanks that are written around it. -/
structure PaddedItem where
  before : List Char
  text : String
  after : List Char
  blankBefore : AllBlank before
  blankAfter : AllBlank after
  unpadded : Unpadded text.toList

def PaddedItem.written (item : PaddedItem) : List Char :=
  item.before ++ (item.text.toList ++ item.after)

theorem PaddedItem.trimmed_written (item : PaddedItem) :
    trimmed (String.ofList item.written) = item.text := by
  have text : Text.trimBlanks item.written = item.text.toList := by
    rw [written, Text.trimBlanks_blanks_append item.blankBefore,
      Text.trimBlanks_append_blanks item.blankAfter, item.unpadded.trimBlanks_eq]
  rw [trimmed, String.toList_ofList, text, String.ofList_toList]

/-- Lists of lists of items with as many levels. No list is empty. -/
def ListTree : Nat → Type
  | 0 => PaddedItem
  | depth + 1 => { trees : List (ListTree depth) // trees ≠ [] }

namespace ListTree

def leaves : {depth : Nat} → ListTree depth → List PaddedItem
  | 0, item => [item]
  | _ + 1, trees => trees.val.flatMap leaves

/-- A tree as text, the trees of each level joined with its separator. The first level is
the outermost. -/
def written : (levels : List Settings) → ListTree levels.length → List Char
  | [], item => PaddedItem.written item
  | settings :: inner, trees =>
      settings.separator.toList.intercalate (trees.val.map (written inner))

/-- A tree as nested lists of the values of its leaves. -/
def arrays (value : String → Value) : {depth : Nat} → ListTree depth → Value
  | 0, item => value item.text
  | _ + 1, trees => .array (trees.val.map (arrays value))

/-- The values of the leaves in nested lists, unless a leaf does not decode. -/
def decoded (decode : String → Except DecodeError Value) :
    {depth : Nat} → ListTree depth → Except DecodeError Value
  | 0, item => decode item.text
  | _ + 1, trees => (trees.val.mapM (decoded decode)).map .array

variable {value : String → Value} {decode : String → Except DecodeError Value}

theorem decoded_of_ok {depth : Nat} {tree : ListTree depth}
    (each : ∀ leaf ∈ tree.leaves, decode leaf.text = .ok (value leaf.text)) :
    tree.decoded decode = .ok (tree.arrays value) := by
  induction depth with
  | zero => exact each tree (List.mem_singleton.mpr rfl)
  | succ depth ih =>
      have all : ∀ inner ∈ tree.val, decoded decode inner = .ok (arrays value inner) :=
        fun inner member => ih fun leaf inLeaves =>
          each leaf (List.mem_flatMap.mpr ⟨inner, member, inLeaves⟩)
      rw [decoded, mapM_of_ok all]
      rfl

theorem exists_decoded {depth : Nat} {tree : ListTree depth}
    (each : ∀ leaf ∈ tree.leaves, ∃ value, decode leaf.text = .ok value) :
    ∃ value, tree.decoded decode = .ok value := by
  induction depth with
  | zero => exact each tree (List.mem_singleton.mpr rfl)
  | succ depth ih =>
      have all : ∀ inner ∈ tree.val, ∃ value, decoded decode inner = .ok value :=
        fun inner member => ih fun leaf inLeaves =>
          each leaf (List.mem_flatMap.mpr ⟨inner, member, inLeaves⟩)
      obtain ⟨values, success⟩ := exists_mapM_ok all
      rw [decoded, success]
      exact ⟨_, rfl⟩

/-- A leaf stands in one of the trees, behind the leaves of the trees before it. -/
theorem exists_of_leaves {depth : Nat} {trees : List (ListTree depth)}
    {before after : List PaddedItem} {leaf : PaddedItem}
    (split : trees.flatMap leaves = before ++ leaf :: after) :
    ∃ earlier tree later inside rest, trees = earlier ++ tree :: later ∧
      tree.leaves = inside ++ leaf :: rest ∧ before = earlier.flatMap leaves ++ inside := by
  induction trees generalizing before with
  | nil => cases (List.append_eq_nil_iff.mp split.symm).2
  | cons first others ih =>
      rw [List.flatMap_cons] at split
      -- All leaves of the first tree come before the leaf, or it is one of them.
      rcases List.append_eq_append_iff.mp split with
        ⟨further, rfl, splitOthers⟩ | ⟨_ | ⟨_, rest⟩, inFirst, same⟩
      · obtain ⟨earlier, tree, later, inside, rest, rfl, here, rfl⟩ := ih splitOthers
        refine ⟨first :: earlier, tree, later, inside, rest, rfl, here, ?_⟩
        rw [List.flatMap_cons, List.append_assoc]
      · have splitOthers : others.flatMap leaves = [] ++ leaf :: after := same.symm
        obtain ⟨earlier, tree, later, inside, rest, rfl, here, none_⟩ := ih splitOthers
        refine ⟨first :: earlier, tree, later, inside, rest, rfl, here, ?_⟩
        rw [List.flatMap_cons, List.append_assoc, ← none_, List.append_nil, inFirst,
          List.append_nil]
      · obtain ⟨rfl, _⟩ := List.cons.inj same
        exact ⟨[], first, others, before, rest, rfl, inFirst, rfl⟩

/-- The first leaf that does not decode decides how the tree fails. -/
theorem decoded_of_error {depth : Nat} {tree : ListTree depth} {before after : List PaddedItem}
    {leaf : PaddedItem} {flaw : DecodeError} (split : tree.leaves = before ++ leaf :: after)
    (each : ∀ other ∈ before, ∃ value, decode other.text = .ok value)
    (fails : decode leaf.text = .error flaw) : tree.decoded decode = .error flaw := by
  induction depth generalizing before after with
  | zero =>
      cases before with
      | nil =>
          obtain rfl : tree = leaf := (List.cons.inj split).1
          exact fails
      | cons other rest => cases (List.append_eq_nil_iff.mp (List.cons.inj split).2.symm).2
  | succ depth ih =>
      obtain ⟨earlier, inner, later, inside, rest, trees, here, rfl⟩ := exists_of_leaves split
      obtain ⟨ofEarlier, ofInside⟩ := List.forall_mem_append.mp each
      have decodes : ∀ other ∈ earlier, ∃ value, decoded decode other = .ok value :=
        fun other member => exists_decoded fun leaf inLeaves =>
          ofEarlier leaf (List.mem_flatMap.mpr ⟨other, member, inLeaves⟩)
      rw [decoded, trees, mapM_of_error decodes (ih here ofInside)]
      rfl

end ListTree

/-! ## Nested list types -/

section

variable {levels : List Settings} {settings : Settings}

/-- The type of lists of lists of a base type, with the settings of each level from the
outermost to the innermost. -/
def Settings.nestedList (base : FieldType) : List Settings → FieldType
  | [] => base
  | settings :: inner => (settings.derive .oneOrMore (nestedList base inner)).value

theorem Settings.result_nestedList (base : FieldType) (settings : Settings) (inner : List Settings)
    (text : String) :
    ((nestedList base (settings :: inner)).decode text).result =
      ((itemTexts settings.separator (trimmed text)).mapM fun item =>
        ((nestedList base inner).decode item).result).map .array := by
  have several : Cardinality.oneOrMore ≠ .one := by decide
  rw [nestedList, decode_of_derive several rfl]
  exact FieldType.result_decodeList rfl

/-- Separators that keep the levels apart: each has a character, none has a blank, and no
two have a character in common. -/
structure Separating (levels : List Settings) : Prop where
  nonempty : ∀ settings ∈ levels, settings.separator ≠ ""
  unblank : ∀ settings ∈ levels, ∀ char ∈ settings.separator.toList, Text.isBlank char = false
  disjoint : levels.Pairwise fun outer inner =>
    ∀ char ∈ outer.separator.toList, char ∉ inner.separator.toList

/-- No leaf has a character of a separator. -/
def ListTree.Apart (levels : List Settings) {depth : Nat} (tree : ListTree depth) : Prop :=
  ∀ leaf ∈ tree.leaves, ∀ settings ∈ levels,
    ∀ char ∈ leaf.text.toList, char ∉ settings.separator.toList

theorem Separating.inner (separating : Separating (settings :: levels)) : Separating levels where
  nonempty other member := separating.nonempty other (.tail _ member)
  unblank other member := separating.unblank other (.tail _ member)
  disjoint := (List.pairwise_cons.mp separating.disjoint).2

/-- A tree is written with blanks, characters of its leaves and separators. -/
theorem ListTree.mem_written {levels : List Settings} {tree : ListTree levels.length} {char : Char}
    (member : char ∈ tree.written levels) :
    Text.isBlank char = true ∨ (∃ leaf ∈ tree.leaves, char ∈ leaf.text.toList) ∨
      ∃ settings ∈ levels, char ∈ settings.separator.toList := by
  induction levels with
  | nil =>
      rcases List.mem_append.mp member with before | member
      · exact .inl (PaddedItem.blankBefore tree char before)
      · rcases List.mem_append.mp member with inText | after
        · exact .inr (.inl ⟨tree, List.mem_singleton.mpr rfl, inText⟩)
        · exact .inl (PaddedItem.blankAfter tree char after)
  | cons settings inner ih =>
      rcases Text.mem_intercalate member with inSeparator | ⟨part, inParts, inPart⟩
      · exact .inr (.inr ⟨settings, .head _, inSeparator⟩)
      · obtain ⟨first, inTrees, rfl⟩ := List.mem_map.mp inParts
        rcases ih inPart with blank | ⟨leaf, inLeaves, inText⟩ | ⟨other, inInner, inSeparator⟩
        · exact .inl blank
        · exact .inr (.inl ⟨leaf, List.mem_flatMap.mpr ⟨first, inTrees, inLeaves⟩, inText⟩)
        · exact .inr (.inr ⟨other, .tail _ inInner, inSeparator⟩)

theorem Separating.unpadded (separating : Separating (settings :: levels)) :
    Unpadded settings.separator.toList :=
  Text.unpadded_of_unblank (separating.unblank settings (.head _))

/-- The separator of the outermost level is not used inside its items. -/
theorem Separating.not_mem_written (separating : Separating (settings :: levels))
    {tree : ListTree levels.length} (apart : tree.Apart (settings :: levels)) {sign : Char}
    (member : sign ∈ settings.separator.toList) : sign ∉ tree.written levels := by
  intro inTree
  rcases ListTree.mem_written inTree with
    blank | ⟨leaf, inLeaves, inText⟩ | ⟨other, inLevels, inSeparator⟩
  · cases blank.symm.trans (separating.unblank settings (.head _) sign member)
  · exact apart leaf inLeaves settings (.head _) sign inText member
  · exact (List.pairwise_cons.mp separating.disjoint).1 other inLevels sign member inSeparator

/-- The items of a written tree are its subtrees. -/
theorem Separating.itemTexts_written (separating : Separating (settings :: levels))
    {tree : ListTree (settings :: levels).length} (apart : tree.Apart (settings :: levels)) :
    itemTexts settings.separator (trimmed (String.ofList (tree.written (settings :: levels)))) =
      tree.val.map fun inner => trimmed (String.ofList (inner.written levels)) := by
  have nonempty : settings.separator.toList ≠ [] := by
    simpa using separating.nonempty settings (.head _)
  obtain ⟨sign, rest, isFirst⟩ := List.exists_cons_of_ne_nil nonempty
  have member : sign ∈ settings.separator.toList := isFirst ▸ .head _
  have absent : ∀ part ∈ tree.val.map (ListTree.written levels), sign ∉ part := by
    intro part inParts
    obtain ⟨inner, inTrees, rfl⟩ := List.mem_map.mp inParts
    refine separating.not_mem_written ?_ member
    exact fun leaf inLeaves => apart leaf (List.mem_flatMap.mpr ⟨inner, inTrees, inLeaves⟩)
  have some_ : tree.val.map (ListTree.written levels) ≠ [] := by simpa using tree.property
  have cut := Text.trimmed_pieces_trimBlanks nonempty separating.unpadded
    (tree.written (settings :: levels))
  rw [ListTree.written, Text.pieces_intercalate member some_ absent] at cut
  have texts := congrArg (List.map String.ofList) cut
  simpa [itemTexts, trimmed, ListTree.written, List.map_map, Function.comp_def] using texts

/-- Level by level, the text of a tree is taken apart as it was put together. -/
theorem Separating.result_decode (separating : Separating levels) (base : FieldType)
    {tree : ListTree levels.length} (apart : tree.Apart levels) :
    ((Settings.nestedList base levels).decode
        (trimmed (String.ofList (tree.written levels)))).result =
      tree.decoded fun text => (base.decode text).result := by
  induction levels with
  | nil =>
      have text := PaddedItem.trimmed_written tree
      exact congrArg (fun text => (base.decode text).result) text
  | cons settings inner ih =>
      have ofItems : ∀ item ∈ tree.val,
          ((Settings.nestedList base inner).decode
              (trimmed (String.ofList (item.written inner)))).result =
            item.decoded fun text => (base.decode text).result := by
        intro item member
        refine ih separating.inner ?_
        intro leaf inLeaves other inInner
        exact apart leaf (List.mem_flatMap.mpr ⟨item, member, inLeaves⟩) other (.tail _ inInner)
      rw [Settings.result_nestedList, trimmed_trimmed, separating.itemTexts_written apart,
        List.mapM_map]
      exact congrArg (Except.map Value.array) (mapM_congr ofItems)

end

/-- A tree written with separators that keep its levels apart, with any blanks around its
leaves, is decoded to the same tree of arrays. If some leaf does not decode, the first of
these decides how the decoding fails. -/
theorem Settings.nestedList_decode (base : FieldType) {levels : List Settings}
    (nested : levels ≠ []) (separating : Separating levels) (tree : ListTree levels.length)
    (apart : tree.Apart levels) :
    (∀ value : String → Value,
      (∀ leaf ∈ tree.leaves, (base.decode leaf.text).result = .ok (value leaf.text)) →
      ((nestedList base levels).decode (String.ofList (tree.written levels))).result =
        .ok (tree.arrays value)) ∧
    ∀ before leaf after flaw, tree.leaves = before ++ leaf :: after →
      (∀ other ∈ before, ∃ value, (base.decode other.text).result = .ok value) →
      (base.decode leaf.text).result = .error flaw →
      ((nestedList base levels).decode (String.ofList (tree.written levels))).result =
        .error flaw := by
  have taken : ((nestedList base levels).decode (String.ofList (tree.written levels))).result =
      tree.decoded fun text => (base.decode text).result := by
    obtain ⟨settings, inner, rfl⟩ := List.exists_cons_of_ne_nil nested
    have untrimmed := separating.result_decode base apart
    rwa [result_nestedList, trimmed_trimmed, ← result_nestedList] at untrimmed
  constructor
  · intro value each
    exact taken.trans (ListTree.decoded_of_ok each)
  · intro before leaf after flaw split each fails
    exact taken.trans (ListTree.decoded_of_error split each fails)

/-- A word with a space on each side. -/
def PaddedItem.ofWord (word : String)
    (unblank : ∀ char ∈ word.toList, Text.isBlank char = false) : PaddedItem where
  before := [' ']
  text := word
  after := [' ']
  blankBefore := List.forall_mem_singleton.mpr rfl
  blankAfter := List.forall_mem_singleton.mpr rfl
  unpadded := Text.unpadded_of_unblank unblank

/-- Two lists of numbers, and a nested list in which two items are no numbers. -/
theorem Settings.nestedList_decode_numbers :
    ∃ list, nestedList (.number ⟨[]⟩) [{ standard with separator := "::" }, standard] = list ∧
      Separating [{ standard with separator := "::" }, standard] ∧
      (list.decode " 1 , 2 :: 3 ").result =
        .ok (.array [.array [.int 1, .int 2], .array [.int 3]]) ∧
      ∃ flaw, ((FieldType.number ⟨[]⟩).decode "x").result = .error flaw ∧
        (list.decode " 1 , x :: y ").result = .error flaw := by
  let levels : List Settings := [{ standard with separator := "::" }, standard]
  have separating : Separating levels := by
    refine ⟨by decide, ?_, List.pairwise_pair.mpr ?_⟩
    · intro settings member
      rcases List.mem_pair.mp member with rfl | rfl
      · exact List.forall_mem_cons.mpr ⟨rfl, List.forall_mem_singleton.mpr rfl⟩
      · exact List.forall_mem_singleton.mpr rfl
    · intro char inSeparator
      rcases List.mem_pair.mp inSeparator with rfl | rfl
      · decide
      · decide
  let one : PaddedItem := .ofWord "1" (List.forall_mem_singleton.mpr rfl)
  let two : PaddedItem := .ofWord "2" (List.forall_mem_singleton.mpr rfl)
  let three : PaddedItem := .ofWord "3" (List.forall_mem_singleton.mpr rfl)
  let first : PaddedItem := .ofWord "x" (List.forall_mem_singleton.mpr rfl)
  let second : PaddedItem := .ofWord "y" (List.forall_mem_singleton.mpr rfl)
  let numbers : ListTree levels.length :=
    ⟨[⟨[one, two], List.cons_ne_nil _ _⟩, ⟨[three], List.cons_ne_nil _ _⟩], List.cons_ne_nil _ _⟩
  let words : ListTree levels.length :=
    ⟨[⟨[one, first], List.cons_ne_nil _ _⟩, ⟨[second], List.cons_ne_nil _ _⟩], List.cons_ne_nil _ _⟩
  have apart : ∀ leaf ∈ [one, two, three, first, second], ∀ settings ∈ levels,
      ∀ char ∈ leaf.text.toList, char ∉ settings.separator.toList := by
    have none_ : ([one, two, three, first, second].all fun leaf => levels.all fun settings =>
        leaf.text.toList.all fun char => !settings.separator.toList.contains char) = true := by
      decide
    simpa only [List.all_eq_true, Bool.not_eq_true', List.contains_eq_mem,
      decide_eq_false_iff_not] using none_
  have apartNumbers : numbers.Apart levels := fun leaf member =>
    apart leaf (List.mem_of_mem_take (show leaf ∈ List.take 3 _ from member))
  have apartWords : words.Apart levels := by
    intro leaf member
    refine apart leaf ?_
    rcases List.mem_cons.mp member with rfl | later
    · exact .head _
    · exact List.mem_of_mem_drop (show leaf ∈ List.drop 3 _ from later)
  obtain ⟨decodes, _⟩ := nestedList_decode (.number ⟨[]⟩) (List.cons_ne_nil _ _) separating
    numbers apartNumbers
  obtain ⟨_, fails⟩ := nestedList_decode (.number ⟨[]⟩) (List.cons_ne_nil _ _) separating
    words apartWords
  have writtenNumbers : String.ofList (numbers.written levels) = " 1 , 2 :: 3 " := by
    decide +kernel
  have writtenWords : String.ofList (words.written levels) = " 1 , x :: y " := by decide +kernel
  have ofOne : ((FieldType.number ⟨[]⟩).decode "1").result = .ok (.int 1) := rfl
  have ofTwo : ((FieldType.number ⟨[]⟩).decode "2").result = .ok (.int 2) := rfl
  have ofThree : ((FieldType.number ⟨[]⟩).decode "3").result = .ok (.int 3) := rfl
  obtain ⟨flaw, noNumber⟩ : ∃ flaw, ((FieldType.number ⟨[]⟩).decode "x").result = .error flaw :=
    ⟨_, rfl⟩
  refine ⟨_, rfl, separating, ?_, flaw, noNumber, ?_⟩
  · let value (text : String) : Value :=
      if text = "1" then .int 1 else if text = "2" then .int 2 else .int 3
    have each : ∀ leaf ∈ [one, two, three],
        ((FieldType.number ⟨[]⟩).decode leaf.text).result = .ok (value leaf.text) := by
      simp only [List.forall_mem_cons]
      exact ⟨ofOne, ofTwo, ofThree, List.forall_mem_nil _⟩
    exact writtenNumbers ▸ decodes value each
  · have each : ∀ other ∈ [one], ∃ value,
        ((FieldType.number ⟨[]⟩).decode other.text).result = .ok value :=
      List.forall_mem_singleton.mpr ⟨.int 1, ofOne⟩
    exact writtenWords ▸ fails [one] first [second] flaw rfl each noNumber

end TextSchema
