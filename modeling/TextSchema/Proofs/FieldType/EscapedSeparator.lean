import TextSchema.Proofs.FieldType.ListDecoding
import TextSchema.Proofs.Schema.Tiling

/-!
# Escaped separators

A separator is put into the pattern of a list as it is, and the text of a list is cut at
the same separator as it is. Escaped, it stands for its letters in the pattern, in any
case, but the text is cut at the escaped separator. So the pieces are the items only for
separators that escaping, ignoring case and trimming leave alone.
-/

set_option autoImplicit false

namespace TextSchema

open Pattern
open Schema (SameLetter)
open scoped Computability
open List (Forall₂)

/-! ## What an escaped separator stands for -/

def caseForms (char : Char) : Language Char :=
  {word | ∃ other, word = [other] ∧ SameLetter char other}

/-- The texts that an escaped separator takes if case does not count. -/
def spellings (letters : List Char) : Language Char :=
  {word | Forall₂ SameLetter letters word}

theorem denotes_caseForms (char : Char) :
    (Reader.plain char).Denotes (.initial true) (caseForms char) := by
  intro branches after lowered
  cases lowered
  refine ⟨rfl, ?_⟩
  ext word
  constructor
  · intro member
    obtain ⟨other, rfl, inSet⟩ := member
    exact ⟨other, rfl, by simpa [SameLetter, Literal.plain] using inSet⟩
  · intro member
    obtain ⟨other, rfl, same⟩ := member
    exact ⟨other, rfl, by simpa [SameLetter, Literal.plain] using same⟩

theorem prod_caseForms (letters : List Char) :
    (letters.map caseForms).prod = spellings letters := by
  induction letters with
  | nil =>
      ext word
      exact List.forall₂_nil_left_iff.symm
  | cons char rest ih =>
      rw [List.map_cons, List.prod_cons, ih]
      ext word
      rw [Language.mem_mul]
      constructor
      · intro member
        obtain ⟨_, ⟨other, rfl, same⟩, _, later, rfl⟩ := member
        exact .cons same later
      · intro member
        obtain ⟨other, others, same, later, rfl⟩ := List.forall₂_cons_left_iff.mp member
        exact ⟨[other], ⟨other, rfl, same⟩, others, later, rfl⟩

theorem self_mem_spellings (letters : List Char) : letters ∈ spellings letters :=
  List.forall₂_same.mpr fun _ _ => .inl rfl

theorem spellings_of_caseless {letters : List Char}
    (caseless : ∀ char ∈ letters, ∀ other, SameLetter char other → other = char) :
    spellings letters = {letters} := by
  ext word
  constructor
  · intro spelled
    change word = letters
    induction spelled with
    | nil => rfl
    | cons same _ ih =>
        obtain ⟨first, later⟩ := List.forall_mem_cons.mp caseless
        rw [first _ same, ih later]
  · intro same
    rw [show word = letters from same]
    exact self_mem_spellings letters

/-- A text is the list of these items with the separator in any case between them, and a
pattern takes each of them. -/
structure Spelled (letters pattern : String) (items : List String) (text : String) : Prop where
  separated : Separated (spellings letters.toList) items text.toList
  taken : ∀ item ∈ items, takesWhole true pattern item = true

theorem Spelled.exists_taken {letters pattern : String} {items : List String} {text : String}
    (spelled : Spelled letters pattern items text) :
    ∃ item, takesWhole true pattern item = true := by
  obtain ⟨separated, taken⟩ := spelled
  generalize text.toList = chars at separated
  cases separated <;> exact ⟨_, taken _ (.head _)⟩

/-- Escaped, the separator takes exactly its letters in any case. -/
theorem takesWhole_escaped_iff {letters pattern : String} (nonempty : letters ≠ "")
    (listable : ListItem true letters pattern) {acceptor : Acceptor}
    (compiled : Acceptor.compile (Cardinality.oneOrMore.patternFor pattern (escape letters)) true =
      .ok acceptor) (text : String) :
    takesWhole true (Cardinality.oneOrMore.patternFor pattern (escape letters)) text = true ↔
      ∃ items, Spelled letters pattern items text := by
  obtain ⟨count, counted⟩ := listable.counted
  obtain ⟨part, rfl⟩ := Part.exists_of_groupCount counted listable.dense
  have separators : Forall₂ (Tree.Denotes (.initial true)) (letters.toList.map Reader.plain)
      (letters.toList.map caseForms) := by
    rw [List.forall₂_map_left_iff, List.forall₂_map_right_iff, List.forall₂_same]
    exact fun char _ => denotes_caseForms char
  rw [takesWhole_oneOrMore_iff_mem nonempty separators listable.free compiled, prod_caseForms]
  constructor
  · intro member
    obtain ⟨items, separated, taken⟩ := exists_separated member
    exact ⟨items, separated, taken⟩
  · intro spelled
    obtain ⟨items, separated, taken⟩ := spelled
    exact mem_of_separated separated taken

/-! ## Separators that work -/

/-- A separator that is the same escaped and in any case, and whose ends are not taken for
blanks around the items. -/
structure Faithful (letters pattern : String) : Prop where
  verbatim : escape letters = letters
  caseless : ∀ char ∈ letters.toList, ∀ other, SameLetter char other → other = char
  visible : ∃ sign ∈ letters.toList, Text.isBlank sign = false
  clean : takesWhole true pattern "" = true → Text.Unpadded letters.toList

/-- The pieces at a faithful separator are the items. -/
theorem Faithful.itemTexts_eq {letters pattern : String} {items : List String} {text : String}
    (faithful : Faithful letters pattern) (listable : ListItem true letters pattern)
    (spelled : Spelled letters pattern items text) :
    itemTexts (escape letters) (trimmed text) = items := by
  have separated := spelled.separated
  rw [spellings_of_caseless faithful.caseless] at separated
  have clean : Text.Unpadded letters.toList ∨ ∀ item ∈ items, item ≠ "" := by
    by_cases empty : takesWhole true pattern "" = true
    · exact .inl (faithful.clean empty)
    · exact .inr fun item member same => empty (same ▸ spelled.taken item member)
  rw [faithful.verbatim]
  exact (joined_iff.mpr separated).itemTexts_eq faithful.visible
    (fun item member => listable.apart item (spelled.taken item member))
    (fun item member => listable.unpadded item (spelled.taken item member)) clean

theorem separated_intercalate {letters : String} {items : List String} (some_ : items ≠ []) :
    Separated (spellings letters.toList) items (letters.intercalate items).toList := by
  match items with
  | [item] =>
      rw [String.intercalate_singleton]
      exact .one
  | item :: next :: rest =>
      have blank : Text.AllBlank [] := List.forall_mem_nil _
      rw [String.intercalate_cons_cons, String.toList_append, String.toList_append,
        List.append_assoc]
      exact .more blank (self_mem_spellings _) blank (separated_intercalate (List.cons_ne_nil _ _))

/-! ## Separators that do not -/

/-- Each text that is spelled as a list is cut into as many pieces as it has items, and the
pattern of an item takes each piece. -/
def CutsIntoItems (letters pattern : String) : Prop :=
  ∀ text items, Spelled letters pattern items text →
    (itemTexts (escape letters) (trimmed text)).length = items.length ∧
      ∀ piece ∈ itemTexts (escape letters) (trimmed text), takesWhole true pattern piece = true

theorem length_le_length_escape (letters : String) :
    letters.toList.length ≤ (escape letters).toList.length := by
  rw [escape, String.toList_ofList]
  induction letters.toList with
  | nil => exact Nat.le_refl _
  | cons char rest ih =>
      rw [List.flatMap_cons, List.length_append, List.length_cons]
      split
      · rw [List.length_cons, List.length_singleton]
        omega
      · rw [List.length_singleton]
        omega

section

variable {letters pattern : String} {item : String}

theorem spelled_pair {left between right : List Char} (taken : takesWhole true pattern item = true)
    (ofLeft : Text.AllBlank left) (inBetween : between ∈ spellings letters.toList)
    (ofRight : Text.AllBlank right) :
    Spelled letters pattern [item, item]
      (String.ofList (item.toList ++ (left ++ (between ++ (right ++ item.toList))))) where
  separated := by
    rw [String.toList_ofList]
    exact .more ofLeft inBetween ofRight .one
  taken := by simp [taken]

/-- Between two items as short as an item can be, there is no room for anything but the
escaped separator. -/
theorem CutsIntoItems.tight (cuts : CutsIntoItems letters pattern)
    (taken : takesWhole true pattern item = true)
    (shortest : ∀ other, takesWhole true pattern other = true →
      item.toList.length ≤ other.toList.length)
    (nonempty : letters ≠ "") {between : List Char} (spelled : between ∈ spellings letters.toList) :
    between = (escape letters).toList ∧
      Text.trimBlanks (item.toList ++ (between ++ item.toList)) =
        item.toList ++ (between ++ item.toList) := by
  have blank : Text.AllBlank [] := List.forall_mem_nil _
  obtain ⟨count, all⟩ := cuts _ _ (spelled_pair taken blank spelled blank)
  rw [List.nil_append, List.nil_append] at count all
  have some_ : (escape letters).toList ≠ [] := by
    obtain ⟨char, rest, same, _⟩ := exists_escape nonempty
    rw [same]
    exact List.cons_ne_nil _ _
  have joined := Text.intercalate_pieces some_
    (Text.trimBlanks (item.toList ++ (between ++ item.toList)))
  rw [itemTexts, trimmed, String.toList_ofList, String.toList_ofList] at count all
  rw [List.length_map] at count
  obtain ⟨first, last, cut⟩ := List.length_eq_two.mp count
  rw [cut] at all joined
  have long : ∀ piece ∈ [first, last], item.toList.length ≤ piece.length := by
    intro piece member
    have least := shortest _ (all _ (List.mem_map_of_mem member))
    rw [trimmed, String.toList_ofList, String.toList_ofList] at least
    exact least.trans (Text.length_trimBlanks_le piece)
  rw [List.intercalate_cons_cons, List.intercalate_singleton, List.append_assoc] at joined
  have lengths := congrArg List.length joined
  have trimming := Text.length_trimBlanks_le (item.toList ++ (between ++ item.toList))
  have written := length_le_length_escape letters
  have sameLength : letters.toList.length = between.length := List.Forall₂.length_eq spelled
  have longFirst := long first (by simp)
  have longLast := long last (by simp)
  simp only [List.length_append] at lengths trimming
  have untouched : Text.trimBlanks (item.toList ++ (between ++ item.toList)) =
      item.toList ++ (between ++ item.toList) :=
    Text.eq_of_length_trimBlanks (by simp only [List.length_append]; omega)
  rw [untouched] at joined
  obtain ⟨_, rest⟩ := List.append_inj joined (by omega)
  exact ⟨(List.append_inj rest (by omega)).1.symm, untouched⟩

/-- A separator of blanks only is one more piece between two items whenever it is written
twice. -/
theorem CutsIntoItems.visible (cuts : CutsIntoItems letters pattern)
    (listable : ListItem true letters pattern) (taken : takesWhole true pattern item = true)
    (nonempty : letters ≠ "") (verbatim : escape letters = letters)
    (untouched : Text.trimBlanks (item.toList ++ (letters.toList ++ item.toList)) =
      item.toList ++ (letters.toList ++ item.toList)) :
    ∃ sign ∈ letters.toList, Text.isBlank sign = false := by
  by_contra invisible
  have blanks : Text.AllBlank letters.toList := by
    intro sign member
    by_contra shown
    exact invisible ⟨sign, member, Bool.eq_false_iff.mpr shown⟩
  have some_ : letters.toList ≠ [] := by simpa using nonempty
  obtain ⟨sign, rest, head⟩ := List.exists_cons_of_ne_nil some_
  have member : sign ∈ letters.toList := head ▸ .head _
  have absent : sign ∉ item.toList := fun inItem => listable.apart item taken sign inItem member
  have filled : item.toList ≠ [] := by
    intro empty
    have ends := Text.unpadded_trimBlanks (item.toList ++ (letters.toList ++ item.toList))
    rw [untouched, empty, List.nil_append, List.append_nil] at ends
    exact some_ (ends.eq_nil blanks)
  have unpadded := listable.unpadded item taken
  have ends : Text.Unpadded (item.toList ++ (letters.toList ++ (letters.toList ++ item.toList))) := by
    have around := @Text.Unpadded.append _ (letters.toList ++ letters.toList) _ unpadded filled
      unpadded filled
    rwa [List.append_assoc] at around
  obtain ⟨count, _⟩ := cuts _ _
    (spelled_pair taken blanks (self_mem_spellings _) (List.forall_mem_nil _))
  rw [List.nil_append, itemTexts, trimmed, String.toList_ofList, String.toList_ofList,
    ends.trimBlanks_eq, verbatim, Text.pieces_append_separator member absent,
    Text.pieces_separator_append some_, Text.pieces_of_absent member absent] at count
  simp at count

/-- Where the texts of lists are cut into their items, the separator is the same escaped
and in any case, and trimming leaves it alone. -/
theorem CutsIntoItems.faithful (cuts : CutsIntoItems letters pattern)
    (listable : ListItem true letters pattern) (nonempty : letters ≠ "")
    (takes : ∃ item, takesWhole true pattern item = true) : Faithful letters pattern := by
  have lengths : ∃ length item, takesWhole true pattern item = true ∧ item.toList.length = length :=
    let ⟨item, taken⟩ := takes
    ⟨_, item, taken, rfl⟩
  classical
  obtain ⟨item, taken, least⟩ := Nat.find_spec lengths
  have shortest : ∀ other, takesWhole true pattern other = true →
      item.toList.length ≤ other.toList.length := by
    intro other ofOther
    rw [least]
    exact Nat.find_min' lengths ⟨other, ofOther, rfl⟩
  have tight := fun {between} => @CutsIntoItems.tight _ _ _ cuts taken shortest nonempty between
  obtain ⟨same, untouched⟩ := tight (self_mem_spellings letters.toList)
  have verbatim : escape letters = letters := (String.toList_injective same).symm
  refine ⟨verbatim, ?_, cuts.visible listable taken nonempty verbatim untouched, ?_⟩
  · intro char member other ofChar
    obtain ⟨before, after, split⟩ := List.append_of_mem member
    have spelled : before ++ other :: after ∈ spellings letters.toList := by
      rw [split]
      exact List.rel_append (self_mem_spellings before) (.cons ofChar (self_mem_spellings after))
    have written := (tight spelled).1
    rw [verbatim, split] at written
    exact (List.cons.inj (List.append_cancel_left written)).1
  · intro empty
    have none : item.toList = [] := List.length_eq_zero_iff.mp (Nat.le_zero.mp (shortest "" empty))
    rw [none, List.nil_append, List.append_nil] at untouched
    exact untouched ▸ Text.unpadded_trimBlanks letters.toList

end

/-- The pattern of one or more items with an escaped separator takes the lists with the
separator in any case, and what is decoded are the pieces at the escaped separator. The
pieces are the items of every such list, and the items with the separator between them
decode to their values, exactly if no item is taken at all or the separator is the same
escaped and in any case, has a sign that is no blank, and has no blanks at its ends where an
item may be empty. -/
theorem Settings.escapedSeparator_decode_iff {settings : Settings} {base many : FieldType}
    {letters pattern : String} (own : base.patternOr settings.defaultPattern = pattern)
    (escaped : settings.separator = escape letters) (nonempty : letters ≠ "")
    (derived : (settings.derive .oneOrMore base).value = many)
    (listable : ListItem true letters pattern) {acceptor : Acceptor}
    (compiled : Acceptor.compile (many.patternOr settings.defaultPattern) true = .ok acceptor) :
    (∀ text, takesWhole true (many.patternOr settings.defaultPattern) text = true ↔
      ∃ items, Spelled letters pattern items text) ∧
      (∀ text, (many.decode text).result =
        ((itemTexts settings.separator (trimmed text)).mapM fun piece =>
          (base.decode piece).result).map .array) ∧
      (CutsIntoItems letters pattern ∧
          (∀ items ≠ [], (∀ item ∈ items, takesWhole true pattern item = true) →
            (many.decode (letters.intercalate items)).result =
              (items.mapM fun item => (base.decode item).result).map .array) ↔
        ((∃ item, takesWhole true pattern item = true) → Faithful letters pattern)) := by
  have decodes : ∀ text, (many.decode text).result =
      ((itemTexts settings.separator (trimmed text)).mapM fun piece =>
        (base.decode piece).result).map .array := by
    intro text
    rw [decode_of_derive (by decide) derived]
    exact FieldType.result_decodeList rfl
  rw [patternOr_of_derive (by decide) derived, own, escaped] at compiled ⊢
  refine ⟨takesWhole_escaped_iff nonempty listable compiled, escaped ▸ decodes, ?_⟩
  constructor
  · exact fun promise => promise.1.faithful listable nonempty
  · intro faithful
    constructor
    · intro text items spelled
      rw [(faithful (spelled.exists_taken)).itemTexts_eq listable spelled]
      exact ⟨rfl, spelled.taken⟩
    · intro items some_ all
      have spelled : Spelled letters pattern items (letters.intercalate items) :=
        ⟨separated_intercalate some_, all⟩
      rw [decodes, escaped, (faithful spelled.exists_taken).itemTexts_eq listable spelled]

def Settings.separatedBy (letters : String) : Settings :=
  { standard with separator := escape letters }

/-- A semicolon has no meaning in patterns and no case, so it works, also with blanks. -/
theorem Settings.escapedSeparator_decode_padded :
    ∃ many acceptor, ((separatedBy " ; ").derive .oneOrMore (.number ⟨[]⟩)).value = many ∧
      ListItem true " ; " "\\d+" ∧
      Acceptor.compile (many.patternOr (separatedBy " ; ").defaultPattern) true = .ok acceptor ∧
      Faithful " ; " "\\d+" ∧ CutsIntoItems " ; " "\\d+" ∧
      (many.decode (" ; ".intercalate ["1", "22"])).result = .ok (.array [.int 1, .int 22]) := by
  have listable : ListItem true " ; " "\\d+" :=
    listItem_digits true (List.forall_mem_cons.mpr ⟨rfl,
      List.forall_mem_cons.mpr ⟨rfl, List.forall_mem_singleton.mpr rfl⟩⟩)
  obtain ⟨acceptor, compiled⟩ : ∃ acceptor, Acceptor.compile
      (((separatedBy " ; ").derive .oneOrMore (.number ⟨[]⟩)).value.patternOr
        (separatedBy " ; ").defaultPattern) true = .ok acceptor := ⟨_, rfl⟩
  have alone : ∀ char ∈ " ; ".toList, Text.caseVariants char = [] :=
    List.forall_mem_cons.mpr ⟨rfl,
      List.forall_mem_cons.mpr ⟨rfl, List.forall_mem_singleton.mpr rfl⟩⟩
  have faithful : Faithful " ; " "\\d+" := {
    verbatim := by decide +kernel
    caseless char member other same := by
      rw [SameLetter, alone char member] at same
      exact same.resolve_right List.not_mem_nil
    visible := ⟨';', by decide +kernel, by decide +kernel⟩
    clean empty := absurd empty (by decide +kernel) }
  obtain ⟨_, _, works⟩ := escapedSeparator_decode_iff rfl rfl (by decide) rfl listable compiled
  obtain ⟨cuts, decodes⟩ := works.mpr fun _ => faithful
  exact ⟨_, acceptor, rfl, listable, compiled, faithful, cuts,
    decodes ["1", "22"] (by decide) (by decide +kernel)⟩

/-- An escaped bar is a bar in the pattern, but the text is cut at a backslash with a bar. -/
theorem Settings.escaped_bar_leaves_list_whole :
    ∃ many, ((separatedBy "|").derive .oneOrMore (.number ⟨[]⟩)).value = many ∧
      ListItem true "|" "\\d+" ∧
      takesWhole true (many.patternOr (separatedBy "|").defaultPattern) "1|2" = true ∧
      itemTexts (separatedBy "|").separator (trimmed "1|2") = ["1|2"] ∧
      takesWhole true "\\d+" "1|2" = false ∧
      (many.decode "1|2").result = .error (.invalid "1|2" "invalid digit found in string") :=
  ⟨_, rfl, listItem_digits true (List.forall_mem_singleton.mpr rfl), by decide +kernel,
    by decide +kernel, by decide +kernel, rfl⟩

end TextSchema
