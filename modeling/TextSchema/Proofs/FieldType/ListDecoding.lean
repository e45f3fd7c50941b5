import TextSchema.FieldType.Enumeration
import TextSchema.Proofs.FieldType.ListPattern

/-!
# Values of lists

A list is recognised twice: its pattern takes items with the separator between them, and
its decoding cuts the text at the separator and trims the pieces. Where no item has a
character of the separator or a blank at its ends, the pieces are the items.
-/

set_option autoImplicit false

namespace TextSchema

open Pattern

/-! ## Cutting -/

theorem trimmed_trimmed (text : String) : trimmed (trimmed text) = trimmed text := by
  have done := (Text.unpadded_trimBlanks text.toList).trimBlanks_eq
  rw [trimmed, trimmed, String.toList_ofList, done]

section

variable {separator : String} {items : List String}

/-- Cut at the separator and trimmed, a list is its items again. The separator may have
blanks, but not blanks only. -/
theorem Joined.trimmed_pieces {before text : List Char} (joined : Joined separator items text)
    (ofBefore : Text.AllBlank before)
    (visible : ∃ sign ∈ separator.toList, Text.isBlank sign = false)
    (apart : ∀ item ∈ items, ∀ char ∈ item.toList, char ∉ separator.toList)
    (unpadded : ∀ item ∈ items, Text.Unpadded item.toList) :
    (Text.pieces separator.toList (before ++ text)).map Text.trimBlanks =
      items.map String.toList := by
  obtain ⟨sign, member, shown⟩ := visible
  induction joined generalizing before with
  | @one item =>
      have absent : sign ∉ before ++ item.toList := by
        rw [List.mem_append, not_or]
        exact ⟨ofBefore.not_mem shown, fun inItem => apart item (.head _) sign inItem member⟩
      rw [Text.pieces_of_absent member absent, List.map_singleton, List.map_singleton,
        Text.trimBlanks_blanks_append ofBefore, (unpadded item (.head _)).trimBlanks_eq]
  | @more item items left right text ofLeft ofRight _ ih =>
      obtain ⟨apartItem, apartRest⟩ := List.forall_mem_cons.mp apart
      obtain ⟨unpaddedItem, unpaddedRest⟩ := List.forall_mem_cons.mp unpadded
      have absent : sign ∉ before ++ (item.toList ++ left) := by
        rw [List.mem_append, List.mem_append, not_or, not_or]
        exact ⟨ofBefore.not_mem shown, fun inItem => apartItem sign inItem member,
          ofLeft.not_mem shown⟩
      rw [← List.append_assoc item.toList, ← List.append_assoc before,
        Text.pieces_append_separator member absent, List.map_cons, List.map_cons,
        Text.trimBlanks_blanks_append ofBefore, Text.trimBlanks_append_blanks ofLeft,
        unpaddedItem.trimBlanks_eq, ih ofRight apartRest unpaddedRest]

theorem Joined.unpadded {text : List Char} (joined : Joined separator items text)
    (filled : ∀ item ∈ items, item ≠ "") (unpadded : ∀ item ∈ items, Text.Unpadded item.toList) :
    text ≠ [] ∧ Text.Unpadded text := by
  induction joined with
  | one => exact ⟨by simpa using filled, unpadded _ (.head _)⟩
  | @more item items left right text _ _ _ ih =>
      obtain ⟨filledItem, filledRest⟩ := List.forall_mem_cons.mp filled
      obtain ⟨unpaddedItem, unpaddedRest⟩ := List.forall_mem_cons.mp unpadded
      obtain ⟨someRest, rest⟩ := ih filledRest unpaddedRest
      refine ⟨by simp [someRest], ?_⟩
      have around := @Text.Unpadded.append _ (left ++ (separator.toList ++ right)) _ unpaddedItem
        (by simpa using filledItem) rest someRest
      simpa only [List.append_assoc] using around

/-- Trimming the text of a list first makes no difference, unless it takes away blanks of
the separator before or after an empty item. -/
theorem Joined.itemTexts_eq {text : String} (joined : Joined separator items text.toList)
    (visible : ∃ sign ∈ separator.toList, Text.isBlank sign = false)
    (apart : ∀ item ∈ items, ∀ char ∈ item.toList, char ∉ separator.toList)
    (unpadded : ∀ item ∈ items, Text.Unpadded item.toList)
    (clean : Text.Unpadded separator.toList ∨ ∀ item ∈ items, item ≠ "") :
    itemTexts separator (trimmed text) = items := by
  have cut : (Text.pieces separator.toList (Text.trimBlanks text.toList)).map Text.trimBlanks =
      items.map String.toList := by
    have untrimmed := joined.trimmed_pieces (List.forall_mem_nil _) visible apart unpadded
    rw [List.nil_append] at untrimmed
    obtain ⟨_, member, _⟩ := visible
    cases clean with
    | inl ends => rw [Text.trimmed_pieces_trimBlanks (List.ne_nil_of_mem member) ends, untrimmed]
    | inr filled => rw [(joined.unpadded filled unpadded).2.trimBlanks_eq, untrimmed]
  have texts := congrArg (List.map String.ofList) cut
  simpa [itemTexts, trimmed, List.map_map, Function.comp_def] using texts

end

theorem Joined.eq_nil {separator : String} {items : List String} {text : List Char}
    (joined : Joined separator items text)
    (visible : ∃ sign ∈ separator.toList, Text.isBlank sign = false)
    (unpadded : ∀ item ∈ items, Text.Unpadded item.toList) (blank : Text.AllBlank text) :
    text = [] := by
  obtain ⟨sign, member, shown⟩ := visible
  cases joined with
  | one => exact (unpadded _ (.head _)).eq_nil blank
  | more => exact absurd (by simp [member]) (blank.not_mem shown)

/-! ## Decoding -/

theorem result_decodeEach (decode : String → Decoding Value) (texts : List String) :
    (decodeEach decode texts).result = texts.mapM fun text => (decode text).result := by
  induction texts with
  | nil => rfl
  | cons text rest ih =>
      rw [decodeEach, List.mapM_cons, ← ih]
      simp only [Attempt.result_bind, Attempt.result_pure]
      rfl

theorem FieldType.result_decodeList {base : FieldType} {separator text : String}
    {allowEmpty : Bool} (shown : (allowEmpty && (trimmed text).isEmpty) = false) :
    (base.decodeList separator allowEmpty text).result =
      ((itemTexts separator (trimmed text)).mapM fun item => (base.decode item).result).map
        .array := by
  rw [decodeList, if_neg (Bool.eq_false_iff.mp shown), ← result_decodeEach]
  simp only [Attempt.result_bind, Attempt.result_pure]
  rfl

/-- Unless it is an empty list, a list decodes to the values of its items in order, or
fails as the first of them that does. -/
theorem Joined.result_decodeList {base : FieldType} {separator text : String}
    {items : List String} {allowEmpty : Bool} (joined : Joined separator items text.toList)
    (nonempty : separator ≠ "") (unblank : ∀ char ∈ separator.toList, Text.isBlank char = false)
    (apart : ∀ item ∈ items, ∀ char ∈ item.toList, char ∉ separator.toList)
    (unpadded : ∀ item ∈ items, Text.Unpadded item.toList)
    (filled : allowEmpty = true → text ≠ "") :
    (base.decodeList separator allowEmpty text).result =
      (items.mapM fun item => (base.decode item).result).map .array := by
  have clean := Text.unpadded_of_unblank unblank
  have visible := Text.exists_sign (by simpa using nonempty) clean
  have shown : (allowEmpty && (trimmed text).isEmpty) = false := by
    cases allowEmpty with
    | false => rfl
    | true =>
        apply Bool.eq_false_iff.mpr
        intro empty
        apply filled rfl
        have nothing : Text.trimBlanks text.toList = [] := by simpa [trimmed] using empty
        have none := joined.eq_nil visible unpadded (Text.allBlank_of_trimBlanks nothing)
        simpa using none
  rw [FieldType.result_decodeList shown, joined.itemTexts_eq visible apart unpadded (.inl clean)]

namespace Settings

variable {settings : Settings} {base list : FieldType} {cardinality : Cardinality}

theorem patternOr_of_derive (several : cardinality ≠ .one)
    (derived : (settings.derive cardinality base).value = list) (default : String) :
    list.patternOr default =
      cardinality.patternFor (base.patternOr settings.defaultPattern) settings.separator := by
  rw [← derived, value_derive several, FieldType.patternOr, repeatedType, Option.getD_some]

theorem decode_of_derive (several : cardinality ≠ .one)
    (derived : (settings.derive cardinality base).value = list) (text : String) :
    list.decode text = base.decodeRepeated settings.separator cardinality text := by
  rw [← derived, value_derive several, FieldType.decode, repeatedType]

end Settings

/-! ## Numbers -/

theorem Text.RangeTable.exists_of_contains {table : RangeTable} {code : Nat}
    (contained : table.contains code = true) :
    ∃ range ∈ table, range.1 ≤ code ∧ code ≤ range.2 := by
  induction table with
  | nil => cases contained
  | cons range rest ih =>
      rw [contains] at contained
      split at contained
      · cases contained
      · rename_i least
        cases Bool.or_eq_true_iff.mp contained with
        | inl within => exact ⟨range, .head _, Nat.not_lt.mp least, of_decide_eq_true within⟩
        | inr later =>
          obtain ⟨other, member, bounds⟩ := ih later
          exact ⟨other, .tail _ member, bounds⟩

theorem isBlank_of_isDigit {char : Char} (digit : Text.isDigit char = true) :
    Text.isBlank char = false := by
  apply Bool.eq_false_iff.mpr
  intro blank
  obtain ⟨digits, inDigits, _, _⟩ := Text.RangeTable.exists_of_contains digit
  obtain ⟨blanks, inBlanks, _, _⟩ := Text.RangeTable.exists_of_contains blank
  have disjoint : ∀ first ∈ Text.blankRanges, ∀ second ∈ Text.digitRanges,
      first.2 < second.1 ∨ second.2 < first.1 := by decide +kernel
  have apart := disjoint blanks inBlanks digits inDigits
  omega

theorem isDigit_of_takesWhole {caseless : Bool} {item : String}
    (taken : takesWhole caseless "\\d+" item = true) :
    item ≠ "" ∧ ∀ char ∈ item.toList, Text.isDigit char = true := by
  have compiled : Acceptor.compile "\\d+" caseless =
      .ok ⟨"\\d+", (Expr.repeated 1 none true (.set (.property .digit))).anchored⟩ := by
    cases caseless <;> rfl
  rw [takesWhole, compiled] at taken
  obtain ⟨marks, takes⟩ := Expr.isSome_search_anchored_iff.mp taken
  obtain ⟨parts, same, some_, _, all⟩ := (Expr.exists_takesAll_iff rfl).mp ⟨marks, takes⟩
  constructor
  · intro empty
    obtain ⟨part, inParts⟩ := List.exists_mem_of_length_pos some_
    obtain ⟨digit, rfl, _⟩ := all part inParts
    have nothing : parts.flatten = [] := by rw [← same, empty, String.toList_empty]
    cases List.flatten_eq_nil_iff.mp nothing [digit] inParts
  · intro char member
    rw [same] at member
    obtain ⟨part, inParts, inPart⟩ := List.mem_flatten.mp member
    obtain ⟨digit, rfl, isDigit⟩ := all part inParts
    rwa [List.mem_singleton.mp inPart]

theorem listItem_digits (caseless : Bool) {separator : String}
    (undigited : ∀ char ∈ separator.toList, Text.isDigit char = false) :
    ListItem caseless separator "\\d+" where
  counted := ⟨0, rfl⟩
  dense := rfl
  free := rfl
  apart item taken char member inSeparator := by
    have digit := (isDigit_of_takesWhole taken).2 char member
    rw [undigited char inSeparator] at digit
    cases digit
  unpadded item taken char atEnd := by
    have digits := (isDigit_of_takesWhole taken).2
    cases atEnd with
    | inl first => exact isBlank_of_isDigit (digits char (List.mem_of_mem_head? first))
    | inr last => exact isBlank_of_isDigit (digits char (List.mem_of_mem_getLast? last))

theorem listItem_number (caseless : Bool) : ListItem caseless "," "\\d+" :=
  listItem_digits caseless (List.forall_mem_singleton.mpr rfl)

theorem lists_numbers : Lists true "," "\\d+" ["1", "22"] "1 , 22" where
  joined := by
    have blank : Text.AllBlank [' '] := List.forall_mem_singleton.mpr rfl
    have joined : Joined "," ["1", "22"]
        ("1".toList ++ ([' '] ++ (",".toList ++ ([' '] ++ "22".toList)))) :=
      .more blank blank .one
    exact joined
  taken := by decide +kernel

theorem plainSeparator_default (caseless : Bool) :
    PlainSeparator caseless Cardinality.defaultSeparator where
  nonempty := by decide
  literal := rfl
  unblank := List.forall_mem_singleton.mpr rfl
  alone := fun _ => List.forall_mem_singleton.mpr rfl

/-! ## One item or more -/

/-- The pattern of one or more items takes exactly the lists of texts that the pattern of
an item takes, and each such list decodes to the values of its items in order, or fails
as the first of them that does. -/
theorem Settings.oneOrMore_decode {settings : Settings} {base list : FieldType} {caseless : Bool}
    {pattern : String} (own : base.patternOr settings.defaultPattern = pattern)
    (derived : (settings.derive .oneOrMore base).value = list)
    (plainly : PlainSeparator caseless settings.separator)
    (listable : ListItem caseless settings.separator pattern) {acceptor : Acceptor}
    (compiled : Acceptor.compile (list.patternOr settings.defaultPattern) caseless = .ok acceptor)
    (text : String) :
    (takesWhole caseless (list.patternOr settings.defaultPattern) text = true ↔
      ∃ items, Lists caseless settings.separator pattern items text) ∧
      ∀ items, Lists caseless settings.separator pattern items text →
        (list.decode text).result =
          (items.mapM fun item => (base.decode item).result).map .array := by
  rw [patternOr_of_derive (by decide) derived, own] at compiled ⊢
  rw [decode_of_derive (by decide) derived]
  constructor
  · exact takesWhole_oneOrMore_iff plainly listable compiled text
  · intro items lists
    exact lists.joined.result_decodeList plainly.nonempty plainly.unblank
      (fun item member => listable.apart item (lists.taken item member))
      (fun item member => listable.unpadded item (lists.taken item member))
      (fun allowed => by cases allowed)

/-- Two numbers with blanks around the separator. -/
theorem Settings.oneOrMore_decode_numbers :
    ∃ list acceptor, (standard.derive .oneOrMore (.number ⟨[]⟩)).value = list ∧
      PlainSeparator true standard.separator ∧ ListItem true standard.separator "\\d+" ∧
      Acceptor.compile (list.patternOr standard.defaultPattern) true = .ok acceptor ∧
      takesWhole true (list.patternOr standard.defaultPattern) "1 , 22" = true ∧
      (list.decode "1 , 22").result = .ok (.array [.int 1, .int 22]) := by
  obtain ⟨acceptor, compiled⟩ : ∃ acceptor, Acceptor.compile
      ((standard.derive .oneOrMore (.number ⟨[]⟩)).value.patternOr standard.defaultPattern) true =
        .ok acceptor := ⟨_, rfl⟩
  obtain ⟨takes, decodes⟩ := oneOrMore_decode rfl rfl (plainSeparator_default true)
    (listItem_number true) compiled "1 , 22"
  exact ⟨_, acceptor, rfl, plainSeparator_default true, listItem_number true, compiled,
    takes.mpr ⟨_, lists_numbers⟩, decodes _ lists_numbers⟩

/-! ## Any number of items -/

/-- Further items without a first one are a list whose first item is the empty text. -/
theorem Joined.headless {separator : String} {items : List String} {left right text : List Char}
    (joined : Joined separator items text) (ofLeft : Text.AllBlank left)
    (ofRight : Text.AllBlank right) :
    Joined separator ("" :: items) (left ++ (separator.toList ++ (right ++ text))) :=
  .more ofLeft ofRight joined

theorem Joined.ne_nil {separator : String} {items : List String} {text : List Char}
    (joined : Joined separator items text) : items ≠ [] := by
  cases joined <;> exact List.cons_ne_nil _ _

theorem Found.cases {separator : String} (nonempty : separator ≠ "") {items : List String}
    {text : String} (found : Found separator items text.toList) :
    text = "" ∨ Joined separator items text.toList ∨
      (Joined separator ("" :: items) text.toList ∧ text ≠ "") := by
  generalize same : text.toList = chars at found ⊢
  cases found with
  | none => exact .inl (by simpa using same)
  | headed joined => exact .inr (.inl joined)
  | headless ofLeft ofRight joined =>
      refine .inr (.inr ⟨joined.headless ofLeft ofRight, fun empty => ?_⟩)
      rw [empty] at same
      simp [nonempty] at same

theorem Joined.result_decodeList_of_taken {caseless : Bool} {separator pattern text : String}
    {items : List String} (joined : Joined separator items text.toList)
    (plainly : PlainSeparator caseless separator) (listable : ListItem caseless separator pattern)
    (base : FieldType) (filled : text ≠ "")
    (all : ∀ item ∈ items, item = "" ∨ takesWhole caseless pattern item = true) :
    (base.decodeList separator true text).result =
      (items.mapM fun item => (base.decode item).result).map .array := by
  refine joined.result_decodeList plainly.nonempty plainly.unblank ?_ ?_ fun _ => filled
  · intro item member
    cases all item member with
    | inl same =>
      subst same
      exact List.forall_mem_nil _
    | inr taken => exact listable.apart item taken
  · intro item member
    cases all item member with
    | inl same =>
      subst same
      exact Text.unpadded_nil
    | inr taken => exact listable.unpadded item taken

/-- A possibly empty list decodes to one value for each item that its pattern found exactly
if it is the empty text or has a first item. Any other text that the pattern takes begins
with a separator, and then the empty text is decoded as the first item. -/
theorem Settings.zeroOrMore_decode_iff {settings : Settings} {base list : FieldType}
    {caseless : Bool} {pattern : String} (own : base.patternOr settings.defaultPattern = pattern)
    (derived : (settings.derive .zeroOrMore base).value = list)
    (separated : settings.separator = Cardinality.defaultSeparator)
    (listable : ListItem caseless settings.separator pattern)
    (succeeds : ∀ item, takesWhole caseless pattern item = true →
      ∃ value, (base.decode item).result = .ok value)
    {text : String}
    (accepted : takesWhole caseless (list.patternOr settings.defaultPattern) text = true) :
    ((∃ items values, Found settings.separator items text.toList ∧
        (∀ item ∈ items, takesWhole caseless pattern item = true) ∧
        (list.decode text).result = .ok (.array values) ∧
        values.length = items.length ∧ (values = [] ↔ text = "")) ↔
      text = "" ∨ ∃ items, Lists caseless settings.separator pattern items text) ∧
      (¬ (text = "" ∨ ∃ items, Lists caseless settings.separator pattern items text) →
        ∃ items, Joined settings.separator ("" :: items) text.toList ∧
          (∀ item ∈ items, takesWhole caseless pattern item = true) ∧
          (list.decode text).result =
            (("" :: items).mapM fun item => (base.decode item).result).map .array) := by
  have plainly : PlainSeparator caseless settings.separator :=
    separated ▸ plainSeparator_default caseless
  rw [patternOr_of_derive (by decide) derived, own] at accepted
  rw [decode_of_derive (by decide) derived, FieldType.decodeRepeated]
  constructor
  · constructor
    · intro found
      obtain ⟨items, values, found, all, success, length, _⟩ := found
      rcases found.cases plainly.nonempty with empty | joined | ⟨headless, filled⟩
      · exact .inl empty
      · exact .inr ⟨items, joined, all⟩
      · have same := headless.result_decodeList_of_taken plainly listable base filled
          (List.forall_mem_cons.mpr ⟨.inl rfl, fun item member => .inr (all item member)⟩)
        rw [success] at same
        obtain ⟨others, decoded, same⟩ := exists_of_map_ok same.symm
        cases same
        have longer := length_of_mapM_ok decoded
        rw [length] at longer
        exact absurd longer (Nat.ne_of_lt (Nat.lt_succ_self _))
    · intro listed
      by_cases filled : text = ""
      · subst filled
        exact ⟨[], [], .none, List.forall_mem_nil _, rfl, rfl, Iff.intro (fun _ => rfl) fun _ => rfl⟩
      · obtain ⟨items, joined, all⟩ := listed.resolve_left filled
        obtain ⟨values, decoded⟩ := exists_mapM_ok fun item member => succeeds item (all item member)
        have length := length_of_mapM_ok decoded
        refine ⟨items, values, .headed joined, all, ?_, length, ?_⟩
        · rw [joined.result_decodeList_of_taken plainly listable base filled
            fun item member => .inr (all item member), decoded]
          rfl
        · constructor
          · intro none
            rw [none] at length
            exact absurd (List.length_eq_zero_iff.mp length.symm) joined.ne_nil
          · exact fun empty => absurd empty filled
  · intro bare
    obtain ⟨filled, unlisted⟩ := not_or.mp bare
    obtain ⟨items, found, all⟩ := exists_found_of_takesWhole plainly listable accepted
    rcases found.cases plainly.nonempty with empty | joined | ⟨headless, _⟩
    · exact absurd empty filled
    · exact absurd ⟨items, joined, all⟩ unlisted
    · exact ⟨items, headless, all, headless.result_decodeList_of_taken plainly listable base filled
        (List.forall_mem_cons.mpr ⟨.inl rfl, fun item member => .inr (all item member)⟩)⟩

def FieldType.ofDigits : FieldType :=
  .plain (some "\\d+") ⟨⟨["number"]⟩, fun text =>
    if text.isEmpty then throw (.invalid text "no digits") else pure (.string text)⟩

theorem ofDigits_decodes {caseless : Bool} {item : String}
    (taken : takesWhole caseless "\\d+" item = true) :
    ∃ value, (FieldType.ofDigits.decode item).result = .ok value := by
  have filled : ¬ item.isEmpty = true := by
    simpa using (isDigit_of_takesWhole taken).1
  refine ⟨.string item, ?_⟩
  change Attempt.result (if item.isEmpty = true then _ else _) = _
  rw [if_neg filled]
  rfl

/-- Two numbers, each with a value. -/
theorem Settings.zeroOrMore_decode_numbers :
    ∃ list, (standard.derive .zeroOrMore .ofDigits).value = list ∧
      ListItem true standard.separator "\\d+" ∧
      (∀ item, takesWhole true "\\d+" item = true →
        ∃ value, (FieldType.ofDigits.decode item).result = .ok value) ∧
      takesWhole true (list.patternOr standard.defaultPattern) "1 , 22" = true ∧
      ∃ items values, Found standard.separator items "1 , 22".toList ∧
        (∀ item ∈ items, takesWhole true "\\d+" item = true) ∧
        (list.decode "1 , 22").result = .ok (.array values) ∧
        values.length = items.length ∧ (values = [] ↔ "1 , 22" = "") := by
  have accepted : takesWhole true ((standard.derive .zeroOrMore .ofDigits).value.patternOr
      standard.defaultPattern) "1 , 22" = true := by decide +kernel
  refine ⟨_, rfl, listItem_number true, fun _ => ofDigits_decodes, accepted, ?_⟩
  exact (zeroOrMore_decode_iff rfl rfl rfl (listItem_number true) (fun _ => ofDigits_decodes)
    accepted).1.mpr (.inr ⟨_, lists_numbers⟩)

/-- A list that begins with a separator is taken, but the empty text before the separator is
decoded as a number, which it is not. -/
theorem Settings.zeroOrMore_refuses_first_separator :
    ∃ list, (standard.derive .zeroOrMore .ofDigits).value = list ∧
      ListItem true standard.separator "\\d+" ∧
      (∀ item, takesWhole true "\\d+" item = true →
        ∃ value, (FieldType.ofDigits.decode item).result = .ok value) ∧
      takesWhole true (list.patternOr standard.defaultPattern) ",5" = true ∧
      (list.decode ",5").result = .error (.invalid "" "no digits") :=
  ⟨_, rfl, listItem_number true, fun _ => ofDigits_decodes, by decide +kernel, rfl⟩

end TextSchema
