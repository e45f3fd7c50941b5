import TextSchema.FieldType.Enumeration
import TextSchema.Proofs.FieldType.EscapedSeparator
import TextSchema.Proofs.Text.SmallLetters

/-!
# Decoding names in any case

The pattern of an enumeration takes its names in any case, and a text that is no name is
looked up again in small letters. For names in small letters without signs that mean
something in patterns, a matched text is decoded exactly if it is a name in small letters.
That it always is fails only for names with a letter that has another small letter beside
it, as `s` has the long `ſ`.
-/

set_option autoImplicit false

namespace TextSchema

open Pattern
open List (Forall₂)

/-! ## The pattern of the names -/

namespace Pattern

def nameTree (name : String) : Tree :=
  .ofItems (name.toList.map Reader.plain)

def nameExpr (name : String) : Expr :=
  (name.toList.map Schema.letter).foldl .concat .empty

theorem stands_name (name : String) : (nameTree name).Stands (.initial true) (nameExpr name) := by
  apply Tree.stands_ofItems
  rw [List.forall₂_map_left_iff, List.forall₂_map_right_iff, List.forall₂_same]
  exact fun _ _ => rfl

theorem language_nameExpr (name : String) : (nameExpr name).language = spellings name.toList := by
  have letters : (name.toList.map Schema.letter).map Expr.language = name.toList.map caseForms := by
    rw [List.map_map]
    exact List.map_congr_left fun char _ => (denotes_caseForms char _ _ rfl).2
  rw [nameExpr, Expr.language_foldl_concat, letters, prod_caseForms]
  exact one_mul _

theorem looksAround_nameExpr (name : String) : (nameExpr name).looksAround = false := by
  rw [nameExpr, Expr.looksAround_foldl_concat]
  simp [Schema.letter, Expr.looksAround]

section

variable {names : List String}

/-- Each name becomes a branch of its own. -/
theorem Reader.feed_names {reader : Reader} (some_ : names ≠ [])
    (verbatim : ∀ name ∈ names, escape name = name) (ready : reader.Ready)
    (fresh : reader.items = []) :
    ∃ after : Reader, reader.feed ("|".intercalate names).toList = .ok after ∧ after.Ready ∧
      after.stack = reader.stack ∧
      after.body = .ofBranches (reader.branches.reverse ++ names.map nameTree) := by
  have feeds : ∀ {reader : Reader} {name : String}, reader.Ready → escape name = name →
      reader.feed name.toList = .ok (reader.withItems (name.toList.map plain)) := by
    intro reader name ready same
    have written := congrArg String.toList same
    rw [escape, String.toList_ofList] at written
    rw [← feed_escape ready name.toList, written]
  induction names generalizing reader with
  | nil => exact absurd rfl some_
  | cons name rest ih =>
      obtain ⟨here, later⟩ := List.forall_mem_cons.mp verbatim
      have ready' := ready.withItems (name.toList.map plain)
      cases rest with
      | nil =>
          refine ⟨_, String.intercalate_singleton ▸ feeds ready here, ready', rfl, ?_⟩
          simp [body, withItems, fresh, nameTree]
      | cons next rest =>
          obtain ⟨after, fed, readyAfter, stack, branches⟩ :=
            ih (List.cons_ne_nil _ _) later ready'.alternate rfl
          refine ⟨after, ?_, readyAfter, stack, ?_⟩
          · rw [String.intercalate_cons_cons, String.toList_append, String.toList_append,
              List.append_assoc, feed_append, feeds ready here]
            exact (feed_bar ready' _).trans fed
          · rw [branches]
            simp [alternate, withItems, fresh, nameTree]

theorem compile_names (some_ : names ≠ []) (verbatim : ∀ name ∈ names, escape name = name) :
    Acceptor.compile ("|".intercalate names) true =
      .ok ⟨"|".intercalate names, (Expr.choice (names.map nameExpr)).anchored⟩ := by
  obtain ⟨after, fed, ready, stack, body⟩ :=
    Reader.feed_names some_ verbatim Reader.wholeStart_ready rfl
  have branches : after.body = .ofBranches (names.map nameTree) := body
  have read : Reader.wholeStart.readOn (("|".intercalate names).toList ++ [')', '$']) =
      .ok (Reader.wholeTree after.body) := by
    rw [Reader.readOn, Reader.feed_append, fed]
    exact ready.readOn_end_eq stack
  have shallow : (Reader.wholeTree after.body).nesting ≤ nestingLimit := by
    have plain : ∀ name : String, ∀ tree ∈ name.toList.map Reader.plain, tree.nesting ≤ 0 := by
      intro name tree member
      obtain ⟨_, _, rfl⟩ := List.mem_map.mp member
      exact Nat.le_refl _
    have flat : (Tree.ofBranches (names.map nameTree)).nesting ≤ 1 + (1 + 0) := by
      apply Tree.nesting_ofBranches_le
      intro tree member
      obtain ⟨name, _, rfl⟩ := List.mem_map.mp member
      exact Tree.nesting_ofItems_le (plain name)
    rw [Reader.nesting_wholeTree, branches, nestingLimit]
    omega
  have lowered : after.body.alternatives (.initial true) =
      .ok (names.map nameExpr, .initial true) := by
    rw [branches]
    apply Tree.alternatives_ofBranches_eq (by simpa using some_)
    rw [List.forall₂_map_left_iff, List.forall₂_map_right_iff, List.forall₂_same]
    exact fun name _ => stands_name name
  refine compile_eq ?_ (toExpr_wholeTree_eq lowered)
  rw [Reader.read_wholeText, read]
  exact if_pos shallow

/-- Joined by bars, names without signs that mean something take themselves in any case. -/
theorem takesWhole_names_iff (some_ : names ≠ []) (verbatim : ∀ name ∈ names, escape name = name)
    (text : String) :
    takesWhole true ("|".intercalate names) text = true ↔
      ∃ name ∈ names, text.toList ∈ spellings name.toList := by
  have free : (Expr.choice (names.map nameExpr)).looksAround = false := by
    apply Expr.looksAround_choice
    intro branch member
    obtain ⟨name, _, rfl⟩ := List.mem_map.mp member
    exact looksAround_nameExpr name
  rw [takesWhole, compile_names some_ verbatim]
  change ((Expr.choice (names.map nameExpr)).anchored.search text.toList).isSome = true ↔ _
  rw [Expr.isSome_search_anchored_iff, Expr.exists_takesAll_iff free,
    Expr.mem_language_choice (by simpa using some_)]
  simp only [List.mem_map, exists_exists_and_eq_and, language_nameExpr]

end

end Pattern

/-! ## Looking names up in small letters -/

/-- The names that count as a name in small letters if case is ignored: the name itself, and
others if one of its letters has a twin. -/
def respellings (letters : List Char) : Language Char :=
  {word | Forall₂ (fun char low => low = char ∨ Text.SmallTwin char low) letters word}

theorem lowered_eq_self_iff {text : String} :
    lowered text = text ↔ ∀ char ∈ text.toList, Text.IsSmall char := by
  rw [← Text.toLower_eq_self_iff, ← String.toList_inj, lowered, String.toList_ofList]

section

variable {letters word : List Char}

theorem respelling_small (small : ∀ char ∈ letters, Text.IsSmall char)
    (respelling : word ∈ respellings letters) : ∀ low ∈ word, Text.IsSmall low := by
  induction respelling with
  | nil => exact List.forall_mem_nil _
  | cons form _ ih =>
      obtain ⟨here, later⟩ := List.forall_mem_cons.mp small
      refine List.forall_mem_cons.mpr ⟨?_, ih later⟩
      obtain rfl | twin := form
      · exact here
      · exact twin.2.2

theorem spelling_of_respelling (respelling : word ∈ respellings letters) :
    word ∈ spellings letters := by
  refine List.Forall₂.imp (fun _ _ form => ?_) respelling
  exact form.imp_right fun twin => twin.2.1

theorem eq_of_respelling (untwinned : ∀ char ∈ letters, ∀ other, ¬ Text.SmallTwin char other)
    (respelling : word ∈ respellings letters) : word = letters := by
  induction respelling with
  | nil => rfl
  | cons form _ ih =>
      obtain ⟨here, later⟩ := List.forall_mem_cons.mp untwinned
      rw [form.resolve_right (here _), ih later]

end

/-- What spells a name in small letters is, in small letters, a respelling of the name. -/
theorem lowered_spelling {name text : String} (small : lowered name = name)
    (spelled : text.toList ∈ spellings name.toList) :
    (lowered text).toList ∈ respellings name.toList ∧
      text.toList ∈ spellings (lowered text).toList := by
  rw [lowered, String.toList_ofList]
  exact Text.lowerFrom_forms (lowered_eq_self_iff.mp small) spelled []

/-- The names of a table are in small letters and have no sign that means something in
patterns. -/
structure PlainNames (names : List String) : Prop where
  small : ∀ name ∈ names, lowered name = name
  verbatim : ∀ name ∈ names, escape name = name

theorem PlainNames.ofList {entries : List (String × Value)}
    (plain : PlainNames (entries.map Prod.fst)) : PlainNames (OrderedTable.ofList entries).names where
  small name member := plain.small name (OrderedTable.mem_names_ofList.mp member)
  verbatim name member := plain.verbatim name (OrderedTable.mem_names_ofList.mp member)

namespace PlainNames

variable {table : OrderedTable Value} (plain : PlainNames table.names)

include plain

/-- The first look finds nothing that the second, in small letters, does not. -/
theorem result_lookUp (text : String) :
    (lookUp table text).result =
      match table.get? (lowered text) with
      | some value => .ok value
      | none => .error (.unknownKey text table.names) := by
  have second : (table.get? text).or (table.get? (lowered text)) = table.get? (lowered text) := by
    by_cases member : text ∈ table.names
    · rw [plain.small text member, Option.or_self]
    · rw [OrderedTable.get?_eq_none_iff.mpr member, Option.none_or]
  rw [lookUp, second]
  cases table.get? (lowered text) <;> rfl

theorem lookUp_spelled {name text : String} (member : name ∈ table.names)
    (spelled : text.toList ∈ spellings name.toList) :
    (∃ value, table.get? (lowered text) = some value ∧
      text.toList ∈ spellings (lowered text).toList ∧ (lookUp table text).result = .ok value) ∨
    ((lookUp table text).result = .error (.unknownKey text table.names) ∧
      lowered text ∉ table.names ∧
      ∀ name ∈ table.names, text.toList ∈ spellings name.toList →
        (lowered text).toList ∈ respellings name.toList) := by
  have decodes := plain.result_lookUp text
  cases found : table.get? (lowered text) with
  | some value =>
      rw [found] at decodes
      exact .inl ⟨value, rfl, (lowered_spelling (plain.small name member) spelled).2, decodes⟩
  | none =>
      rw [found] at decodes
      refine .inr ⟨decodes, OrderedTable.get?_eq_none_iff.mp found, ?_⟩
      intro other inTable ofOther
      exact (lowered_spelling (plain.small other inTable) ofOther).1

/-- Whatever spells a name in any case is found exactly if the names are closed under
respelling. -/
theorem lookUp_all_iff :
    (∀ text, (∃ name ∈ table.names, text.toList ∈ spellings name.toList) →
        ∃ value, (lookUp table text).result = .ok value) ↔
      ∀ name ∈ table.names, ∀ other : String,
        other.toList ∈ respellings name.toList → other ∈ table.names := by
  constructor
  · intro all name member other respelling
    have small := respelling_small (lowered_eq_self_iff.mp (plain.small name member)) respelling
    obtain ⟨value, decoded⟩ := all other ⟨name, member, spelling_of_respelling respelling⟩
    by_contra unknown
    have missed := plain.result_lookUp other
    rw [lowered_eq_self_iff.mpr small, OrderedTable.get?_eq_none_iff.mpr unknown] at missed
    cases missed.symm.trans decoded
  · intro closed text matched
    obtain ⟨name, member, spelled⟩ := matched
    have known := closed name member _ (lowered_spelling (plain.small name member) spelled).1
    obtain ⟨value, found⟩ := OrderedTable.exists_get?_of_mem known
    have decoded := plain.result_lookUp text
    rw [found] at decoded
    exact ⟨value, decoded⟩

end PlainNames

namespace FieldType

/-- An enumeration of names in small letters without signs that mean something in patterns
takes exactly its names in any case. A text that it takes decodes to the value of the text in
small letters, a name that the text spells in any case. If that is no name, the key is
unknown, and in each name that the text spells a letter has become another small letter of the
same kind. So all texts that are taken are decoded exactly if the names that are written with
such other letters are names too, in particular if no letter of a name has another small
letter beside it. -/
theorem result_decode_enumeration {entries : List (String × Value)} {table : OrderedTable Value}
    (listed : OrderedTable.ofList entries = table) (some_ : entries ≠ [])
    (plain : PlainNames (entries.map Prod.fst)) (origin : Origin) (default : String) :
    (∀ text, takesWhole true ((enumeration origin entries).patternOr default) text = true ↔
      ∃ name ∈ table.names, text.toList ∈ spellings name.toList) ∧
      (∀ text, takesWhole true ((enumeration origin entries).patternOr default) text = true →
        (∃ value, table.get? (lowered text) = some value ∧
          text.toList ∈ spellings (lowered text).toList ∧
          ((enumeration origin entries).decode text).result = .ok value) ∨
        (((enumeration origin entries).decode text).result =
            .error (.unknownKey text table.names) ∧
          lowered text ∉ table.names ∧
          ∀ name ∈ table.names, text.toList ∈ spellings name.toList →
            (lowered text).toList ∈ respellings name.toList)) ∧
      ((∀ text, takesWhole true ((enumeration origin entries).patternOr default) text = true →
          ∃ value, ((enumeration origin entries).decode text).result = .ok value) ↔
        ∀ name ∈ table.names, ∀ other : String,
          other.toList ∈ respellings name.toList → other ∈ table.names) ∧
      ((∀ name ∈ table.names, ∀ char ∈ name.toList, ∀ other, ¬ Text.SmallTwin char other) →
        ∀ text, takesWhole true ((enumeration origin entries).patternOr default) text = true →
          ∃ value, ((enumeration origin entries).decode text).result = .ok value) := by
  subst listed
  have ofTable := plain.ofList
  have taken : ∀ text, takesWhole true ((enumeration origin entries).patternOr default) text = true ↔
      ∃ name ∈ (OrderedTable.ofList entries).names, text.toList ∈ spellings name.toList := by
    refine takesWhole_names_iff ?_ ofTable.verbatim
    obtain ⟨first, rest, rfl⟩ := List.exists_cons_of_ne_nil some_
    exact List.ne_nil_of_mem (OrderedTable.mem_names_ofList.mpr (.head _))
  refine ⟨taken, ?_⟩
  simp only [taken]
  refine ⟨?_, ofTable.lookUp_all_iff, ?_⟩
  · intro text matched
    obtain ⟨name, member, spelled⟩ := matched
    exact ofTable.lookUp_spelled member spelled
  · intro untwinned
    refine ofTable.lookUp_all_iff.mpr ?_
    intro name member other respelling
    have same := eq_of_respelling (untwinned name member) respelling
    rwa [String.toList_injective same]

/-- The letters of these names have no other small letters beside them. -/
theorem result_decode_capitals :
    PlainNames ["on", "off"] ∧
      (∀ name ∈ ["on", "off"], ∀ char ∈ name.toList, ∀ other, ¬ Text.SmallTwin char other) ∧
      takesWhole true
        ((enumeration ⟨[]⟩ [("on", .bool true), ("off", .bool false)]).patternOr "") "oFF" = true ∧
      ((enumeration ⟨[]⟩ [("on", .bool true), ("off", .bool false)]).decode "oFF").result =
        .ok (.bool false) ∧
      ∀ text, takesWhole true
          ((enumeration ⟨[]⟩ [("on", .bool true), ("off", .bool false)]).patternOr "") text = true →
        ∃ value, ((enumeration ⟨[]⟩ [("on", .bool true), ("off", .bool false)]).decode text).result =
          .ok value := by
  have plain : PlainNames ["on", "off"] := ⟨by decide +kernel, by decide +kernel⟩
  have untwinned : ∀ name ∈ ["on", "off"], ∀ char ∈ name.toList, ∀ other,
      ¬ Text.SmallTwin char other := by
    have capitals : ["on", "off"].all (fun name => name.toList.all fun char =>
        (Text.caseVariants char).all fun other => !decide (Text.IsSmall other)) = true := by
      decide +kernel
    simp only [List.all_eq_true, Bool.not_eq_true', decide_eq_false_iff_not] at capitals
    intro name member char inName other twin
    exact capitals name member char inName other twin.2.1 twin.2.2
  obtain ⟨taken, _, _, decodes⟩ := @result_decode_enumeration
    [("on", .bool true), ("off", .bool false)] _ rfl (List.cons_ne_nil _ _) plain ⟨[]⟩ ""
  exact ⟨plain, untwinned, by decide +kernel, rfl, decodes untwinned⟩

/-- The long `ſ` is taken for an `s` in any case, but it is a small letter already. -/
theorem unknownKey_of_long_s :
    PlainNames ["s"] ∧
      takesWhole true ((enumeration ⟨[]⟩ [("s", .bool true)]).patternOr "") "ſ" = true ∧
      ((enumeration ⟨[]⟩ [("s", .bool true)]).decode "ſ").result =
        .error (.unknownKey "ſ" ["s"]) :=
  ⟨⟨by decide +kernel, by decide +kernel⟩, by decide +kernel, rfl⟩

end FieldType

end TextSchema
