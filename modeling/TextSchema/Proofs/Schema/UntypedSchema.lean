import TextSchema.Proofs.Schema.LeastCut

/-!
# Schemas without types

A schema whose fields have no types and distinct keys always compiles. It reads exactly
the texts that its segments can cut, and the values it reads are the pieces of the least
cut, under the keys of the fields in their order.
-/

set_option autoImplicit false

namespace TextSchema.Schema

open Pattern
open List (Forall₂)

/-- A field without a name is keyed by its position among the fields. -/
def slotKey (position : Nat) (slot : Field) : String :=
  if slot.name.isEmpty then toString position else slot.name

def slotKeys (schema : String) : List String :=
  (fieldsOf (segments schema)).mapIdx slotKey

/-- No field has a type, and every field has a key of its own. -/
structure Untyped (schema : String) : Prop where
  untyped : ∀ slot ∈ fieldsOf (segments schema), slot.isTyped = false
  nodup : (slotKeys schema).Nodup

/-! ## The pattern as text, as a tree and as an expression -/

def slotText : List Segment → List Char
  | [] => []
  | .literal written :: rest => (escape written).toList ++ slotText rest
  | .field _ :: rest => ('(' :: (Settings.anyText.toList ++ [')'])) ++ slotText rest

def anyTree : Tree := .repeated 1 none false .dot

/-- The items of the pattern, so many groups having been opened before them. -/
def slotTrees : Nat → List Segment → List Tree
  | _, [] => []
  | opened, .literal written :: rest => written.toList.map Reader.plain ++ slotTrees opened rest
  | opened, .field _ :: rest => .group (opened + 1) anyTree :: slotTrees (opened + 1) rest

theorem fragment_anyText : Reader.Fragment Settings.anyText.toList anyTree 0 [] :=
  ⟨_, rfl, rfl, rfl, rfl, rfl⟩

theorem feed_slotText (segments : List Segment) {reader : Reader} (ready : reader.Ready)
    (unnamed : reader.names = []) :
    ∃ after : Reader, reader.feed (slotText segments) = .ok after ∧ after.Ready ∧
      after.stack = reader.stack ∧ after.branches = reader.branches ∧
      after.items = (slotTrees reader.groups segments).reverse ++ reader.items := by
  induction segments generalizing reader with
  | nil => exact ⟨reader, rfl, ready, rfl, rfl, rfl⟩
  | cons segment rest ih =>
      cases segment with
      | literal written =>
          obtain ⟨after, fed, stands, stack, branches, items⟩ :=
            ih (ready.withItems (written.toList.map Reader.plain)) unnamed
          refine ⟨after, ?_, stands, stack, branches, ?_⟩
          · rw [slotText, escape, String.toList_ofList, Reader.feed_append, Reader.feed_escape ready]
            exact fed
          · rw [items, slotTrees, Reader.withItems, List.reverse_append, List.append_assoc]
      | field slot =>
          -- Reading a group can only fail where its names are taken, and it has none.
          have grouped : reader.feed ('(' :: (Settings.anyText.toList ++ [')'])) =
              .ok (reader.withGroup anyTree 0 []) := by
            rcases Reader.feed_group ready fragment_anyText with inside | ⟨_, named⟩
            · exact inside
            · exact absurd unnamed named
          obtain ⟨after, fed, stands, stack, branches, items⟩ :=
            @ih (reader.withGroup anyTree 0 []) ready.withGroup unnamed
          refine ⟨after, ?_, stands, stack, branches, ?_⟩
          · rw [slotText, Reader.feed_append, grouped]
            exact fed
          · rw [items, slotTrees, List.reverse_cons, List.append_assoc]
            rfl

theorem nesting_slotTrees (opened : Nat) (segments : List Segment) :
    ∀ tree ∈ slotTrees opened segments, tree.nesting ≤ 2 := by
  fun_induction slotTrees opened segments with
  | case1 => exact List.forall_mem_nil _
  | case2 opened written rest ih =>
      rw [List.forall_mem_append, List.forall_mem_map]
      exact ⟨fun _ _ => Nat.zero_le _, ih⟩
  | case3 opened slot rest ih => exact List.forall_mem_cons.mpr ⟨Nat.le_refl _, ih⟩

theorem read_slotText {pattern : String} {segments : List Segment}
    (written : pattern.toList = slotText segments) :
    Tree.read (wholeText pattern).toList =
      .ok (Reader.wholeTree (.ofItems (slotTrees 0 segments))) := by
  obtain ⟨after, fed, ready, stack, branches, items⟩ :=
    feed_slotText segments Reader.wholeStart_ready rfl
  have body : after.body = .ofItems (slotTrees 0 segments) := by
    rw [Reader.body, branches, items]
    simp [Reader.wholeStart, Tree.ofBranches]
  have whole : Reader.wholeStart.readOn (pattern.toList ++ [')', '$']) =
      .ok (Reader.wholeTree (.ofItems (slotTrees 0 segments))) := by
    rw [Reader.readOn, written, Reader.feed_append, fed, ← body]
    exact ready.readOn_end_eq stack
  have shallow : (Reader.wholeTree (.ofItems (slotTrees 0 segments))).nesting ≤ nestingLimit := by
    have ofItems := Tree.nesting_ofItems_le (nesting_slotTrees 0 segments)
    rw [Reader.nesting_wholeTree, nestingLimit]
    omega
  rw [Reader.read_wholeText, whole]
  exact if_pos shallow

theorem stands_slotTrees (opened : Nat) (segments : List Segment) :
    Forall₂ (Tree.Stands (.initial true)) (slotTrees opened segments)
      (slotExprs opened segments) := by
  fun_induction slotTrees opened segments with
  | case1 => exact .nil
  | case2 opened written rest ih =>
      have letters : Forall₂ (Tree.Stands (.initial true)) (written.toList.map Reader.plain)
          (written.toList.map letter) := by
        rw [List.forall₂_map_left_iff, List.forall₂_map_right_iff, List.forall₂_same]
        exact fun _ _ => rfl
      exact List.rel_append letters ih
  | case3 opened slot rest ih => exact .cons rfl ih

theorem forall_mem_slotExprs {property : Expr → Prop} (letters : ∀ char, property (letter char))
    (groups : ∀ index, property (.group index anyText)) (opened : Nat) (segments : List Segment) :
    ∀ expr ∈ slotExprs opened segments, property expr := by
  fun_induction slotExprs opened segments with
  | case1 => exact List.forall_mem_nil _
  | case2 opened written rest ih =>
      rw [List.forall_mem_append, List.forall_mem_map]
      exact ⟨fun char _ => letters char, ih⟩
  | case3 opened slot rest ih => exact List.forall_mem_cons.mpr ⟨groups _, ih⟩

theorem compile_slotText {pattern : String} {segments : List Segment}
    (written : pattern.toList = slotText segments) :
    Acceptor.compile pattern true =
      .ok ⟨pattern, ((slotExprs 0 segments).foldl Expr.concat .empty).anchored⟩ := by
  obtain ⟨branches, lowered, same⟩ := Tree.exists_alternatives_ofItems (stands_slotTrees 0 segments)
  rw [compile_eq (read_slotText written) (toExpr_wholeTree_eq lowered), same]

/-! ## Searching -/

theorem anchored_slotExprs (segments : List Segment) :
    ((slotExprs 0 segments).foldl Expr.concat .empty).anchored =
      .cat (.look .textStart) (untilEnd 0 segments) :=
  Expr.anchored_foldl_concat
    (forall_mem_slotExprs (fun _ => rfl) (fun _ => rfl) 0 segments)

theorem advances_untilEnd (opened : Nat) (segments : List Segment) :
    (untilEnd opened segments).advances = true := by
  refine Expr.advances_ofItems (List.forall_mem_append.mpr ⟨?_, ?_⟩)
  · exact forall_mem_slotExprs (fun _ => rfl) (fun _ => rfl) opened segments
  · exact List.forall_mem_singleton.mpr rfl

/-- The match that is found is the least cut. -/
theorem leastCut_of_search {segments : List Segment} {text : List Char} {found : Match}
    (success : ((slotExprs 0 segments).foldl Expr.concat .empty).anchored.search text = some found) :
    ∃ pieces, LeastCut segments pieces text ∧ found.marks = slotMarks 0 segments pieces 0 := by
  rw [Expr.search_anchored, anchored_slotExprs] at success
  have advances : (Expr.cat (.look .textStart) (untilEnd 0 segments)).advances = true :=
    Bool.and_eq_true_iff.mpr ⟨rfl, advances_untilEnd 0 segments⟩
  obtain ⟨_, first⟩ := First.of_look ((Expr.first_of_matchAt advances success).of_go rfl)
  obtain ⟨pieces, least, left⟩ := leastCut_of_first first
  exact ⟨pieces, least, left.trans (List.append_nil _)⟩

theorem isSome_search_of_cuts {segments : List Segment} {pieces : List (List Char)}
    {text : List Char} (cuts : Cuts segments pieces text) :
    (((slotExprs 0 segments).foldl Expr.concat .empty).anchored.search text).isSome = true := by
  have here : (Place.first text).rest = text := rfl
  obtain ⟨marks, stop, takes⟩ := cuts.takes here 0
  rw [Expr.search_anchored, anchored_slotExprs, Expr.isSome_matchAt_iff]
  exact ⟨_, stop, _, [], marks, ⟨rfl, rfl, rfl⟩, takes, rfl⟩

/-! ## Compiling -/

theorem typeNamesOf_untyped {slots : List Field} (untyped : ∀ slot ∈ slots, slot.isTyped = false) :
    typeNamesOf slots = .ok [] := by
  induction slots with
  | nil => rfl
  | cons slot rest ih =>
      obtain ⟨here, later⟩ := List.forall_mem_cons.mp untyped
      have plain : slot.format? = .ok none := by simp [Field.format?, here]
      rw [typeNamesOf, plain, ih later]
      rfl

/-- Where no field has a type, none is derived. -/
theorem createForSchema_untyped (settings : Settings) (table : TypeTable) {schema : String}
    (untyped : ∀ slot ∈ fieldsOf (segments schema), slot.isTyped = false) :
    (settings.createForSchema schema table).result = .ok .empty := by
  have names : typeNames schema = .ok [] := by
    rw [typeNames, fields, ← fieldsOf_segmentsFrom]
    exact typeNamesOf_untyped untyped
  rw [Settings.createForSchema, names]
  rfl

def slotField (position : Nat) (slot : Field) : BoundField :=
  ⟨slotKey position slot, position + 1, none⟩

theorem Draft.add_untyped (types : TypeTable) (draft : Draft) {slot : Field}
    (untyped : slot.isTyped = false) :
    draft.add types (.field slot) =
      .ok ⟨draft.pattern ++ ("(" ++ Settings.anyText ++ ")"),
        draft.boundFields ++ [⟨slotKey draft.boundFields.length slot, draft.nextGroup, none⟩],
        draft.nextGroup + 1⟩ := by
  have type : fieldType types slot = .ok none := by
    simp [fieldType, Field.format?, untyped]
    rfl
  simp only [Draft.add, type, groupPattern]
  rfl

theorem exists_draft_of_untyped (types : TypeTable) {segments : List Segment} {draft : Draft}
    (untyped : ∀ slot ∈ fieldsOf segments, slot.isTyped = false)
    (numbered : draft.nextGroup = draft.boundFields.length + 1) :
    ∃ result, segments.foldlM (Draft.add types) draft = .ok result ∧
      result.pattern.toList = draft.pattern.toList ++ slotText segments ∧
      result.boundFields = draft.boundFields ++
        (fieldsOf segments).mapIdx fun index => slotField (index + draft.boundFields.length) := by
  induction segments generalizing draft with
  | nil => exact ⟨draft, rfl, (List.append_nil _).symm, (List.append_nil _).symm⟩
  | cons segment rest ih =>
      cases segment with
      | literal written =>
          obtain ⟨result, success, pattern, fields⟩ :=
            @ih { draft with pattern := draft.pattern ++ escape written } untyped numbered
          refine ⟨result, success, ?_, fields⟩
          rw [pattern, slotText, String.toList_append, List.append_assoc]
      | field slot =>
          obtain ⟨here, later⟩ := List.forall_mem_cons.mp untyped
          have added := draft.add_untyped types here
          obtain ⟨result, success, pattern, fields⟩ := @ih
            ⟨draft.pattern ++ ("(" ++ Settings.anyText ++ ")"),
              draft.boundFields ++ [⟨slotKey draft.boundFields.length slot, draft.nextGroup, none⟩],
              draft.nextGroup + 1⟩
            later (by simp [numbered])
          refine ⟨result, ?_, ?_, ?_⟩
          · rw [List.foldlM_cons, added]
            exact success
          · rw [pattern, slotText]
            simp
          · rw [fields]
            simp [fieldsOf, Segment.field?, slotField, numbered, Nat.add_assoc, Nat.add_comm 1]

theorem exists_compiled_of_untyped (settings : Settings) (table : TypeTable) {schema : String}
    (untyped : ∀ slot ∈ fieldsOf (segments schema), slot.isTyped = false) :
    ∃ compiled, (compile settings schema table).result = .ok compiled ∧
      compiled.acceptor.expr =
        ((slotExprs 0 (segments schema)).foldl Expr.concat .empty).anchored ∧
      compiled.boundFields = (fieldsOf (segments schema)).mapIdx slotField := by
  obtain ⟨draft, drafted, pattern, fields⟩ :=
    @exists_draft_of_untyped (TypeTable.extend table .empty).value _ .empty untyped rfl
  have compiles := compile_slotText (pattern.trans (List.nil_append _))
  refine ⟨⟨⟨draft.pattern, _⟩, draft.boundFields⟩, ?_, rfl, fields⟩
  simp only [compile, Attempt.result_bind, createForSchema_untyped settings table untyped,
    Attempt.result_ofExcept, Building.result_ofDecode]
  change ((segments schema).foldlM (Draft.add (TypeTable.extend table .empty).value) .empty >>=
    fun _ => _) = _
  rw [drafted]
  change ((Acceptor.compile draft.pattern true).mapError BuildError.decode >>= fun _ => _) = _
  rw [compiles]
  rfl

/-! ## Reading -/

theorem decodeFields_untyped {text : String} {found : Match} {fields : List BoundField}
    {values : OrderedTable Value} (untyped : ∀ field ∈ fields, field.type = none)
    (fresh : (values.names ++ fields.map BoundField.key).Nodup) :
    ∃ result, (decodeFields text found values fields).result = .ok result ∧
      result.entries = values.entries ++
        fields.map fun field => (field.key, .string (captured text found field.group)) := by
  induction fields generalizing values with
  | nil => exact ⟨values, rfl, (List.append_nil _).symm⟩
  | cons field rest ih =>
      obtain ⟨here, later⟩ := List.forall_mem_cons.mp untyped
      have decoded : field.decode (captured text found field.group) =
          pure (.string (captured text found field.group)) := by
        rw [BoundField.decode, here]
      have absent : field.key ∉ values.names := by
        rw [List.map_cons, List.nodup_append] at fresh
        exact fun member => fresh.2.2 _ member _ (.head _) rfl
      have put : (values.put field.key (.string (captured text found field.group))).entries =
          values.entries ++ [(field.key, .string (captured text found field.group))] :=
        putEntry_of_fresh absent _
      have freshRest : ((values.put field.key (.string (captured text found field.group))).names ++
          rest.map BoundField.key).Nodup := by
        rw [OrderedTable.names_put, if_neg absent, List.append_assoc]
        exact fresh
      obtain ⟨result, success, entries⟩ := ih later freshRest
      refine ⟨result, ?_, ?_⟩
      · rw [decodeFields, decoded]
        exact success
      · rw [entries, put, List.append_assoc]
        rfl

/-- Fields are numbered as their groups are. -/
theorem map_slotField {slots : List Field} (value : Nat → Value) :
    (slots.mapIdx slotField).map (fun field => (field.key, value field.group)) =
      (slots.mapIdx slotKey).zip ((List.range' 1 slots.length).map value) := by
  apply List.ext_getElem
  · simp
  · simp [slotField, Nat.add_comm 1]

/-- What is decoded from a match: the pieces of the least cut under the keys of the fields. -/
theorem exists_values_of_search {segments : List Segment} {text : String} {found : Match}
    (success : ((slotExprs 0 segments).foldl Expr.concat .empty).anchored.search text.toList =
      some found)
    (nodup : ((fieldsOf segments).mapIdx slotKey).Nodup) :
    ∃ values pieces,
      (decodeFields text found .empty ((fieldsOf segments).mapIdx slotField)).result = .ok values ∧
      LeastCut segments pieces text.toList ∧
      values.entries = ((fieldsOf segments).mapIdx slotKey).zip
        (pieces.map fun piece => .string (String.ofList piece)) := by
  obtain ⟨pieces, least, left⟩ := leastCut_of_search success
  have untyped : ∀ field ∈ (fieldsOf segments).mapIdx slotField, field.type = none := by
    intro field member
    obtain ⟨index, inside, rfl⟩ := List.mem_mapIdx.mp member
    rfl
  have keys : ((fieldsOf segments).mapIdx slotField).map BoundField.key =
      (fieldsOf segments).mapIdx slotKey :=
    List.ext_getElem (by simp) (by simp [slotField])
  obtain ⟨values, decoded, entries⟩ :=
    @decodeFields_untyped text found _ .empty untyped (keys.symm ▸ nodup)
  have ofCaptured : (List.range' 1 pieces.length).map (captured text found) =
      pieces.map String.ofList :=
    @captured_of_cuts _ pieces [] _ text found [] 0 least.cuts rfl
      (left.trans (List.append_nil _).symm)
  have ofPieces : (List.range' 1 pieces.length).map
      (fun group => Value.string (captured text found group)) =
        pieces.map fun piece => .string (String.ofList piece) := by
    simpa [Function.comp_def] using congrArg (List.map Value.string) ofCaptured
  have mapped := @map_slotField (fieldsOf segments)
    fun group => .string (captured text found group)
  rw [← least.cuts.length_eq, ofPieces] at mapped
  exact ⟨values, pieces, decoded, least, entries.trans mapped⟩

/-- Reading with a compiled schema whose pattern is that of fields without types. -/
theorem read_slots {compiled : Schema} {segments : List Segment}
    (pattern : compiled.acceptor.expr =
      ((slotExprs 0 segments).foldl Expr.concat .empty).anchored)
    (fields : compiled.boundFields = (fieldsOf segments).mapIdx slotField)
    (nodup : ((fieldsOf segments).mapIdx slotKey).Nodup) (text : String) :
    ∃ outcome, (compiled.read text).result = .ok outcome ∧
      (outcome.isSome = true ↔ ∃ pieces, Cuts segments pieces text.toList) ∧
      ∀ values, outcome = some values →
        ∃ pieces, LeastCut segments pieces text.toList ∧
          values.entries = ((fieldsOf segments).mapIdx slotKey).zip
            (pieces.map fun piece => .string (String.ofList piece)) := by
  rw [read, Acceptor.find?, pattern, fields]
  cases search : ((slotExprs 0 segments).foldl Expr.concat .empty).anchored.search text.toList with
  | none =>
      refine ⟨none, rfl, ⟨?_, ?_⟩, ?_⟩
      · intro isSome
        cases isSome
      · rintro ⟨pieces, cuts⟩
        have found := isSome_search_of_cuts cuts
        rw [search] at found
        cases found
      · intro values same
        cases same
  | some found =>
      obtain ⟨values, pieces, decoded, least, entries⟩ := exists_values_of_search search nodup
      refine ⟨some values, ?_, ⟨fun _ => ⟨pieces, least.cuts⟩, fun _ => rfl⟩, ?_⟩
      · change (decodeFields _ _ _ _ >>= fun values => pure (some values)).result = _
        rw [Attempt.result_bind, decoded]
        rfl
      · rintro _ ⟨rfl⟩
        exact ⟨pieces, least, entries⟩

/-- Schemas without types compile, read exactly the texts that can be cut, and give the
least cut. -/
theorem read_untyped (settings : Settings) (table : TypeTable) {schema : String}
    (given : Untyped schema) :
    ∃ compiled, (compile settings schema table).result = .ok compiled ∧
      ∀ text : String, ∃ outcome, (compiled.read text).result = .ok outcome ∧
        (outcome.isSome = true ↔ ∃ pieces, Cuts (segments schema) pieces text.toList) ∧
        ∀ values, outcome = some values →
          ∃ pieces, LeastCut (segments schema) pieces text.toList ∧
            values.entries =
              (slotKeys schema).zip (pieces.map fun piece => .string (String.ofList piece)) := by
  obtain ⟨compiled, success, pattern, fields⟩ :=
    exists_compiled_of_untyped settings table given.untyped
  exact ⟨compiled, success, read_slots pattern fields given.nodup⟩

/-- Of the two cuts at a dash, the one with the shorter first piece is read. -/
theorem read_untyped_of_dashes :
    Untyped "\x7Ba\x7D-\x7B\x7D" ∧
      ∃ compiled values, (compile .standard "\x7Ba\x7D-\x7B\x7D" .empty).result = .ok compiled ∧
        (compiled.read "1-2-3").result = .ok (some values) ∧
        values.entries = [("a", .string "1"), ("1", .string "2-3")] := by
  have slots : segments "\x7Ba\x7D-\x7B\x7D" =
      [.field (.named "a"), .literal "-", .field (.named "")] := by decide +kernel
  have given : Untyped "\x7Ba\x7D-\x7B\x7D" := by
    constructor <;> decide +kernel
  have behind : LeastCut [.field (.named "")] [['2', '-', '3']] (['2', '-', '3'] ++ []) := by
    refine LeastCut.done.field (by decide) (by decide) fun other others rest whole _ further => ?_
    cases further
    rw [List.append_cancel_right whole]
  have dash : Forall₂ SameLetter "-".toList ['-'] := .cons (.inl rfl) .nil
  have known : LeastCut (segments "\x7Ba\x7D-\x7B\x7D") [['1'], ['2', '-', '3']]
      (['1'] ++ (['-'] ++ (['2', '-', '3'] ++ []))) := by
    rw [slots]
    exact (behind.literal dash).field (by decide) (by decide)
      fun other _ _ _ filled _ => List.length_pos_iff.mpr filled
  obtain ⟨compiled, success, reads⟩ := read_untyped .standard .empty given
  obtain ⟨outcome, result, matched, least⟩ := reads "1-2-3"
  obtain ⟨values, rfl⟩ := Option.isSome_iff_exists.mp (matched.mpr ⟨_, known.cuts⟩)
  obtain ⟨pieces, cut, entries⟩ := least values rfl
  obtain rfl := known.unique cut
  have keys : slotKeys "\x7Ba\x7D-\x7B\x7D" = ["a", "1"] := by decide +kernel
  exact ⟨given, compiled, values, success, result, entries.trans (by rw [keys]; rfl)⟩

end TextSchema.Schema
