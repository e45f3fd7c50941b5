import TextSchema.Proofs.Decimal.IntegerText
import TextSchema.Proofs.OrderedTable
import TextSchema.Proofs.Schema.Refusal
import TextSchema.Proofs.Schema.UntypedSchema

/-!
# Keys of fields

Reading a text puts the value of each field under its key, a name or the position of a field
without one. Positions and names are not kept apart: a field can have the position of another
as its name, and then the value of the first of the two is lost.
-/

set_option autoImplicit false

namespace TextSchema.Schema

open List (Forall₂)

/-! ## Keys -/

/-- Fields with names have different names. -/
def DistinctNames (schema : String) : Prop :=
  (fieldsOf (segments schema)).Pairwise fun (slot other : Field) =>
    slot.name ≠ "" → slot.name ≠ other.name

instance (schema : String) : Decidable (DistinctNames schema) :=
  inferInstanceAs (Decidable (List.Pairwise _ _))

/-- No field has the position of a field without name as its name. -/
def PositionsFree (schema : String) : Prop :=
  ∀ (position : Nat) (slot : Field), (fieldsOf (segments schema))[position]? = some slot →
    slot.name = "" → ∀ other ∈ fieldsOf (segments schema), other.name ≠ toString position

theorem toString_position_ne_empty (position : Nat) : toString position ≠ "" :=
  Nat.toString_eq_repr ▸ Nat.repr_ne_empty

theorem slotKey_unnamed (position : Nat) {slot : Field} (unnamed : slot.name = "") :
    slotKey position slot = toString position := by
  simp [slotKey, unnamed]

theorem slotKey_named (position : Nat) {slot : Field} (named : slot.name ≠ "") :
    slotKey position slot = slot.name := by
  simp [slotKey, named]

/-- When two keys are the same. -/
theorem cases_of_slotKey_eq {first second : Nat} {slot other : Field}
    (same : slotKey first slot = slotKey second other) :
    (slot.name = "" ∧ other.name = toString first) ∨
      (other.name = "" ∧ slot.name = toString second) ∨
      (slot.name ≠ "" ∧ slot.name = other.name) ∨ first = second := by
  by_cases unnamed : slot.name = ""
  · by_cases otherUnnamed : other.name = ""
    · rw [slotKey_unnamed first unnamed, slotKey_unnamed second otherUnnamed] at same
      exact .inr (.inr (.inr (Decimal.toString_nat_inj.mp same)))
    · rw [slotKey_unnamed first unnamed, slotKey_named second otherUnnamed] at same
      exact .inl ⟨unnamed, same.symm⟩
  · rw [slotKey_named first unnamed] at same
    by_cases otherUnnamed : other.name = ""
    · rw [slotKey_unnamed second otherUnnamed] at same
      exact .inr (.inl ⟨otherUnnamed, same⟩)
    · rw [slotKey_named second otherUnnamed] at same
      exact .inr (.inr (.inl ⟨unnamed, same⟩))

theorem slotKeys_nodup_iff {schema : String} (distinct : DistinctNames schema) :
    (slotKeys schema).Nodup ↔ PositionsFree schema := by
  have size : (slotKeys schema).length = (fieldsOf (segments schema)).length := List.length_mapIdx
  constructor
  · intro nodup position slot at_ unnamed other member same
    obtain ⟨inside, here⟩ := List.getElem?_eq_some_iff.mp at_
    obtain ⟨index, within, there⟩ := List.getElem_of_mem member
    have named : other.name ≠ "" := same ▸ toString_position_ne_empty position
    have keys : (slotKeys schema)[position] = (slotKeys schema)[index] := by
      simp only [slotKeys, List.getElem_mapIdx, here, there, slotKey_unnamed position unnamed,
        slotKey_named index named, same]
    obtain rfl : position = index := nodup.getElem_inj_iff.mp keys
    exact named (there.symm.trans here ▸ unnamed)
  · intro free
    refine List.pairwise_iff_getElem.mpr fun first second inside within before same => ?_
    have inFields := size ▸ inside
    have inFields' := size ▸ within
    simp only [slotKeys, List.getElem_mapIdx] at same
    rcases cases_of_slotKey_eq same with ⟨unnamed, taken⟩ | ⟨unnamed, taken⟩ | ⟨named, equal⟩ | rfl
    · exact free first _ (List.getElem?_eq_getElem inFields) unnamed _
        (List.getElem_mem inFields') taken
    · exact free second _ (List.getElem?_eq_getElem inFields') unnamed _
        (List.getElem_mem inFields) taken
    · exact List.pairwise_iff_getElem.mp distinct first second inFields inFields' before named equal
    · exact Nat.lt_irrefl _ before

/-! ## Compiled fields -/

/-- A compiled field has the key and the type of the field of the schema at a position. -/
structure Binds (types : TypeTable) (slot : Field × Nat) (field : BoundField) : Prop where
  key_eq : field.key = slotKey slot.2 slot.1
  typed : fieldType types slot.1 = .ok field.type

theorem Draft.binds_of_add {types : TypeTable} {draft next : Draft} {slot : Field}
    (success : draft.add types (.field slot) = .ok next) :
    ∃ field, Binds types (slot, draft.boundFields.length) field ∧
      next.boundFields = draft.boundFields ++ [field] := by
  obtain ⟨type, typed, counting⟩ := exists_of_bind_ok success
  obtain ⟨_, _, same⟩ := exists_of_bind_ok counting
  cases same
  exact ⟨⟨_, draft.nextGroup, type⟩, ⟨rfl, typed⟩, rfl⟩

theorem binds_of_foldlM {types : TypeTable} {segments : List Segment} {draft result : Draft}
    (success : segments.foldlM (Draft.add types) draft = .ok result) :
    ∃ fields, result.boundFields = draft.boundFields ++ fields ∧
      Forall₂ (Binds types) ((fieldsOf segments).zipIdx draft.boundFields.length) fields := by
  induction segments generalizing draft with
  | nil =>
      cases success
      exact ⟨[], (List.append_nil _).symm, .nil⟩
  | cons segment rest ih =>
      obtain ⟨between, added, further⟩ := exists_of_bind_ok success
      obtain ⟨fields, same, binds⟩ := ih further
      cases segment with
      | literal written =>
          cases added
          exact ⟨fields, same, binds⟩
      | field slot =>
          obtain ⟨field, here, one⟩ := Draft.binds_of_add added
          refine ⟨field :: fields, ?_, .cons here ?_⟩
          · simp only [same, one, List.append_assoc, List.singleton_append]
          · rwa [one, List.length_append, List.length_singleton] at binds

theorem binds_of_compile {settings : Settings} {schema : String} {table : TypeTable}
    {compiled : Schema} (success : (compile settings schema table).result = .ok compiled) :
    ∃ created, (settings.createForSchema schema table).result = .ok created ∧
      Forall₂ (Binds (TypeTable.extend table created).value)
        (fieldsOf (segments schema)).zipIdx compiled.boundFields := by
  obtain ⟨created, creates, further⟩ :=
    exists_of_bind_ok ((result_compile settings schema table).symm.trans success)
  obtain ⟨draft, assembles, last⟩ := exists_of_bind_ok further
  obtain ⟨acceptor, _, same⟩ := exists_of_bind_ok last
  obtain ⟨fields, ofDraft, binds⟩ := binds_of_foldlM assembles
  cases same
  exact ⟨created, creates, ofDraft ▸ binds⟩

theorem keys_of_binds {types : TypeTable} {schema : String} {fields : List BoundField}
    (binds : Forall₂ (Binds types) (fieldsOf (segments schema)).zipIdx fields) :
    fields.map BoundField.key = slotKeys schema := by
  have keys : Forall₂ (· = ·)
      ((fieldsOf (segments schema)).zipIdx.map fun slot => slotKey slot.2 slot.1)
      (fields.map BoundField.key) :=
    List.forall₂_map_left_iff.mpr (List.forall₂_map_right_iff.mpr
      (binds.imp fun _ _ bound => bound.key_eq.symm))
  rw [List.forall₂_eq_eq_eq] at keys
  exact keys.symm.trans List.mapIdx_eq_zipIdx_map.symm

/-! ## Reading -/

/-- The fields are decoded in their order, and each value is put under the key of its field. -/
theorem decodeFields_ok {text : String} {found : Pattern.Match} {fields : List BoundField}
    {values result : OrderedTable Value}
    (success : (decodeFields text found values fields).result = .ok result) :
    ∃ decoded, Forall₂ (fun (field : BoundField) value =>
        (field.decode (captured text found field.group)).result = .ok value) fields decoded ∧
      result = ((fields.map BoundField.key).zip decoded).foldl
        (fun table entry => table.put entry.1 entry.2) values := by
  induction fields generalizing values with
  | nil =>
      cases success
      exact ⟨[], .nil, rfl⟩
  | cons field rest ih =>
      simp only [decodeFields, Attempt.result_bind] at success
      obtain ⟨value, here, further⟩ := exists_of_bind_ok success
      obtain ⟨decoded, later, same⟩ := ih further
      exact ⟨value :: decoded, .cons here later, same⟩

theorem read_some {compiled : Schema} {text : String} {values : OrderedTable Value}
    (success : (compiled.read text).result = .ok (some values)) :
    ∃ found, compiled.acceptor.find? text = some found ∧
      (decodeFields text found .empty compiled.boundFields).result = .ok values := by
  unfold read at success
  cases accepted : compiled.acceptor.find? text with
  | none =>
      rw [accepted] at success
      cases success
  | some found =>
      simp only [accepted, Attempt.result_bind] at success
      obtain ⟨result, decodes, same⟩ := exists_of_bind_ok success
      cases same
      exact ⟨found, rfl, decodes⟩

theorem entries_eq_iff_nodup {values : OrderedTable Value} {keys : List String}
    {decoded : List Value} (length : keys.length = decoded.length)
    (put : values =
      (keys.zip decoded).foldl (fun table entry => table.put entry.1 entry.2) .empty) :
    values.entries = keys.zip decoded ↔ keys.Nodup := by
  have names : (keys.zip decoded).map Prod.fst = keys := List.map_fst_zip (Nat.le_of_eq length)
  constructor
  · intro same
    have nodup := values.nodup
    rwa [same, names] at nodup
  · intro nodup
    exact put ▸ OrderedTable.entries_foldl_put (names.symm ▸ nodup) fun _ _ => List.not_mem_nil

/-- What is read from a text: the fields are decoded in their order, and the table holds their
values under their keys, under each key the last one. It has an entry for each field in
order exactly if no name is the position of a field without a name. -/
theorem entries_read_iff {settings : Settings} {schema : String} {table : TypeTable}
    {compiled : Schema} (success : (compile settings schema table).result = .ok compiled)
    (distinct : DistinctNames schema) {text : String} {values : OrderedTable Value}
    (read : (compiled.read text).result = .ok (some values)) :
    ∃ created found decoded,
      (settings.createForSchema schema table).result = .ok created ∧
      compiled.acceptor.find? text = some found ∧
      Forall₂ (Binds (TypeTable.extend table created).value)
        (fieldsOf (segments schema)).zipIdx compiled.boundFields ∧
      Forall₂ (fun (field : BoundField) value =>
        (field.decode (captured text found field.group)).result = .ok value)
        compiled.boundFields decoded ∧
      values.Holds ((slotKeys schema).zip decoded) ∧
      (values.entries = (slotKeys schema).zip decoded ↔ PositionsFree schema) := by
  obtain ⟨created, creates, binds⟩ := binds_of_compile success
  obtain ⟨found, accepted, decodes⟩ := read_some read
  obtain ⟨decoded, all, same⟩ := decodeFields_ok decodes
  rw [keys_of_binds binds] at same
  have length : (slotKeys schema).length = decoded.length := by
    calc (slotKeys schema).length = (compiled.boundFields.map BoundField.key).length :=
          congrArg List.length (keys_of_binds binds).symm
      _ = decoded.length := by rw [List.length_map, all.length_eq]
  refine ⟨created, found, decoded, creates, accepted, binds, all, ?_, ?_⟩
  · exact same ▸ OrderedTable.holds_empty.foldl_put _
  · exact (entries_eq_iff_nodup length same).trans (slotKeys_nodup_iff distinct)

/-- Fields without names before and after one with a name that is no position. -/
theorem entries_read_of_name :
    ∃ (compiled : Schema) (values : OrderedTable Value),
      (compile .standard "{} {name} = {:Number}" (.basic ⟨[]⟩)).result = .ok compiled ∧
      DistinctNames "{} {name} = {:Number}" ∧ PositionsFree "{} {name} = {:Number}" ∧
      (compiled.read "key size = 7").result = .ok (some values) ∧
      values.entries = [("0", .string "key"), ("name", .string "size"), ("2", .int 7)] ∧
      ∃ decoded, values.entries = (slotKeys "{} {name} = {:Number}").zip decoded := by
  have distinct : DistinctNames "{} {name} = {:Number}" := by decide +kernel
  have nodup : (slotKeys "{} {name} = {:Number}").Nodup := by decide +kernel
  have free := (slotKeys_nodup_iff distinct).mp nodup
  obtain ⟨compiled, values, success, read, same⟩ :
      ∃ (compiled : Schema) (values : OrderedTable Value),
        (compile .standard "{} {name} = {:Number}" (.basic ⟨[]⟩)).result = .ok compiled ∧
        (compiled.read "key size = 7").result = .ok (some values) ∧
        values.entries = [("0", .string "key"), ("name", .string "size"), ("2", .int 7)] :=
    ⟨_, _, rfl, rfl, rfl⟩
  obtain ⟨_, _, decoded, _, _, _, _, _, entries⟩ := entries_read_iff success distinct read
  exact ⟨compiled, values, success, distinct, free, read, same, decoded, entries.mpr free⟩

/-- A field without a name comes second, and the first one has its position as its name. -/
theorem entries_read_of_position :
    ∃ (compiled : Schema) (values : OrderedTable Value),
      (compile .standard "{1}-{}" (.basic ⟨[]⟩)).result = .ok compiled ∧
      DistinctNames "{1}-{}" ∧ (fieldsOf (segments "{1}-{}")).length = 2 ∧
      (compiled.read "a-b").result = .ok (some values) ∧
      values.entries = [("1", .string "b")] :=
  ⟨_, _, rfl, by decide +kernel, rfl, rfl, rfl⟩

end TextSchema.Schema
