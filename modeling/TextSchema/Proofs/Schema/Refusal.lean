import TextSchema.Proofs.Schema.FieldScan
import TextSchema.Proofs.TypeTable.Lacking
import TextSchema.Schema

/-!
# Why a schema is refused

Which flaw is reported where a schema does not compile. A malformed format comes before all
others, wherever its field stands. Once the types that the schema lacks have been created,
its segments can fail at a type that nobody was asked to create, or at a pattern.
-/

set_option autoImplicit false

namespace TextSchema

open Pattern

/-- The flaw is that a format could not be read. -/
def BuildError.concernsFormat : BuildError → Bool
  | .emptyFormat => true
  | .formatWithoutType _ => true
  | _ => false

theorem FieldFormat.concernsFormat_of_read {text : String} {flaw : BuildError}
    (fails : read text = .error flaw) : flaw.concernsFormat = true := by
  unfold read at fails
  dsimp only at fails
  split at fails
  · cases fails
    rfl
  · split at fails
    · cases fails
      rfl
    · cases fails

namespace Field

variable {field : Field} {flaw : BuildError}

/-- The field has a format, but not one that can be read. -/
def Malformed (field : Field) : Prop :=
  field.isTyped = true ∧ ∃ flaw, FieldFormat.read field.format = .error flaw

theorem format?_eq_error_iff :
    field.format? = .error flaw ↔
      field.isTyped = true ∧ FieldFormat.read field.format = .error flaw := by
  unfold format?
  split
  · rename_i typed
    cases FieldFormat.read field.format with
    | error other => simp [typed]
    | ok format => simp
  · rename_i untyped
    simp [untyped]

theorem exists_format?_iff : (∃ format, field.format? = .ok format) ↔ ¬ field.Malformed := by
  cases outcome : field.format? with
  | error flaw =>
      obtain ⟨typed, fails⟩ := format?_eq_error_iff.mp outcome
      have malformed : field.Malformed := ⟨typed, flaw, fails⟩
      simp [malformed]
  | ok format =>
      have wellFormed : ¬ field.Malformed := by
        rintro ⟨typed, flaw, fails⟩
        cases outcome.symm.trans (format?_eq_error_iff.mpr ⟨typed, fails⟩)
      simp [wellFormed]

end Field

namespace Schema

variable {fields : List Field} {names : List String} {flaw : BuildError}

/-! ## Type names -/

theorem typeNames_eq (schema : String) :
    typeNames schema = typeNamesOf (fieldsOf (segments schema)) := by
  rw [typeNames, Schema.fields, segments, fieldsOf_segmentsFrom]

theorem mem_of_typeNamesOf (named : typeNamesOf fields = .ok names) {field : Field}
    (member : field ∈ fields) :
    field.format? = .ok none ∨
      ∃ format, field.format? = .ok (some format) ∧ format.typeName ∈ names := by
  induction fields generalizing names with
  | nil => cases member
  | cons first rest ih =>
      obtain ⟨format, ofFirst, further⟩ := exists_of_bind_ok named
      obtain ⟨others, ofRest, same⟩ := exists_of_bind_ok further
      rcases List.mem_cons.mp member with rfl | later
      · cases format with
        | none => exact .inl ofFirst
        | some format =>
            cases same
            exact .inr ⟨format, ofFirst, .head _⟩
      · refine (ih ofRest later).imp_right ?_
        rintro ⟨other, ofField, inOthers⟩
        refine ⟨other, ofField, ?_⟩
        cases format with
        | none =>
            cases same
            exact inOthers
        | some format =>
            cases same
            exact .tail _ inOthers

theorem exists_typeNamesOf (wellFormed : ∀ field ∈ fields, ¬ field.Malformed) :
    ∃ names, typeNamesOf fields = .ok names := by
  induction fields with
  | nil => exact ⟨[], rfl⟩
  | cons field rest ih =>
      obtain ⟨here, later⟩ := List.forall_mem_cons.mp wellFormed
      obtain ⟨format, ofField⟩ := Field.exists_format?_iff.mpr here
      obtain ⟨names, ofRest⟩ := ih later
      rw [typeNamesOf, ofField, ofRest]
      exact ⟨_, rfl⟩

/-- The first malformed format is the one that is reported. -/
theorem typeNamesOf_malformed {before after : List Field} {field : Field}
    (wellFormed : ∀ other ∈ before, ¬ other.Malformed) (fails : field.format? = .error flaw) :
    typeNamesOf (before ++ field :: after) = .error flaw := by
  induction before with
  | nil =>
      rw [List.nil_append, typeNamesOf, fails]
      rfl
  | cons other rest ih =>
      obtain ⟨here, later⟩ := List.forall_mem_cons.mp wellFormed
      obtain ⟨format, ofOther⟩ := Field.exists_format?_iff.mpr here
      rw [List.cons_append, typeNamesOf, ofOther, ih later]
      rfl

theorem exists_first_malformed (some_ : ∃ field ∈ fields, field.Malformed) :
    ∃ before field after flaw, fields = before ++ field :: after ∧
      (∀ other ∈ before, ¬ other.Malformed) ∧ field.format? = .error flaw := by
  induction fields with
  | nil =>
      obtain ⟨_, member, _⟩ := some_
      cases member
  | cons field rest ih =>
      cases outcome : field.format? with
      | error flaw => exact ⟨[], field, rest, flaw, rfl, List.forall_mem_nil _, outcome⟩
      | ok format =>
          have wellFormed := Field.exists_format?_iff.mp ⟨format, outcome⟩
          obtain ⟨other, member, malformed⟩ := some_
          rcases List.mem_cons.mp member with rfl | later
          · exact absurd malformed wellFormed
          · obtain ⟨before, first, after, flaw, rfl, rest_, fails⟩ := ih ⟨other, later, malformed⟩
            exact ⟨field :: before, first, after, flaw, rfl,
              List.forall_mem_cons.mpr ⟨wellFormed, rest_⟩, fails⟩

/-! ## The segments -/

theorem fieldType_error {types : TypeTable} {field : Field}
    (fails : fieldType types field = .error flaw) :
    field.format? = .error flaw ∨
      ∃ format, field.format? = .ok (some format) ∧ types.get? format.typeName = none ∧
        flaw = .missingType format.typeName := by
  rcases or_of_bind_error fails with unread | ⟨format, read, further⟩
  · exact .inl unread
  · cases format with
    | none => cases further
    | some format =>
        refine .inr ⟨format, read, ?_⟩
        dsimp only at further
        split at further
        · cases further
        · cases further
          exact ⟨‹_›, rfl⟩

theorem Draft.add_error {types : TypeTable} {draft : Draft} {segment : Segment}
    (fails : draft.add types segment = .error flaw) :
    (∃ field, segment.field? = some field ∧ fieldType types field = .error flaw) ∨
      ∃ fault, flaw = .decode fault := by
  cases segment with
  | literal text => cases fails
  | field field =>
      rcases or_of_bind_error fails with untyped | ⟨type, _, further⟩
      · exact .inl ⟨field, rfl, untyped⟩
      · rcases or_of_bind_error further with uncounted | ⟨count, _, added⟩
        · obtain ⟨fault, _, rfl⟩ := exists_of_mapError uncounted
          exact .inr ⟨fault, rfl⟩
        · cases added

/-- The pattern and the fields of all segments. -/
def assembled (types : TypeTable) (schema : String) : Except BuildError Draft :=
  (segments schema).foldlM (Draft.add types) .empty

theorem assembled_error {types : TypeTable} {schema : String}
    (fails : assembled types schema = .error flaw) :
    (∃ field ∈ fieldsOf (segments schema), fieldType types field = .error flaw) ∨
      ∃ fault, flaw = .decode fault := by
  obtain ⟨segment, member, draft, here⟩ := exists_of_foldlM_error fails
  refine (Draft.add_error here).imp_left ?_
  rintro ⟨field, ofSegment, typed⟩
  exact ⟨field, List.mem_filterMap.mpr ⟨segment, member, ofSegment⟩, typed⟩

theorem result_compile (settings : Settings) (schema : String) (table : TypeTable) :
    (compile settings schema table).result = do
      let created ← (settings.createForSchema schema table).result
      let draft ← assembled (TypeTable.extend table created).value schema
      let acceptor ← (Acceptor.compile draft.pattern true).mapError .decode
      return ⟨acceptor, draft.boundFields⟩ := by
  simp only [compile, Attempt.result_bind, Attempt.result_ofExcept, Attempt.result_lift,
    Building.result_ofDecode]
  rfl

/-! ## What is reported -/

variable {settings : Settings} {schema : String} {table created : TypeTable}

/-- Creating the types checks all fields of the schema: their formats can be read, and
their suffixed types are there. -/
theorem fields_checked (success : (settings.createForSchema schema table).result = .ok created)
    {field : Field} (member : field ∈ fieldsOf (segments schema)) :
    ∃ format, field.format? = .ok format ∧
      ∀ named, format = some named → TypeName.hasSuffix named.typeName = true →
        ∃ type, (TypeTable.extend table created).value.get? named.typeName = some type := by
  obtain ⟨names, named, _, completes⟩ := Settings.completes_of_createForSchema success
  rw [typeNames_eq] at named
  rcases mem_of_typeNamesOf named member with untyped | ⟨format, typed, inNames⟩
  · exact ⟨none, untyped, fun _ absurd => nomatch absurd⟩
  · refine ⟨some format, typed, ?_⟩
    rintro _ ⟨⟩ suffix
    exact OrderedTable.exists_get?_of_mem (completes.covers _ inNames suffix)

/-- With the created types at hand, the only types that can be missing are those that
nobody was asked to create. -/
theorem assembled_missing (success : (settings.createForSchema schema table).result = .ok created)
    {name : String}
    (fails : assembled (TypeTable.extend table created).value schema = .error (.missingType name)) :
    TypeName.hasSuffix name = false ∧ table.get? name = none := by
  obtain ⟨_, _, _, completes⟩ := Settings.completes_of_createForSchema success
  rcases assembled_error fails with ⟨field, member, untyped⟩ | ⟨fault, other⟩
  · obtain ⟨format, read, present⟩ := fields_checked success member
    rcases fieldType_error untyped with unread | ⟨named, ofField, absent, same⟩
    · cases read.symm.trans unread
    · obtain rfl : name = named.typeName := BuildError.missingType.inj same
      obtain rfl : format = some named := Except.ok.inj (read.symm.trans ofField)
      constructor
      · by_contra suffix
        obtain ⟨type, found⟩ := present named rfl (eq_true_of_ne_false suffix)
        cases absent.symm.trans found
      · rw [OrderedTable.get?_eq_none_iff] at absent ⊢
        intro inTable
        apply absent
        rw [OrderedTable.names, completes.kept, List.map_append]
        exact List.mem_append_left _ inTable
  · cases other

theorem compile_malformed (settings : Settings) (table : TypeTable)
    {before after : List Field} {field : Field}
    (split : fieldsOf (segments schema) = before ++ field :: after)
    (wellFormed : ∀ other ∈ before, ¬ other.Malformed) (fails : field.format? = .error flaw) :
    (compile settings schema table).result = .error flaw := by
  have unnamed : typeNames schema = .error flaw := by
    rw [typeNames_eq, split]
    exact typeNamesOf_malformed wellFormed fails
  rw [result_compile, Settings.result_createForSchema, unnamed]
  rfl

/-- Where a schema is refused: while its types are created, while its segments are put
together, or as a pattern. -/
theorem compile_error (fails : (compile settings schema table).result = .error flaw) :
    (settings.createForSchema schema table).result = .error flaw ∨
      (∃ created, (settings.createForSchema schema table).result = .ok created ∧
        assembled (TypeTable.extend table created).value schema = .error flaw) ∨
      ∃ fault, flaw = .decode fault := by
  rw [result_compile] at fails
  rcases or_of_bind_error fails with uncreated | ⟨created, success, further⟩
  · exact .inl uncreated
  · rcases or_of_bind_error further with unassembled | ⟨draft, _, last⟩
    · exact .inr (.inl ⟨created, success, unassembled⟩)
    · rcases or_of_bind_error last with uncompiled | ⟨_, _, done⟩
      · obtain ⟨fault, _, rfl⟩ := exists_of_mapError uncompiled
        exact .inr (.inr ⟨fault, rfl⟩)
      · cases done

/-- Only a malformed format is reported as one, wherever the schema is refused. -/
theorem malformed_of_compile (fails : (compile settings schema table).result = .error flaw)
    (format : flaw.concernsFormat = true) :
    ∃ field ∈ fieldsOf (segments schema), field.Malformed := by
  by_contra none_
  have wellFormed : ∀ field ∈ fieldsOf (segments schema), ¬ field.Malformed :=
    fun field member malformed => none_ ⟨field, member, malformed⟩
  rcases compile_error fails with uncreated | ⟨created, success, unassembled⟩ | ⟨fault, rfl⟩
  · rcases Settings.createForSchema_error uncreated with unnamed | ⟨name, rfl⟩
    · obtain ⟨names, named⟩ := exists_typeNamesOf wellFormed
      rw [typeNames_eq, named] at unnamed
      cases unnamed
    · cases format
  · rcases assembled_error unassembled with ⟨field, member, untyped⟩ | ⟨fault, rfl⟩
    · rcases fieldType_error untyped with unread | ⟨_, _, _, rfl⟩
      · obtain ⟨_, read, _⟩ := fields_checked success member
        cases read.symm.trans unread
      · cases format
    · cases format
  · cases format

/-- Once the types are created, all formats of the schema can be read and all its suffixed
types are there, so that only an unsuffixed type can still be missing. A schema is
therefore refused for a format exactly if a field has a malformed one, and then for the
first of these, whatever else is wrong with it. -/
theorem compile_flaws (settings : Settings) (schema : String) (table : TypeTable) :
    (∀ created, (settings.createForSchema schema table).result = .ok created →
      (∀ field ∈ fieldsOf (segments schema), ∃ format, field.format? = .ok format ∧
        ∀ named, format = some named → TypeName.hasSuffix named.typeName = true →
          ∃ type, (TypeTable.extend table created).value.get? named.typeName = some type) ∧
      ∀ name,
        assembled (TypeTable.extend table created).value schema = .error (.missingType name) →
        TypeName.hasSuffix name = false ∧ table.get? name = none) ∧
    ((∃ flaw, flaw.concernsFormat = true ∧
        (compile settings schema table).result = .error flaw) ↔
      ∃ field ∈ fieldsOf (segments schema), field.Malformed) ∧
    ∀ before field after flaw, fieldsOf (segments schema) = before ++ field :: after →
      (∀ other ∈ before, ¬ other.Malformed) → field.format? = .error flaw →
      (compile settings schema table).result = .error flaw := by
  refine ⟨?_, ⟨?_, ?_⟩, ?_⟩
  · intro created success
    exact ⟨fun _ member => fields_checked success member, fun _ => assembled_missing success⟩
  · rintro ⟨flaw, format, fails⟩
    exact malformed_of_compile fails format
  · intro malformed
    obtain ⟨before, field, after, flaw, split, wellFormed, fails⟩ :=
      exists_first_malformed malformed
    have read := (Field.format?_eq_error_iff.mp fails).2
    exact ⟨flaw, FieldFormat.concernsFormat_of_read read,
      compile_malformed settings table split wellFormed fails⟩
  · exact fun _ _ _ _ split wellFormed fails =>
      compile_malformed settings table split wellFormed fails

/-- A malformed format is reported though a type and its base are missing before it and a
second malformed format comes after it. Where all formats are well formed, a type without
suffix is missing though the list behind it was created. -/
theorem compile_flaws_of_malformed :
    (∃ field ∈ fieldsOf (segments "{a:Word+}{b:Number?}{c:>}{d:<}"), field.Malformed) ∧
    (compile .standard "{a:Word+}{b:Number?}{c:>}{d:<}" (.basic ⟨[]⟩)).result =
      .error (.formatWithoutType ">") ∧
    ∃ created, (Settings.standard.createForSchema "{a:Colour}{b:Number+}" (.basic ⟨[]⟩)).result =
        .ok created ∧
      (∃ type, (TypeTable.extend (.basic ⟨[]⟩) created).value.get? "Number+" = some type) ∧
      assembled (TypeTable.extend (.basic ⟨[]⟩) created).value "{a:Colour}{b:Number+}" =
        .error (.missingType "Colour") ∧
      TypeName.hasSuffix "Colour" = false ∧ (TypeTable.basic ⟨[]⟩).get? "Colour" = none := by
  obtain ⟨_, refused, first⟩ :=
    compile_flaws .standard "{a:Word+}{b:Number?}{c:>}{d:<}" (.basic ⟨[]⟩)
  obtain ⟨checked, _⟩ := compile_flaws .standard "{a:Colour}{b:Number+}" (.basic ⟨[]⟩)
  have reported : (compile .standard "{a:Word+}{b:Number?}{c:>}{d:<}" (.basic ⟨[]⟩)).result =
      .error (.formatWithoutType ">") := by
    refine first [⟨"a", "Word+"⟩, ⟨"b", "Number?"⟩] ⟨"c", ">"⟩ [⟨"d", "<"⟩] _ rfl ?_ rfl
    intro other member
    refine Field.exists_format?_iff.mp ?_
    rcases List.mem_pair.mp member with rfl | rfl
    · exact ⟨_, rfl⟩
    · exact ⟨_, rfl⟩
  obtain ⟨created, success, incomplete⟩ :
      ∃ created, (Settings.standard.createForSchema "{a:Colour}{b:Number+}" (.basic ⟨[]⟩)).result =
          .ok created ∧
        assembled (TypeTable.extend (.basic ⟨[]⟩) created).value "{a:Colour}{b:Number+}" =
          .error (.missingType "Colour") := ⟨_, rfl, rfl⟩
  obtain ⟨ofFields, missing⟩ := checked created success
  refine ⟨refused.mp ⟨_, rfl, reported⟩, reported, created, success, ?_, incomplete,
    missing "Colour" incomplete⟩
  have member : ⟨"b", "Number+"⟩ ∈ fieldsOf (segments "{a:Colour}{b:Number+}") := .tail _ (.head _)
  obtain ⟨_, read, present⟩ := ofFields ⟨"b", "Number+"⟩ member
  exact present (.ofType "Number+") (Except.ok.inj (read.symm.trans rfl)) rfl

end Schema

end TextSchema
