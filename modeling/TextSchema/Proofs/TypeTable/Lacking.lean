import TextSchema.FieldType.Enumeration
import TextSchema.Proofs.Field.TypeNameCodec
import TextSchema.Proofs.OrderedTable
import TextSchema.Proofs.Outcome
import TextSchema.TypeTable.Missing

/-!
# Types created on demand

What is created for a schema: one type for each suffixed name that the table lacks, in the
order in which the schema first asks for them, each derived from the type under its base
name. Put into the table, the created types stand behind those that were there, and
nothing is lacking any more.
-/

set_option autoImplicit false

namespace TextSchema

/-! ## Extending a table -/

namespace TypeTable

/-- Exchanging gives back what stood under the name, and puts the type there. -/
theorem value_exchange (table : TypeTable) (name : String) (type : FieldType) :
    (table.exchange name type).value = (table.get? name, table.put name type) := by
  simp only [exchange, OrderedTable.exchange_eq]
  split <;> rfl

@[simp] theorem value_insert (table : TypeTable) (name : String) (type : FieldType) :
    (table.insert name type).value = table.put name type := by
  rw [insert_eq]
  exact congrArg Prod.snd (value_exchange table name type)

theorem value_extend (table other : TypeTable) :
    (TypeTable.extend table other).value = table.merge other := by
  have onward : ∀ (entries : List (String × FieldType)) (table : TypeTable),
      (entries.foldlM (fun table entry => TypeTable.insert table entry.1 entry.2) table).value =
        entries.foldl (fun table entry => table.put entry.1 entry.2) table := by
    intro entries
    induction entries with
    | nil => exact fun _ => rfl
    | cons entry rest ih =>
        intro table
        simp only [List.foldlM_cons, Logged.value_bind, value_insert, List.foldl_cons, ih]
  exact onward other.entries table

/-- A table extended by types under new names has these behind its own. -/
theorem entries_extend {table other : TypeTable}
    (apart : ∀ name ∈ other.names, name ∉ table.names) :
    (TypeTable.extend table other).value.entries = table.entries ++ other.entries := by
  simp only [value_extend, OrderedTable.entries_merge apart]

/-- The suffixed names that a table lacks, in order and as often as they are asked for. -/
def lacking (table : TypeTable) (names : List String) : List String :=
  names.filter fun name => TypeName.hasSuffix name && !table.contains name

theorem mem_lacking_iff {table : TypeTable} {names : List String} {name : String} :
    name ∈ lacking table names ↔
      name ∈ names ∧ TypeName.hasSuffix name = true ∧ name ∉ table.names := by
  simp [lacking, OrderedTable.contains_eq_false_iff]

theorem lacking_eq_nil {table : TypeTable} {names : List String}
    (covered : ∀ name ∈ names, TypeName.hasSuffix name = true → name ∈ table.names) :
    lacking table names = [] := by
  apply List.eq_nil_iff_forall_not_mem.mpr
  intro name member
  obtain ⟨asked, suffixed, absent⟩ := mem_lacking_iff.mp member
  exact absent (covered name asked suffixed)

end TypeTable

/-! ## One type -/

/-- The type for a suffixed name is named by it, takes as many items as the suffix says and
has the pattern for so many items of the base type. -/
structure DerivedFor (settings : Settings) (table : TypeTable) (name : String)
    (type : FieldType) : Prop where
  named : type.name = some name
  counted : type.cardinality = (TypeName.split name).2
  patterned : ∃ base, table.get? (TypeName.base name) = some base ∧
    type.pattern = some ((TypeName.split name).2.patternFor
      (base.patternOr settings.defaultPattern) settings.separator)

theorem TypeSource.base_ok_iff {table : TypeTable} {name : String} {type : FieldType} :
    TypeSource.base (.table table) name = .ok type ↔ table.get? name = some type := by
  unfold TypeSource.base
  dsimp only
  cases table.get? name with
  | none => exact iff_of_false nofun nofun
  | some base => simp only [Except.ok.injEq, Option.some.injEq]

namespace Settings

variable (settings : Settings) {table created : TypeTable} {name : String}

/-- The type for a suffixed name, derived from the type under its base name. -/
def suffixedType (name : String) (base : FieldType) : FieldType :=
  (repeatedType { settings with origin := settings.origin.child name }
    (TypeName.split name).2 base).renamed name

theorem result_createType (suffixed : TypeName.hasSuffix name = true) :
    (settings.createType name (.table table)).result =
      (TypeSource.base (.table table) (TypeName.base name)).map (settings.suffixedType name) := by
  have several := TypeName.hasSuffix_iff_ne_one.mp suffixed
  simp only [createType, if_neg several, Attempt.result_bind, Attempt.result_ofExcept,
    Attempt.result_lift, Attempt.result_pure, value_derive several]
  change TypeSource.base (.table table) (TypeName.base name) >>= _ = _
  cases TypeSource.base (.table table) (TypeName.base name) <;> rfl

theorem createType_ok_iff {type : FieldType} :
    (settings.createType name (.table table)).result = .ok type ↔
      TypeName.hasSuffix name = true ∧ ∃ base, table.get? (TypeName.base name) = some base ∧
        settings.suffixedType name base = type := by
  cases suffix : TypeName.hasSuffix name with
  | false =>
      have single : (TypeName.split name).2 = .one := Decidable.not_not.mp fun several =>
        Bool.false_ne_true (suffix.symm.trans (TypeName.hasSuffix_iff_ne_one.mpr several))
      simp only [createType, single, if_true, Attempt.result_bind, Attempt.result_throw]
      exact ⟨nofun, nofun⟩
  | true =>
      simp only [result_createType settings suffix, true_and]
      constructor
      · intro success
        obtain ⟨base, found, made⟩ := exists_of_map_ok success
        exact ⟨base, TypeSource.base_ok_iff.mp found, made⟩
      · rintro ⟨base, found, made⟩
        simp only [TypeSource.base_ok_iff.mpr found, Except.map, made]

theorem exists_createType (suffixed : TypeName.hasSuffix name = true)
    (based : TypeName.base name ∈ table.names) :
    ∃ type, (settings.createType name (.table table)).result = .ok type := by
  obtain ⟨base, found⟩ := OrderedTable.exists_get?_of_mem based
  exact ⟨_, (createType_ok_iff settings).mpr ⟨suffixed, base, found, rfl⟩⟩

theorem derivedFor_of_createType {settings : Settings} {type : FieldType}
    (success : (settings.createType name (.table table)).result = .ok type) :
    DerivedFor settings table name type := by
  obtain ⟨_, base, found, rfl⟩ := (createType_ok_iff settings).mp success
  exact ⟨rfl, rfl, base, found, rfl⟩

theorem createType_unbased (suffixed : TypeName.hasSuffix name = true)
    (unbased : TypeName.base name ∉ table.names) :
    (settings.createType name (.table table)).result =
      .error (.missingType (TypeName.base name)) := by
  simp only [result_createType settings suffixed, TypeSource.base,
    OrderedTable.get?_eq_none_iff.mpr unbased]
  rfl

/-! ## One type after the other -/

/-- A name whose type can be created adds that type, unless it is there already. -/
theorem createTypesFrom_cons (created : TypeTable)
    (creatable : ∃ type, (settings.createType name (.table table)).result = .ok type)
    (rest : List String) :
    ∃ next, (settings.createTypesFrom table created (name :: rest)).result =
        (settings.createTypesFrom table next rest).result ∧
      next.names = withNew created.names [name] ∧
      ∀ entry ∈ next.entries, entry ∈ created.entries ∨
        (settings.createType entry.1 (.table table)).result = .ok entry.2 := by
  simp only [withNew_singleton]
  by_cases present : name ∈ created.names
  · refine ⟨created, ?_, (if_pos present).symm, fun _ => .inl⟩
    rw [createTypesFrom, if_pos (OrderedTable.contains_eq_true_iff.mpr present)]
  · obtain ⟨type, success⟩ := creatable
    refine ⟨created.put name type, ?_, created.names_put name type, ?_⟩
    · rw [createTypesFrom, OrderedTable.contains_eq_false_iff.mpr present, if_neg (by decide),
        Attempt.result_bind, success]
      rfl
    · intro entry member
      rw [OrderedTable.entries_put_of_fresh present, List.mem_append, List.mem_singleton] at member
      rcases member with before | rfl
      · exact .inl before
      · exact .inr success

theorem exists_createTypesFrom (created : TypeTable) {names : List String}
    (creatable : ∀ name ∈ names,
      ∃ type, (settings.createType name (.table table)).result = .ok type) :
    ∃ result, (settings.createTypesFrom table created names).result = .ok result ∧
      result.names = withNew created.names names ∧
      ∀ entry ∈ result.entries, entry ∈ created.entries ∨
        (settings.createType entry.1 (.table table)).result = .ok entry.2 := by
  induction names generalizing created with
  | nil => exact ⟨created, rfl, (List.append_nil _).symm, fun _ => .inl⟩
  | cons name rest ih =>
      obtain ⟨creatableHere, creatableRest⟩ := List.forall_mem_cons.mp creatable
      obtain ⟨next, onward, names, ofNext⟩ :=
        createTypesFrom_cons settings created creatableHere rest
      obtain ⟨result, success, further, ofResult⟩ := ih next creatableRest
      refine ⟨result, onward.trans success, ?_, ?_⟩
      · exact (further.trans (congrArg (withNew · rest) names)).trans
          (withNew_append created.names [name] rest).symm
      · intro entry member
        rcases ofResult entry member with before | made
        · exact ofNext entry before
        · exact .inr made

/-- The first name whose base is missing ends the creation. -/
theorem createTypesFrom_unbased {before after : List String}
    (suffixed : ∀ other ∈ before, TypeName.hasSuffix other = true)
    (based : ∀ other ∈ before, TypeName.base other ∈ table.names)
    (suffixedName : TypeName.hasSuffix name = true) (unbased : TypeName.base name ∉ table.names)
    (ofCreated : ∀ other ∈ created.names, TypeName.base other ∈ table.names) :
    (settings.createTypesFrom table created (before ++ name :: after)).result =
      .error (.missingType (TypeName.base name)) := by
  induction before generalizing created with
  | nil =>
      have absent : name ∉ created.names := fun member => unbased (ofCreated name member)
      rw [List.nil_append, createTypesFrom, OrderedTable.contains_eq_false_iff.mpr absent,
        if_neg (by decide), Attempt.result_bind, createType_unbased settings suffixedName unbased]
      rfl
  | cons other rest ih =>
      obtain ⟨suffixedHere, suffixedRest⟩ := List.forall_mem_cons.mp suffixed
      obtain ⟨basedHere, basedRest⟩ := List.forall_mem_cons.mp based
      obtain ⟨next, onward, names, _⟩ := createTypesFrom_cons settings created
        (exists_createType settings suffixedHere basedHere) (rest ++ name :: after)
      refine onward.trans (ih suffixedRest basedRest ?_)
      intro earlier member
      rw [names, withNew_singleton] at member
      split at member
      · exact ofCreated earlier member
      · rcases List.mem_append.mp member with before | last
        · exact ofCreated earlier before
        · exact List.mem_singleton.mp last ▸ basedHere

theorem result_createLacking (names : List String) (table : TypeTable) :
    (settings.createLacking names table).result =
      (settings.createTypesFrom table .empty
        (names.filter fun name => !table.contains name)).result := by
  simp only [createLacking, Attempt.result_bind, createTypes]
  cases (settings.createTypesFrom table .empty
      (names.filter fun name => !table.contains name)).result with
  | error flaw => rfl
  | ok created =>
      change Attempt.result (if created.entries ≠ [] then _ else _) = _
      split <;> rfl

theorem result_createForSchema (schema : String) (table : TypeTable) :
    (settings.createForSchema schema table).result =
      Schema.typeNames schema >>= fun names =>
        (settings.createTypesFrom table .empty (TypeTable.lacking table names)).result := by
  simp only [createForSchema, Attempt.result_bind, Attempt.result_ofExcept, result_createLacking,
    List.filter_filter, TypeTable.lacking, Bool.and_comm]

end Settings

/-! ## All types that a schema asks for -/

/-- The types created for a schema complete a table: they stand under the suffixed names
that it lacks, in the order in which these first come, behind the entries of the table,
and then the schema lacks nothing. -/
structure Completes (settings : Settings) (schema : String) (names : List String)
    (table created : TypeTable) : Prop where
  names_eq : created.names = (TypeTable.lacking table names).eraseDups
  derived : ∀ entry ∈ created.entries, DerivedFor settings table entry.1 entry.2
  kept : (TypeTable.extend table created).value.entries = table.entries ++ created.entries
  covers : ∀ name ∈ names, TypeName.hasSuffix name = true →
    name ∈ (TypeTable.extend table created).value.names
  settled : (settings.createForSchema schema (TypeTable.extend table created).value).result =
    .ok .empty

namespace Settings

variable (settings : Settings) {schema : String} {names : List String} {table created : TypeTable}

theorem createForSchema_completes (named : Schema.typeNames schema = .ok names)
    (based : ∀ name ∈ TypeTable.lacking table names, TypeName.base name ∈ table.names) :
    ∃ created, (settings.createForSchema schema table).result = .ok created ∧
      Completes settings schema names table created := by
  have creatable : ∀ name ∈ TypeTable.lacking table names,
      ∃ type, (settings.createType name (.table table)).result = .ok type :=
    fun name member => exists_createType settings (TypeTable.mem_lacking_iff.mp member).2.1
      (based name member)
  obtain ⟨created, success, ofNames, ofEntries⟩ :=
    exists_createTypesFrom settings .empty creatable
  have names_eq : created.names = (TypeTable.lacking table names).eraseDups :=
    ofNames.trans (withNew_nil _)
  have apart : ∀ name ∈ created.names, name ∉ table.names := by
    intro name member
    rw [names_eq, List.mem_eraseDups] at member
    exact (TypeTable.mem_lacking_iff.mp member).2.2
  have kept := TypeTable.entries_extend apart
  have covers : ∀ name ∈ names, TypeName.hasSuffix name = true →
      name ∈ (TypeTable.extend table created).value.names := by
    intro name asked suffix
    rw [OrderedTable.names, kept, List.map_append, List.mem_append]
    by_cases present : name ∈ table.names
    · exact .inl present
    · have lacks := TypeTable.mem_lacking_iff.mpr ⟨asked, suffix, present⟩
      have inCreated : name ∈ created.names := names_eq ▸ List.mem_eraseDups.mpr lacks
      exact .inr inCreated
  refine ⟨created, ?_, names_eq, ?_, kept, covers, ?_⟩
  · rw [result_createForSchema, named]
    exact success
  · exact fun entry member =>
      derivedFor_of_createType ((ofEntries entry member).resolve_left List.not_mem_nil)
  · rw [result_createForSchema, named]
    change (settings.createTypesFrom _ .empty (TypeTable.lacking _ names)).result = _
    rw [TypeTable.lacking_eq_nil covers]
    rfl

theorem createForSchema_unbased (named : Schema.typeNames schema = .ok names)
    {before after : List String} {name : String}
    (split : TypeTable.lacking table names = before ++ name :: after)
    (based : ∀ other ∈ before, TypeName.base other ∈ table.names)
    (unbased : TypeName.base name ∉ table.names) :
    (settings.createForSchema schema table).result =
      .error (.missingType (TypeName.base name)) := by
  have suffixed : ∀ other ∈ before ++ name :: after, TypeName.hasSuffix other = true :=
    fun other member => (TypeTable.mem_lacking_iff.mp (split ▸ member)).2.1
  obtain ⟨suffixedBefore, suffixedRest⟩ := List.forall_mem_append.mp suffixed
  rw [result_createForSchema, named]
  change (settings.createTypesFrom table .empty (TypeTable.lacking table names)).result = _
  rw [split]
  exact createTypesFrom_unbased settings suffixedBefore based (suffixedRest name (.head _)) unbased
    (List.forall_mem_nil _)

/-- Where the formats are well formed, either all bases are there or the first one that is
missing is reported. -/
theorem createForSchema_cases (table : TypeTable) (named : Schema.typeNames schema = .ok names) :
    (∃ created, (settings.createForSchema schema table).result = .ok created ∧
        (∀ name ∈ TypeTable.lacking table names, TypeName.base name ∈ table.names) ∧
        Completes settings schema names table created) ∨
      ∃ name ∈ TypeTable.lacking table names, TypeName.base name ∉ table.names ∧
        (settings.createForSchema schema table).result =
          .error (.missingType (TypeName.base name)) := by
  cases missing : (TypeTable.lacking table names).find? fun name =>
      !table.contains (TypeName.base name) with
  | none =>
      have based : ∀ name ∈ TypeTable.lacking table names, TypeName.base name ∈ table.names := by
        simpa [OrderedTable.contains] using missing
      obtain ⟨created, success, completes⟩ := createForSchema_completes settings named based
      exact .inl ⟨created, success, based, completes⟩
  | some name =>
      obtain ⟨absent, before, after, split, present⟩ := List.find?_eq_some_iff_append.mp missing
      have unbased : TypeName.base name ∉ table.names := by
        simpa [OrderedTable.contains] using absent
      have based : ∀ other ∈ before, TypeName.base other ∈ table.names := by
        simpa [OrderedTable.contains] using present
      refine .inr ⟨name, by simp [split], unbased, ?_⟩
      exact createForSchema_unbased settings named split based unbased

theorem completes_of_createForSchema {settings : Settings}
    (success : (settings.createForSchema schema table).result = .ok created) :
    ∃ names, Schema.typeNames schema = .ok names ∧
      (∀ name ∈ TypeTable.lacking table names, TypeName.base name ∈ table.names) ∧
      Completes settings schema names table created := by
  obtain ⟨names, named, _⟩ :=
    exists_of_bind_ok (result_createForSchema settings schema table ▸ success)
  rcases createForSchema_cases settings table named with
    ⟨other, same, based, completes⟩ | ⟨_, _, _, fails⟩
  · obtain rfl : created = other := Except.ok.inj (success.symm.trans same)
    exact ⟨names, named, based, completes⟩
  · cases success.symm.trans fails

theorem createForSchema_error {settings : Settings} {flaw : BuildError}
    (fails : (settings.createForSchema schema table).result = .error flaw) :
    Schema.typeNames schema = .error flaw ∨ ∃ name, flaw = .missingType name := by
  cases named : Schema.typeNames schema with
  | error other =>
      rw [result_createForSchema, named] at fails
      cases fails
      exact .inl rfl
  | ok names =>
      rcases createForSchema_cases settings table named with
        ⟨_, success, _⟩ | ⟨name, _, _, same⟩
      · cases success.symm.trans fails
      · exact .inr ⟨_, Except.error.inj (fails.symm.trans same)⟩

/-- Types are created for a schema exactly if its formats are well formed and every suffixed
name that the table lacks has its base there, and then they complete the table. Otherwise
the first malformed format is reported, or else the first base that is missing. -/
theorem createForSchema_outcome (schema : String) (table : TypeTable) :
    ((∃ created, (settings.createForSchema schema table).result = .ok created) ↔
        ∃ names, Schema.typeNames schema = .ok names ∧
          ∀ name ∈ TypeTable.lacking table names, TypeName.base name ∈ table.names) ∧
      (∀ flaw, Schema.typeNames schema = .error flaw →
        (settings.createForSchema schema table).result = .error flaw) ∧
      (∀ names before name after, Schema.typeNames schema = .ok names →
        TypeTable.lacking table names = before ++ name :: after →
        (∀ other ∈ before, TypeName.base other ∈ table.names) →
        TypeName.base name ∉ table.names →
        (settings.createForSchema schema table).result =
          .error (.missingType (TypeName.base name))) ∧
      ∀ created, (settings.createForSchema schema table).result = .ok created →
        ∃ names, Schema.typeNames schema = .ok names ∧
          Completes settings schema names table created := by
  refine ⟨⟨?_, ?_⟩, ?_, ?_, ?_⟩
  · rintro ⟨created, success⟩
    obtain ⟨names, named, based, _⟩ := completes_of_createForSchema success
    exact ⟨names, named, based⟩
  · rintro ⟨names, named, based⟩
    obtain ⟨created, success, _⟩ := createForSchema_completes settings named based
    exact ⟨created, success⟩
  · intro flaw malformed
    rw [result_createForSchema, malformed]
    rfl
  · exact fun _ _ _ _ named split based unbased =>
      createForSchema_unbased settings named split based unbased
  · intro created success
    obtain ⟨names, named, _, completes⟩ := completes_of_createForSchema success
    exact ⟨names, named, completes⟩

/-- A type that is asked for twice is created once, and one that is there is not created. -/
theorem createForSchema_outcome_of_repeated :
    ∃ created names,
      (standard.createForSchema "{a:Number+} {b:YesNo} {c:Number?} {d:Number+}"
        (.basic ⟨[]⟩)).result = .ok created ∧
      created.names = ["Number+", "Number?"] ∧
      Completes standard "{a:Number+} {b:YesNo} {c:Number?} {d:Number+}" names (.basic ⟨[]⟩)
        created ∧
      (standard.createForSchema "{a:Word?} {b:Number+} {c:Text*}" (.basic ⟨[]⟩)).result =
        .error (.missingType "Word") := by
  have named : Schema.typeNames "{a:Number+} {b:YesNo} {c:Number?} {d:Number+}" =
      .ok ["Number+", "YesNo", "Number?", "Number+"] := rfl
  obtain ⟨⟨_, creates⟩, _, _, completes⟩ := createForSchema_outcome standard
    "{a:Number+} {b:YesNo} {c:Number?} {d:Number+}" (.basic ⟨[]⟩)
  obtain ⟨created, success⟩ := creates ⟨_, named, by decide⟩
  obtain ⟨names, same, done⟩ := completes created success
  obtain rfl : names = _ := Except.ok.inj (same.symm.trans named)
  obtain ⟨_, _, unbased, _⟩ := createForSchema_outcome standard
    "{a:Word?} {b:Number+} {c:Text*}" (.basic ⟨[]⟩)
  refine ⟨created, _, success, done.names_eq, done, ?_⟩
  exact unbased ["Word?", "Number+", "Text*"] [] "Word?" ["Number+", "Text*"] rfl rfl
    (List.forall_mem_nil _) (by decide)

end Settings

end TextSchema
