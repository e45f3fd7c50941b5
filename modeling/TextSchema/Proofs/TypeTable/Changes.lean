import TextSchema.Proofs.TypeTable.Lacking

/-!
# Changes of a table of types

A table of types changes by inserting a type under a name, by registering a type under its
own and by taking over the entries of another table. Every change puts entries one after the
other, so that after any run of changes the table holds what the run has put.
-/

set_option autoImplicit false

namespace TextSchema

namespace TypeTable

/-- A change of a table. -/
inductive Change where
  | insert (name : String) (type : FieldType)
  | register (type : FieldType)
  | extend (other : TypeTable)

/-- The entries that a change puts. Registering a type without a name puts none. -/
def Change.entries : Change → List (String × FieldType)
  | .insert name type => [(name, type)]
  | .register type =>
      match type.name with
      | some name => [(name, type)]
      | none => []
  | .extend other => other.entries

/-- The table after a change. One that fails leaves the table as it is. -/
def change (table : TypeTable) : Change → TypeTable
  | .insert name type => (table.exchange name type).value.2
  | .register type =>
      match (table.register type).result with
      | .ok registered => registered
      | .error _ => table
  | .extend other => (TypeTable.extend table other).value

variable {table : TypeTable} {name : String} {type : FieldType}

/-! ## One change -/

theorem result_register_named (table : TypeTable) (named : type.name = some name) :
    (table.register type).result = .ok (table.put name type) := by
  simp only [register, named, Attempt.result_lift, value_insert]

theorem result_register_unnamed (table : TypeTable) (unnamed : type.name = none) :
    (table.register type).result = .error .unnamedType := by
  simp only [register, unnamed, Attempt.result_throw]

theorem change_eq_foldl_put (table : TypeTable) (change : Change) :
    table.change change =
      change.entries.foldl (fun table entry => table.put entry.1 entry.2) table := by
  cases change with
  | insert name type => exact congrArg Prod.snd (value_exchange table name type)
  | register type =>
      cases named : type.name with
      | some name => simp only [TypeTable.change, Change.entries, result_register_named table named,
          named, List.foldl_cons, List.foldl_nil]
      | none => simp only [TypeTable.change, Change.entries, result_register_unnamed table named,
          named, List.foldl_nil]
  | extend other => exact value_extend table other

/-! ## Runs of changes -/

/-- What one change puts comes behind what the table held. -/
theorem holds_change {history : List (String × FieldType)} (holds : table.Holds history)
    (change : Change) : (table.change change).Holds (history ++ change.entries) :=
  change_eq_foldl_put table change ▸ holds.foldl_put change.entries

theorem holds_changes {history : List (String × FieldType)} (holds : table.Holds history)
    (changes : List Change) :
    (changes.foldl TypeTable.change table).Holds (history ++ changes.flatMap Change.entries) := by
  induction changes generalizing table history with
  | nil => simpa using holds
  | cons change rest ih =>
      simpa only [List.foldl_cons, List.flatMap_cons, List.append_assoc] using
        ih (holds_change holds change)

/-! ## Extending -/

/-- What becomes of a table that another one extends: the entries of the other are inserted
one by one in their order, so the table's names keep their places, the other's new names
follow in its order, and the other's types are preferred. -/
structure ExtendedBy (table other extended : TypeTable) : Prop where
  one_by_one : extended =
    (other.entries.map fun entry => Change.insert entry.1 entry.2).foldl TypeTable.change table
  names_eq : extended.names = table.names ++ other.names.filter fun name => !table.contains name
  get?_eq : ∀ name, extended.get? name = (other.get? name).or (table.get? name)

theorem extendedBy_extend (table other : TypeTable) :
    ExtendedBy table other (TypeTable.extend table other).value where
  one_by_one := by
    simp only [value_extend, OrderedTable.merge, List.foldl_map, change_eq_foldl_put,
      Change.entries, List.foldl_cons, List.foldl_nil]
  names_eq := by
    calc (TypeTable.extend table other).value.names = (table.merge other).names :=
          congrArg OrderedTable.names (value_extend table other)
      _ = withNew table.names other.names := OrderedTable.names_foldl_put _ _
      _ = _ := withNew_of_nodup other.nodup table.names
  get?_eq name := by
    calc (TypeTable.extend table other).value.get? name = (table.merge other).get? name :=
          congrArg (OrderedTable.get? · name) (value_extend table other)
      _ = (other.entries.reverse.lookup name).or (table.get? name) :=
          OrderedTable.get?_foldl_put _ _ _
      _ = _ := congrArg (Option.or · _) (other.holds_entries.get?_eq name).symm

/-! ## Registering all -/

theorem result_foldlM_register (types : List FieldType) (table : TypeTable) :
    (types.foldlM register table).result =
      if types.all fun type => type.name.isSome then
        .ok ((types.map Change.register).foldl TypeTable.change table)
      else .error .unnamedType := by
  induction types generalizing table with
  | nil => rfl
  | cons type rest ih =>
      cases named : type.name with
      | some name =>
          have here : table.change (.register type) = table.put name type := by
            simp only [TypeTable.change, result_register_named table named]
          simp only [List.foldlM_cons, Attempt.result_bind, result_register_named table named,
            List.all_cons, named, Option.isSome_some, Bool.true_and, List.map_cons,
            List.foldl_cons, here]
          exact ih (table.put name type)
      | none =>
          simp only [List.foldlM_cons, Attempt.result_bind, result_register_unnamed table named,
            List.all_cons, named, Option.isSome_none, Bool.false_and]
          rfl

/-- After any run of changes from the empty table, the names are all that were put, each
where it first came, and under each stands what was put there last. Inserting gives back
what stood under the name, registering needs a name, extending inserts the entries of the
other table one by one and can be regrouped, and a table of types comes about by registering
them in order, exactly if all are named. -/
theorem changes_outcome :
    (∀ changes : List Change,
      (changes.foldl TypeTable.change .empty).Holds (changes.flatMap Change.entries)) ∧
    (∀ (table : TypeTable) (name : String) (type : FieldType),
      (table.exchange name type).value = (table.get? name, table.change (.insert name type))) ∧
    (∀ (table : TypeTable) (type : FieldType), type.name = none →
      (table.register type).result = .error .unnamedType ∧
        table.change (.register type) = table) ∧
    (∀ table other : TypeTable, ExtendedBy table other (TypeTable.extend table other).value) ∧
    (∀ first second third : TypeTable,
      (TypeTable.extend (TypeTable.extend first second).value third).value =
        (TypeTable.extend first (TypeTable.extend second third).value).value) ∧
    ∀ types : List FieldType,
      (ofTypes types).result =
        if types.all fun type => type.name.isSome then
          .ok ((types.map Change.register).foldl TypeTable.change .empty)
        else .error .unnamedType := by
  refine ⟨holds_changes OrderedTable.holds_empty, ?_, ?_, extendedBy_extend, ?_, ?_⟩
  · intro table name type
    have previous : (table.exchange name type).value.1 = table.get? name :=
      congrArg Prod.fst (value_exchange table name type)
    exact Prod.ext previous rfl
  · intro table type unnamed
    have fails := result_register_unnamed table unnamed
    exact ⟨fails, by simp only [TypeTable.change, fails]⟩
  · intro first second third
    simp only [value_extend, OrderedTable.merge_assoc]
  · exact fun types => result_foldlM_register types .empty

/-- A name keeps its place when another type comes under it, and a type without a name
changes nothing. -/
theorem changes_outcome_of_replaced :
    let number := FieldType.number ⟨[]⟩
    let yesNo := FieldType.yesNo ⟨[]⟩
    let unnamed := FieldType.plain none yesNo.decoder
    let changes : List Change :=
      [.insert "Count" number, .register yesNo, .register unnamed, .insert "Count" unnamed,
        .extend ⟨[("Number", number), ("YesNo", number)], by decide⟩]
    let table := changes.foldl TypeTable.change .empty
    table.names = ["Count", "YesNo", "Number"] ∧
      table.get? "Count" = some unnamed ∧ table.get? "YesNo" = some number ∧
      (table.exchange "Count" yesNo).value.1 = some unnamed ∧
      (table.register unnamed).result = .error .unnamedType ∧
      table.change (.register unnamed) = table := by
  intro number yesNo unnamed changes table
  obtain ⟨runs, exchanges, fails, _⟩ := changes_outcome
  have holds : table.Holds [("Count", number), ("YesNo", yesNo), ("Count", unnamed),
      ("Number", number), ("YesNo", number)] := runs changes
  have count : table.get? "Count" = some unnamed := holds.get?_eq "Count"
  have replaced : (table.exchange "Count" yesNo).value.1 = table.get? "Count" :=
    congrArg Prod.fst (exchanges table "Count" yesNo)
  exact ⟨holds.names_eq, count, holds.get?_eq "YesNo", replaced.trans count,
    fails table unnamed rfl⟩

end TypeTable

end TextSchema
