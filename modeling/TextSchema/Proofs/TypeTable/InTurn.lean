import Mathlib.Data.List.Forall2
import TextSchema.Proofs.TypeTable.Lacking

/-!
# Types created in turn

The types that a table lacks can be created all at once, from the table as it is, or one
after the other, each put into the table before the next is created. A type created on the
way is never a base for a later one unless the batch fails, so both ways end with the same
types in the same order, and the order of the names decides nothing but the order of the
types.
-/

set_option autoImplicit false

namespace TextSchema

open List (Forall₂)

/-- Types that are the same but for the places where their decoders were made. -/
structure FieldType.Alike (left right : FieldType) : Prop where
  name_eq : left.name = right.name
  pattern_eq : left.pattern = right.pattern
  kind_eq : left.kind = right.kind
  decode_eq : left.decode = right.decode

theorem FieldType.Alike.refl (type : FieldType) : type.Alike type :=
  ⟨rfl, rfl, rfl, rfl⟩

/-- Tables with the same names in the same order and alike types under them. -/
def TypeTable.Alike (left right : TypeTable) : Prop :=
  Forall₂ (fun one two => one.1 = two.1 ∧ one.2.Alike two.2) left.entries right.entries

namespace Settings

def madeAt (settings : Settings) (origin : Origin) : Settings :=
  { settings with origin := origin }

/-- Create a type for each name from the table with the types created before it, every
creation at a place of its own. -/
def createInTurn (settings : Settings) : List (Origin × String) → TypeTable → Building TypeTable
  | [], table => pure table
  | (origin, name) :: rest, table => do
      let created ← (settings.madeAt origin).createLacking [name] table
      let extended ← ExceptT.lift (TypeTable.extend table created)
      settings.createInTurn rest extended

variable {settings : Settings} {table created : TypeTable} {names : List String}

/-! ## All at once -/

/-- What is created for names: the types of those that the table lacks, in the order in
which they first come. -/
structure Supplies (settings : Settings) (table : TypeTable) (names : List String)
    (created : TypeTable) : Prop where
  names_eq : created.names = (names.filter fun name => !table.contains name).eraseDups
  made : ∀ entry ∈ created.entries,
    (settings.createType entry.1 (.table table)).result = .ok entry.2

/-- The types of all names that the table lacks can be created from it. -/
def Creatable (settings : Settings) (table : TypeTable) (names : List String) : Prop :=
  ∀ name ∈ names, name ∉ table.names →
    ∃ type, (settings.createType name (.table table)).result = .ok type

theorem mem_missing_iff {name : String} :
    name ∈ names.filter (fun name => !table.contains name) ↔ name ∈ names ∧ name ∉ table.names := by
  simp only [List.mem_filter, Bool.not_eq_true', OrderedTable.contains_eq_false_iff]

theorem exists_createLacking (creatable : Creatable settings table names) :
    ∃ created, (settings.createLacking names table).result = .ok created ∧
      Supplies settings table names created := by
  have missing : ∀ name ∈ names.filter (fun name => !table.contains name),
      ∃ type, (settings.createType name (.table table)).result = .ok type :=
    fun name member => creatable name (mem_missing_iff.mp member).1 (mem_missing_iff.mp member).2
  obtain ⟨created, success, ofNames, ofEntries⟩ := exists_createTypesFrom settings .empty missing
  refine ⟨created, (result_createLacking settings names table).trans success, ?_, ?_⟩
  · exact ofNames.trans (withNew_nil _)
  · exact fun entry member => (ofEntries entry member).resolve_left List.not_mem_nil

theorem creatable_of_createTypesFrom {result : TypeTable}
    (success : (settings.createTypesFrom table created names).result = .ok result) :
    ∀ name ∈ names, name ∉ created.names →
      ∃ type, (settings.createType name (.table table)).result = .ok type := by
  induction names generalizing created with
  | nil => exact fun _ member => nomatch member
  | cons first rest ih =>
      unfold createTypesFrom at success
      split at success
      · rename_i present
        intro name member absent
        cases List.mem_cons.mp member with
        | inl same => exact absurd (OrderedTable.contains_eq_true_iff.mp present) (same ▸ absent)
        | inr later => exact ih success name later absent
      · simp only [Attempt.result_bind] at success
        obtain ⟨type, made, onward⟩ := exists_of_bind_ok success
        intro name member absent
        -- Further on, the first name is passed over, so its own type is the one made here.
        by_cases same : name = first
        · exact ⟨type, same ▸ made⟩
        · have later : name ∈ rest := (List.mem_cons.mp member).resolve_left same
          refine ih onward name later fun present => ?_
          exact (OrderedTable.mem_names_put.mp present).elim absent same

theorem supplies_of_createLacking
    (success : (settings.createLacking names table).result = .ok created) :
    Creatable settings table names ∧ Supplies settings table names created := by
  have creatable : Creatable settings table names := by
    intro name member absent
    rw [result_createLacking] at success
    exact creatable_of_createTypesFrom success name (mem_missing_iff.mpr ⟨member, absent⟩)
      List.not_mem_nil
  obtain ⟨other, same, supplies⟩ := exists_createLacking creatable
  obtain rfl : created = other := Except.ok.inj (success.symm.trans same)
  exact ⟨creatable, supplies⟩

theorem Supplies.mem_names_iff (supplies : Supplies settings table names created) {name : String} :
    name ∈ created.names ↔ name ∈ names ∧ name ∉ table.names := by
  simp only [supplies.names_eq, List.mem_eraseDups, mem_missing_iff]

theorem Supplies.createType_of_get? (supplies : Supplies settings table names created)
    {name : String} {type : FieldType} (found : created.get? name = some type) :
    (settings.createType name (.table table)).result = .ok type :=
  supplies.made (name, type) (OrderedTable.mem_entries_of_get? found)

theorem Supplies.entries_extend (supplies : Supplies settings table names created) :
    (TypeTable.extend table created).value.entries = table.entries ++ created.entries :=
  TypeTable.entries_extend fun _ member => (supplies.mem_names_iff.mp member).2

/-! ## One after the other -/

/-- Whether at one place or another, the same name makes alike types of a table. -/
theorem alike_of_createType {one two : Origin} {name : String} {left right : FieldType}
    (ofLeft : ((settings.madeAt one).createType name (.table table)).result = .ok left)
    (ofRight : ((settings.madeAt two).createType name (.table table)).result = .ok right) :
    left.Alike right := by
  obtain ⟨_, base, found, rfl⟩ := (createType_ok_iff _).mp ofLeft
  obtain ⟨_, other, same, rfl⟩ := (createType_ok_iff _).mp ofRight
  obtain rfl : base = other := Option.some.inj (found.symm.trans same)
  exact ⟨rfl, rfl, rfl, rfl⟩

/-- A table that has grown by types that can be created from the table it once was. -/
def Grown (settings : Settings) (table done : TypeTable) : Prop :=
  ∃ made, done.entries = table.entries ++ made ∧ ∀ entry ∈ made,
    ∃ origin, ((settings.madeAt origin).createType entry.1 (.table table)).result = .ok entry.2

theorem Grown.refl (table : TypeTable) : Grown settings table table :=
  ⟨[], (List.append_nil _).symm, List.forall_mem_nil _⟩

/-- What can be created from a table can be created from the grown table, and is the same:
its base was there before. -/
theorem Grown.createType {done : TypeTable} (grown : Grown settings table done) {origin : Origin}
    {name : String} {type : FieldType}
    (success : ((settings.madeAt origin).createType name (.table table)).result = .ok type) :
    ((settings.madeAt origin).createType name (.table done)).result = .ok type := by
  obtain ⟨made, entries, _⟩ := grown
  obtain ⟨suffixed, base, found, same⟩ := (createType_ok_iff _).mp success
  have kept : done.get? (TypeName.base name) = some base :=
    List.IsPrefix.lookup_eq_some ⟨made, entries.symm⟩ found
  exact (createType_ok_iff _).mpr ⟨suffixed, base, kept, same⟩

theorem exists_createType_madeAt {name : String} (origin : Origin)
    (creatable : ∃ type, (settings.createType name (.table table)).result = .ok type) :
    ∃ type, ((settings.madeAt origin).createType name (.table table)).result = .ok type := by
  obtain ⟨type, success⟩ := creatable
  obtain ⟨suffixed, base, found, _⟩ := (createType_ok_iff _).mp success
  exact ⟨_, (createType_ok_iff _).mpr ⟨suffixed, base, found, rfl⟩⟩

theorem Grown.names_subset {done : TypeTable} (grown : Grown settings table done) :
    table.names ⊆ done.names := by
  obtain ⟨made, entries, _⟩ := grown
  simp only [OrderedTable.names, entries, List.map_append]
  exact List.subset_append_left _ _

/-- A batch that can be created from the first table can be created from a grown one, and
lets it grow by the same types. -/
theorem Grown.extend {done : TypeTable} (grown : Grown settings table done) (origin : Origin)
    (creatable : Creatable settings table names) :
    ∃ created, ((settings.madeAt origin).createLacking names done).result = .ok created ∧
      Grown settings table (TypeTable.extend done created).value ∧
      (TypeTable.extend done created).value.names = withNew done.names names := by
  have ofTable : ∀ name ∈ names, name ∉ done.names →
      ∃ type, ((settings.madeAt origin).createType name (.table table)).result = .ok type :=
    fun name member absent => exists_createType_madeAt origin
      (creatable name member fun present => absent (grown.names_subset present))
  have creatableHere : Creatable (settings.madeAt origin) done names := by
    intro name member absent
    obtain ⟨type, success⟩ := ofTable name member absent
    exact ⟨type, grown.createType success⟩
  obtain ⟨created, success, supplies⟩ := exists_createLacking creatableHere
  refine ⟨created, success, ?_, ?_⟩
  · obtain ⟨made, entries, ofMade⟩ := grown
    refine ⟨made ++ created.entries, ?_, ?_⟩
    · simp only [supplies.entries_extend, entries, List.append_assoc]
    · refine List.forall_mem_append.mpr ⟨ofMade, fun entry member => ⟨origin, ?_⟩⟩
      -- What the grown table makes of the name is what the first table makes of it.
      obtain ⟨asked, absent⟩ := supplies.mem_names_iff.mp (List.mem_map_of_mem member)
      obtain ⟨type, first⟩ := ofTable entry.1 asked absent
      have again := Grown.createType ⟨made, entries, ofMade⟩ first
      obtain rfl : type = entry.2 :=
        Except.ok.inj (again.symm.trans (supplies.made entry member))
      exact first
  · simp only [OrderedTable.names, supplies.entries_extend, List.map_append]
    exact congrArg _ supplies.names_eq

theorem Grown.run {done : TypeTable} (grown : Grown settings table done)
    {turns : List (Origin × String)} (creatable : Creatable settings table (turns.map Prod.snd)) :
    ∃ last, (settings.createInTurn turns done).result = .ok last ∧ Grown settings table last ∧
      last.names = withNew done.names (turns.map Prod.snd) := by
  induction turns generalizing done with
  | nil => exact ⟨done, rfl, grown, (List.append_nil _).symm⟩
  | cons turn rest ih =>
      obtain ⟨origin, name⟩ := turn
      obtain ⟨creatableHere, creatableRest⟩ := List.forall_mem_cons.mp creatable
      have creatableAlone : Creatable settings table [name] :=
        List.forall_mem_singleton.mpr creatableHere
      obtain ⟨created, success, grownNext, names⟩ := grown.extend origin creatableAlone
      obtain ⟨last, onward, grownLast, further⟩ := ih grownNext creatableRest
      refine ⟨last, ?_, grownLast, ?_⟩
      · simp only [createInTurn, Attempt.result_bind, success]
        exact onward
      · exact (further.trans (congrArg (withNew · (rest.map Prod.snd)) names)).trans
          (withNew_append done.names [name] (rest.map Prod.snd)).symm

/-- Entries under the same names are alike if any two under one name are. -/
theorem forall₂_of_names {left right : List (String × FieldType)}
    (names : left.map Prod.fst = right.map Prod.fst)
    (alike : ∀ one ∈ left, ∀ two ∈ right, one.1 = two.1 → one.2.Alike two.2) :
    Forall₂ (fun one two => one.1 = two.1 ∧ one.2.Alike two.2) left right := by
  induction left generalizing right with
  | nil =>
      obtain rfl := List.map_eq_nil_iff.mp names.symm
      exact .nil
  | cons entry rest ih =>
      obtain ⟨other, others, rfl, same, later⟩ := List.map_eq_cons_iff.mp names.symm
      refine .cons ⟨same.symm, alike _ (.head _) _ (.head _) same.symm⟩ (ih later.symm ?_)
      exact fun one inLeft two inRight => alike one (.tail _ inLeft) two (.tail _ inRight)

theorem Grown.alike {left right : TypeTable} (ofLeft : Grown settings table left)
    (ofRight : Grown settings table right) (names : left.names = right.names) :
    TypeTable.Alike left right := by
  obtain ⟨madeLeft, leftEntries, ofMadeLeft⟩ := ofLeft
  obtain ⟨madeRight, rightEntries, ofMadeRight⟩ := ofRight
  simp only [OrderedTable.names, leftEntries, rightEntries, List.map_append,
    List.append_cancel_left_eq] at names
  simp only [TypeTable.Alike, leftEntries, rightEntries]
  refine List.rel_append (List.forall₂_same.mpr fun entry _ => ⟨rfl, .refl _⟩)
    (forall₂_of_names names ?_)
  rintro ⟨name, type⟩ inLeft ⟨_, other⟩ inRight rfl
  obtain ⟨one, madeHere⟩ := ofMadeLeft _ inLeft
  obtain ⟨two, madeThere⟩ := ofMadeRight _ inRight
  exact alike_of_createType madeHere madeThere

/-- Batches of the same names in any order create the same types, each under its name. -/
theorem Supplies.permuted {others : List String} {origin : Origin} {other : TypeTable}
    (supplies : Supplies settings table names created)
    (ofOthers : Supplies (settings.madeAt origin) table others other)
    (permuted : others.Perm names) :
    other.names.Perm created.names ∧
      ∀ name, Option.Rel FieldType.Alike (other.get? name) (created.get? name) := by
  have sameNames : ∀ name, name ∈ other.names ↔ name ∈ created.names := fun name => by
    simp only [ofOthers.mem_names_iff, supplies.mem_names_iff, permuted.mem_iff]
  refine ⟨(List.perm_ext_iff_of_nodup other.nodup created.nodup).mpr sameNames, fun name => ?_⟩
  cases found : created.get? name with
  | none =>
      have absent : name ∉ other.names := fun present =>
        OrderedTable.get?_eq_none_iff.mp found ((sameNames name).mp present)
      rw [OrderedTable.get?_eq_none_iff.mpr absent]
      exact .none
  | some type =>
      have present : name ∈ created.names :=
        List.mem_map_of_mem (f := Prod.fst) (OrderedTable.mem_entries_of_get? found)
      obtain ⟨same, again⟩ := OrderedTable.exists_get?_of_mem ((sameNames name).mpr present)
      have made : ((settings.madeAt settings.origin).createType name (.table table)).result =
          .ok type := supplies.createType_of_get? found
      rw [again]
      exact .some (alike_of_createType (ofOthers.createType_of_get? again) made)

/-- A batch of types is created exactly as if its names were taken in turn, each type put
into the table before the next is created. The order of the names decides the order of the
types and nothing else. -/
theorem createLacking_in_turn
    (success : (settings.createLacking names table).result = .ok created) :
    (∀ turns : List (Origin × String), turns.map Prod.snd = names →
      ∃ last, (settings.createInTurn turns table).result = .ok last ∧
        TypeTable.Alike last (TypeTable.extend table created).value) ∧
    ∀ (origin : Origin) (others : List String), others.Perm names →
      ∃ other, ((settings.madeAt origin).createLacking others table).result = .ok other ∧
        other.names.Perm created.names ∧
        ∀ name, Option.Rel FieldType.Alike (other.get? name) (created.get? name) := by
  obtain ⟨creatable, supplies⟩ := supplies_of_createLacking success
  constructor
  · rintro turns rfl
    obtain ⟨same, again, grown, ofNames⟩ :=
      (Grown.refl table).extend settings.origin creatable
    obtain rfl : created = same := Except.ok.inj (success.symm.trans again)
    obtain ⟨last, run, grownLast, ofLast⟩ := (Grown.refl table).run creatable
    exact ⟨last, run, grownLast.alike grown (ofLast.trans ofNames.symm)⟩
  · intro origin others permuted
    have creatableOthers : Creatable settings table others :=
      fun name member => creatable name (permuted.mem_iff.mp member)
    obtain ⟨other, successOther, _⟩ := (Grown.refl table).extend origin creatableOthers
    obtain ⟨_, ofOthers⟩ := supplies_of_createLacking successOther
    exact ⟨other, successOther, supplies.permuted ofOthers permuted⟩

/-- A name asked for twice, one that is there, and a suffixed name that is there as well
and is the base of another. -/
theorem createLacking_in_turn_of_nested :
    ∃ created last other,
      (standard.createLacking ["Number+?", "Number+", "Number?", "Number+?"]
        ((TypeTable.basic ⟨[]⟩).put "Number+" (.number ⟨["own"]⟩))).result = .ok created ∧
      created.names = ["Number+?", "Number?"] ∧
      (standard.createInTurn [(⟨["first"]⟩, "Number+?"), (⟨["second"]⟩, "Number+"),
        (⟨["third"]⟩, "Number?"), (⟨["last"]⟩, "Number+?")]
        ((TypeTable.basic ⟨[]⟩).put "Number+" (.number ⟨["own"]⟩))).result = .ok last ∧
      TypeTable.Alike last (TypeTable.extend
        ((TypeTable.basic ⟨[]⟩).put "Number+" (.number ⟨["own"]⟩)) created).value ∧
      ((standard.madeAt ⟨["other"]⟩).createLacking ["Number?", "Number+?", "Number+?", "Number+"]
        ((TypeTable.basic ⟨[]⟩).put "Number+" (.number ⟨["own"]⟩))).result = .ok other ∧
      ∀ name, Option.Rel FieldType.Alike (other.get? name) (created.get? name) := by
  obtain ⟨created, success, names⟩ : ∃ created,
      (standard.createLacking ["Number+?", "Number+", "Number?", "Number+?"]
        ((TypeTable.basic ⟨[]⟩).put "Number+" (.number ⟨["own"]⟩))).result = .ok created ∧
      created.names = ["Number+?", "Number?"] := ⟨_, rfl, rfl⟩
  obtain ⟨inTurn, permuted⟩ := createLacking_in_turn success
  obtain ⟨last, run, alike⟩ := inTurn [(⟨["first"]⟩, "Number+?"), (⟨["second"]⟩, "Number+"),
    (⟨["third"]⟩, "Number?"), (⟨["last"]⟩, "Number+?")] rfl
  obtain ⟨other, successOther, _, mapped⟩ := permuted ⟨["other"]⟩
    ["Number?", "Number+?", "Number+?", "Number+"] (by decide)
  exact ⟨created, last, other, success, names, run, alike, successOther, mapped⟩

end Settings

end TextSchema
