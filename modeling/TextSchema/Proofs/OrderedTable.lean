import TextSchema.OrderedTable

/-!
# What a table holds

A table is what was put into it: its names are those of the entries, each where it first
came, and under a name stands what came last. Two tables that hold the same are the same.
-/

set_option autoImplicit false

namespace TextSchema

/-! ## Names in the order in which they first come -/

/-- Names followed by those of other names that are new. -/
def withNew (seen names : List String) : List String :=
  seen ++ (names.filter fun name => !seen.contains name).eraseDups

theorem withNew_nil (names : List String) : withNew [] names = names.eraseDups :=
  congrArg List.eraseDups (List.filter_eq_self.mpr fun _ _ => rfl)

theorem withNew_singleton (seen : List String) (name : String) :
    withNew seen [name] = if name ∈ seen then seen else seen ++ [name] := by
  by_cases present : name ∈ seen
  · simp [withNew, present]
  · simp [withNew, present, List.eraseDups_cons]

theorem withNew_append (seen first rest : List String) :
    withNew seen (first ++ rest) = withNew (withNew seen first) rest := by
  have removed : (rest.filter fun name => !seen.contains name).removeAll
      (first.filter fun name => !seen.contains name) =
        rest.filter fun name => !(withNew seen first).contains name := by
    simp only [List.removeAll, List.filter_filter]
    refine List.filter_congr fun name _ => Bool.eq_iff_iff.mpr ?_
    simp [withNew, and_comm]
  simp only [withNew, List.filter_append, List.eraseDups_append, removed, List.append_assoc]

theorem mem_withNew {seen names : List String} {name : String} :
    name ∈ withNew seen names ↔ name ∈ seen ∨ name ∈ names := by
  by_cases present : name ∈ seen
  · simp [withNew, present]
  · simp [withNew, present, List.mem_eraseDups]

theorem eraseDups_of_nodup {names : List String} (nodup : names.Nodup) :
    names.eraseDups = names := by
  induction names with
  | nil => exact List.eraseDups_nil
  | cons name rest ih =>
      obtain ⟨alone, nodupRest⟩ := List.nodup_cons.mp nodup
      have others : rest.filter (fun other => !other == name) = rest :=
        List.filter_eq_self.mpr fun other member => by
          simpa using fun same : other = name => alone (same ▸ member)
      simp only [List.eraseDups_cons, others, ih nodupRest]

theorem withNew_of_nodup {names : List String} (nodup : names.Nodup) (seen : List String) :
    withNew seen names = seen ++ names.filter fun name => !seen.contains name :=
  congrArg (seen ++ ·) (eraseDups_of_nodup (nodup.filter _))

/-- Names that come again are not new, whatever stood before. The induction adds names at
the end, where both sides grow by the same step. -/
theorem withNew_eraseDups (seen names : List String) :
    withNew seen names.eraseDups = withNew seen names := by
  suffices ∀ backwards : List String,
      withNew seen backwards.reverse.eraseDups = withNew seen backwards.reverse from
    List.reverse_reverse names ▸ this names.reverse
  intro backwards
  induction backwards with
  | nil => rfl
  | cons name earlier ih =>
      have last : (earlier.reverse ++ [name]).eraseDups =
          if name ∈ earlier.reverse.eraseDups then earlier.reverse.eraseDups
          else earlier.reverse.eraseDups ++ [name] := by
        simp only [← withNew_singleton, ← withNew_nil, ← withNew_append]
      simp only [List.reverse_cons, last, withNew_append seen earlier.reverse]
      split
      · next came =>
          have seenAlready : name ∈ withNew seen earlier.reverse :=
            mem_withNew.mpr (.inr (List.mem_eraseDups.mp came))
          simp only [ih, withNew_singleton, seenAlready, if_true]
      · simp only [withNew_append, ih]

namespace OrderedTable

variable {α : Type} {table other : OrderedTable α}

/-! ## Names and values determine a table -/

theorem lookup_cons_ite (name : String) (entry : String × α) (rest : List (String × α)) :
    (entry :: rest).lookup name = if name = entry.1 then some entry.2 else rest.lookup name := by
  obtain ⟨key, value⟩ := entry
  by_cases same : name = key
  · simp only [List.lookup_cons, same, beq_self_eq_true, if_true]
  · simp only [List.lookup_cons, beq_eq_false_iff_ne.mpr same, same, if_false]

theorem get?_put (table : OrderedTable α) (name other : String) (value : α) :
    (table.put name value).get? other = if other = name then some value else table.get? other := by
  obtain ⟨entries, nodup⟩ := table
  simp only [get?, put]
  clear nodup
  induction entries with
  | nil => simp [putEntry, lookup_cons_ite]
  | cons entry rest ih =>
      by_cases same : entry.1 = name
      · subst same
        by_cases asked : other = entry.1 <;> simp [putEntry, lookup_cons_ite, asked]
      · by_cases asked : other = entry.1
        · simp [putEntry, lookup_cons_ite, same, asked]
        · simp [putEntry, lookup_cons_ite, same, asked, ih]

theorem get?_of_mem_entries {entry : String × α} (member : entry ∈ table.entries) :
    table.get? entry.1 = some entry.2 := by
  obtain ⟨before, after, split⟩ := List.append_of_mem member
  have nodup := table.nodup
  refine List.lookup_eq_some_iff.mpr ⟨before, after, split, fun earlier inBefore => ?_⟩
  simp only [split, List.map_append, List.map_cons, List.nodup_append] at nodup
  exact bne_iff_ne.mpr
    (nodup.2.2 earlier.1 (List.mem_map_of_mem inBefore) entry.1 List.mem_cons_self).symm

theorem entries_eq_filterMap (table : OrderedTable α) :
    table.entries = table.names.filterMap fun name => (table.get? name).map (name, ·) := by
  have found : table.entries.map (fun entry => (table.get? entry.1).map (entry.1, ·)) =
      table.entries.map some :=
    List.map_congr_left fun entry member => congrArg (Option.map _) (get?_of_mem_entries member)
  calc table.entries = (table.entries.map some).filterMap id := by
        simp only [List.filterMap_map, Function.id_comp, List.filterMap_some]
    _ = table.entries.filterMap fun entry => (table.get? entry.1).map (entry.1, ·) := by
        simp only [← found, List.filterMap_map, Function.id_comp]
    _ = table.names.filterMap fun name => (table.get? name).map (name, ·) := by
        simp only [names, List.filterMap_map, Function.comp_def]

theorem ext_of_get? (names : table.names = other.names)
    (values : ∀ name, table.get? name = other.get? name) : table = other := by
  have entries : table.entries = other.entries := by
    simp only [entries_eq_filterMap, names, values]
  cases table
  cases other
  cases entries
  rfl

/-! ## Entries put one after the other -/

theorem names_foldl_put (entries : List (String × α)) (table : OrderedTable α) :
    (entries.foldl (fun table entry => table.put entry.1 entry.2) table).names =
      withNew table.names (entries.map Prod.fst) := by
  induction entries generalizing table with
  | nil => exact (List.append_nil _).symm
  | cons entry rest ih =>
      calc _ = withNew (table.put entry.1 entry.2).names (rest.map Prod.fst) := ih _
        _ = withNew (withNew table.names [entry.1]) (rest.map Prod.fst) := by
            simp only [names_put, withNew_singleton]
        _ = withNew table.names (entry.1 :: rest.map Prod.fst) := (withNew_append _ [_] _).symm

theorem get?_foldl_put (entries : List (String × α)) (table : OrderedTable α) (name : String) :
    (entries.foldl (fun table entry => table.put entry.1 entry.2) table).get? name =
      (entries.reverse.lookup name).or (table.get? name) := by
  induction entries generalizing table with
  | nil => rfl
  | cons entry rest ih =>
      have first : (table.put entry.1 entry.2).get? name =
          (List.lookup name [entry]).or (table.get? name) := by
        by_cases asked : name = entry.1 <;> simp [get?_put, lookup_cons_ite, asked]
      simp only [List.foldl_cons, ih, first, List.reverse_cons, List.lookup_append, Option.or_assoc]

/-- A table holds entries put one after the other: their names in the order in which these
first came, and under each name the value that came last. -/
structure Holds (table : OrderedTable α) (history : List (String × α)) : Prop where
  names_eq : table.names = (history.map Prod.fst).eraseDups
  get?_eq : ∀ name, table.get? name = history.reverse.lookup name

theorem holds_empty : (empty : OrderedTable α).Holds [] :=
  ⟨rfl, fun _ => rfl⟩

theorem Holds.unique {history : List (String × α)} (first : table.Holds history)
    (second : other.Holds history) : table = other :=
  ext_of_get? (first.names_eq.trans second.names_eq.symm)
    fun name => (first.get?_eq name).trans (second.get?_eq name).symm

theorem Holds.foldl_put {history : List (String × α)} (holds : table.Holds history)
    (entries : List (String × α)) :
    (entries.foldl (fun table entry => table.put entry.1 entry.2) table).Holds
      (history ++ entries) where
  names_eq := by
    simp only [names_foldl_put, holds.names_eq, ← withNew_nil, List.map_append, withNew_append]
  get?_eq name := by
    simp only [get?_foldl_put, holds.get?_eq, List.reverse_append, List.lookup_append]

theorem ofList_entries (table : OrderedTable α) : ofList table.entries = table := by
  have entries : (ofList table.entries).entries = table.entries :=
    entries_foldl_put table.nodup fun _ _ => List.not_mem_nil
  exact ext_of_get? (congrArg (List.map Prod.fst) entries)
    fun name => congrArg (List.lookup name) entries

/-- Every table holds its own entries. -/
theorem holds_entries (table : OrderedTable α) : table.Holds table.entries := by
  have holds : (ofList table.entries).Holds table.entries := holds_empty.foldl_put table.entries
  rwa [ofList_entries] at holds

/-- Merging puts what the other table holds behind what the table holds, by whatever way
the two came to hold it. -/
theorem Holds.merge {history further : List (String × α)} (holds : table.Holds history)
    (otherHolds : other.Holds further) : (table.merge other).Holds (history ++ further) where
  names_eq := by
    calc (table.merge other).names = withNew table.names other.names := names_foldl_put _ _
      _ = withNew (withNew [] (history.map Prod.fst)) (further.map Prod.fst) := by
          simp only [holds.names_eq, otherHolds.names_eq, withNew_eraseDups, withNew_nil]
      _ = ((history ++ further).map Prod.fst).eraseDups := by
          simp only [List.map_append, ← withNew_append, ← withNew_nil]
  get?_eq name := by
    calc (table.merge other).get? name =
          (other.entries.reverse.lookup name).or (table.get? name) := get?_foldl_put _ _ _
      _ = (further.reverse.lookup name).or (history.reverse.lookup name) := by
          simp only [← other.holds_entries.get?_eq, otherHolds.get?_eq, holds.get?_eq]
      _ = (history ++ further).reverse.lookup name := by
          simp only [List.reverse_append, List.lookup_append]

theorem merge_assoc (first second third : OrderedTable α) :
    (first.merge second).merge third = first.merge (second.merge third) := by
  have inOrder := (first.holds_entries.merge second.holds_entries).merge third.holds_entries
  have nested := first.holds_entries.merge (second.holds_entries.merge third.holds_entries)
  exact inOrder.unique (List.append_assoc .. ▸ nested)

end OrderedTable

end TextSchema
