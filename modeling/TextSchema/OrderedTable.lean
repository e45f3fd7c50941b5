/-!
# Ordered tables

Tables from names to values that list their entries in the order in which the
names first came. Putting a value under a name that is there already replaces
the value and keeps the place.
-/

set_option autoImplicit false

namespace TextSchema

def putEntry {α : Type} (name : String) (value : α) : List (String × α) → List (String × α)
  | [] => [(name, value)]
  | entry :: rest =>
      if entry.1 = name then (name, value) :: rest else entry :: putEntry name value rest

/-- The names after putting an entry: those before, and the new one if it was
not among them. -/
theorem names_putEntry {α : Type} (name : String) (value : α) (entries : List (String × α)) :
    (putEntry name value entries).map Prod.fst =
      if name ∈ entries.map Prod.fst then entries.map Prod.fst
      else entries.map Prod.fst ++ [name] := by
  induction entries with
  | nil => simp [putEntry]
  | cons entry rest ih =>
      by_cases same : entry.1 = name
      · simp [putEntry, same]
      · have other : name ≠ entry.1 := fun equal => same equal.symm
        by_cases present : name ∈ rest.map Prod.fst
        · rw [if_pos present] at ih
          rw [if_pos (by simp only [List.map_cons, List.mem_cons]; exact .inr present)]
          simp only [putEntry, same, if_false, List.map_cons, ih]
        · rw [if_neg present] at ih
          rw [if_neg (by simp only [List.map_cons, List.mem_cons, not_or]; exact ⟨other, present⟩)]
          simp only [putEntry, same, if_false, List.map_cons, ih, List.cons_append]

theorem putEntry_of_fresh {α : Type} {name : String} {entries : List (String × α)}
    (fresh : name ∉ entries.map Prod.fst) (value : α) :
    putEntry name value entries = entries ++ [(name, value)] := by
  induction entries with
  | nil => rfl
  | cons entry rest ih =>
      rw [List.map_cons, List.mem_cons, not_or] at fresh
      obtain ⟨other, later⟩ := fresh
      rw [putEntry, if_neg (Ne.symm other), ih later, List.cons_append]

/-- Put an entry, and give back the value that stood under its name. -/
def exchangeEntry {α : Type} (name : String) (value : α) :
    List (String × α) → Option α × List (String × α)
  | [] => (none, [(name, value)])
  | entry :: rest =>
      if entry.1 = name then (some entry.2, (name, value) :: rest)
      else
        let (previous, further) := exchangeEntry name value rest
        (previous, entry :: further)

theorem exchangeEntry_eq {α : Type} (name : String) (value : α) (entries : List (String × α)) :
    exchangeEntry name value entries = (entries.lookup name, putEntry name value entries) := by
  induction entries with
  | nil => rfl
  | cons entry rest ih =>
      obtain ⟨key, old⟩ := entry
      by_cases same : key = name
      · simp [exchangeEntry, putEntry, same]
      · have other : (name == key) = false := by simpa using Ne.symm same
        simp [exchangeEntry, putEntry, List.lookup_cons, same, other, ih]

/-- A table from names to values in the order of first insertion. -/
structure OrderedTable (α : Type) where
  entries : List (String × α)
  nodup : (entries.map Prod.fst).Nodup

namespace OrderedTable

variable {α : Type}

def empty : OrderedTable α := ⟨[], by simp⟩

def names (table : OrderedTable α) : List String :=
  table.entries.map Prod.fst

def size (table : OrderedTable α) : Nat :=
  table.entries.length

def get? (table : OrderedTable α) (name : String) : Option α :=
  table.entries.lookup name

def contains (table : OrderedTable α) (name : String) : Bool :=
  table.names.contains name

def put (table : OrderedTable α) (name : String) (value : α) : OrderedTable α where
  entries := putEntry name value table.entries
  nodup := by
    rw [names_putEntry]
    split
    · exact table.nodup
    · next absent =>
        rw [List.nodup_append]
        refine ⟨table.nodup, by simp, fun left inTable right isName => ?_⟩
        rw [List.mem_singleton.mp isName]
        exact fun equal => absent (equal ▸ inTable)

/-- The table with a value put under a name, and the value that stood there before. -/
def exchange (table : OrderedTable α) (name : String) (value : α) : Option α × OrderedTable α :=
  ((exchangeEntry name value table.entries).1,
    { entries := (exchangeEntry name value table.entries).2
      nodup := by
        rw [exchangeEntry_eq]
        exact (table.put name value).nodup })

theorem exchange_eq (table : OrderedTable α) (name : String) (value : α) :
    table.exchange name value = (table.get? name, table.put name value) := by
  simp only [exchange, exchangeEntry_eq, get?, put]

def merge (table other : OrderedTable α) : OrderedTable α :=
  other.entries.foldl (fun table entry => table.put entry.1 entry.2) table

def ofList (entries : List (String × α)) : OrderedTable α :=
  entries.foldl (fun table entry => table.put entry.1 entry.2) empty

theorem names_put (table : OrderedTable α) (name : String) (value : α) :
    (table.put name value).names =
      if name ∈ table.names then table.names else table.names ++ [name] :=
  names_putEntry name value table.entries

variable {table : OrderedTable α} {name : String}

theorem mem_names_put {other : String} {value : α} :
    other ∈ (table.put name value).names ↔ other ∈ table.names ∨ other = name := by
  rw [names_put]
  split
  · next present =>
      constructor
      · exact .inl
      · rintro (before | rfl)
        · exact before
        · exact present
  · rw [List.mem_append, List.mem_singleton]

theorem mem_names_foldl_put {entries : List (String × α)} :
    name ∈ (entries.foldl (fun table entry => table.put entry.1 entry.2) table).names ↔
      name ∈ table.names ∨ name ∈ entries.map Prod.fst := by
  induction entries generalizing table with
  | nil => simp
  | cons entry rest ih =>
      rw [List.foldl_cons, ih, mem_names_put, List.map_cons, List.mem_cons, or_assoc]

theorem mem_names_ofList {entries : List (String × α)} :
    name ∈ (ofList entries).names ↔ name ∈ entries.map Prod.fst := by
  rw [ofList, mem_names_foldl_put]
  exact or_iff_right List.not_mem_nil

theorem contains_eq_true_iff : table.contains name = true ↔ name ∈ table.names := by
  simp [contains]

theorem contains_eq_false_iff : table.contains name = false ↔ name ∉ table.names := by
  simp [contains]

theorem get?_eq_none_iff : table.get? name = none ↔ name ∉ table.names := by
  simp only [get?, List.lookup_eq_none_iff, names, List.mem_map, bne_iff_ne, not_exists, not_and]
  constructor
  · intro other entry member same
    exact other entry member same.symm
  · intro absent entry member same
    exact absent entry member same.symm

theorem exists_get?_of_mem (member : name ∈ table.names) :
    ∃ value, table.get? name = some value := by
  cases found : table.get? name with
  | none => exact absurd member (get?_eq_none_iff.mp found)
  | some value => exact ⟨value, rfl⟩

theorem mem_entries_of_get? {value : α} (found : table.get? name = some value) :
    (name, value) ∈ table.entries := by
  obtain ⟨before, after, entries, _⟩ := List.lookup_eq_some_iff.mp found
  rw [entries]
  exact List.mem_append_right _ List.mem_cons_self

theorem isSome_get? (table : OrderedTable α) (name : String) :
    (table.get? name).isSome = table.contains name := by
  cases found : table.get? name with
  | none => exact (contains_eq_false_iff.mpr (get?_eq_none_iff.mp found)).symm
  | some value =>
      have member : name ∈ table.names := List.mem_map_of_mem (mem_entries_of_get? found)
      exact (contains_eq_true_iff.mpr member).symm

theorem entries_put_of_fresh (fresh : name ∉ table.names) (value : α) :
    (table.put name value).entries = table.entries ++ [(name, value)] :=
  putEntry_of_fresh fresh value

theorem entries_foldl_put {entries : List (String × α)} (nodup : (entries.map Prod.fst).Nodup)
    (apart : ∀ name ∈ entries.map Prod.fst, name ∉ table.names) :
    (entries.foldl (fun table entry => table.put entry.1 entry.2) table).entries =
      table.entries ++ entries := by
  induction entries generalizing table with
  | nil => exact (List.append_nil _).symm
  | cons entry rest ih =>
      obtain ⟨alone, nodupRest⟩ := List.nodup_cons.mp nodup
      have fresh : entry.1 ∉ table.names := apart entry.1 (.head _)
      have apartRest : ∀ name ∈ rest.map Prod.fst, name ∉ (table.put entry.1 entry.2).names := by
        intro name member inTable
        rcases mem_names_put.mp inTable with before | rfl
        · exact apart name (.tail _ member) before
        · exact alone member
      rw [List.foldl_cons, ih nodupRest apartRest, entries_put_of_fresh fresh, List.append_assoc]
      rfl

/-- Merging tables without common names keeps the entries of both in their order. -/
theorem entries_merge {other : OrderedTable α} (apart : ∀ name ∈ other.names, name ∉ table.names) :
    (table.merge other).entries = table.entries ++ other.entries :=
  entries_foldl_put other.nodup apart

end OrderedTable

end TextSchema
