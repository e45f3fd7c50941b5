import TextSchema.Logged

/-!
# Outcomes of computations

Computations that may fail, taken apart at their binds. The outcome of a logged
computation is the outcome of its steps, and noting an event changes no outcome.
-/

set_option autoImplicit false

namespace TextSchema

/-- A computation that succeeds went through all its steps. -/
theorem exists_of_bind_ok {ε α β : Type} {first : Except ε α} {next : α → Except ε β} {result : β}
    (success : first >>= next = .ok result) :
    ∃ middle, first = .ok middle ∧ next middle = .ok result := by
  cases first with
  | error flaw => cases success
  | ok middle => exact ⟨middle, rfl, success⟩

/-- A computation that fails does so in its first step or after it. -/
theorem or_of_bind_error {ε α β : Type} {first : Except ε α} {next : α → Except ε β} {flaw : ε}
    (fails : first >>= next = .error flaw) :
    first = .error flaw ∨ ∃ middle, first = .ok middle ∧ next middle = .error flaw := by
  cases first with
  | error other =>
      cases fails
      exact .inl rfl
  | ok middle => exact .inr ⟨middle, rfl, fails⟩

theorem eq_ok_of_mapError {ε δ α : Type} {convert : ε → δ} {outcome : Except ε α} {value : α}
    (success : outcome.mapError convert = .ok value) : outcome = .ok value := by
  cases outcome with
  | error flaw => cases success
  | ok result => exact congrArg Except.ok (Except.ok.inj success)

theorem exists_of_mapError {ε δ α : Type} {convert : ε → δ} {outcome : Except ε α} {flaw : δ}
    (fails : outcome.mapError convert = .error flaw) :
    ∃ fault, outcome = .error fault ∧ convert fault = flaw := by
  cases outcome with
  | error fault => exact ⟨fault, rfl, Except.error.inj fails⟩
  | ok value => cases fails

theorem exists_of_map_ok {ε α β : Type} {convert : α → β} {outcome : Except ε α} {result : β}
    (success : outcome.map convert = .ok result) :
    ∃ value, outcome = .ok value ∧ convert value = result := by
  cases outcome with
  | error flaw => cases success
  | ok value => exact ⟨value, rfl, Except.ok.inj success⟩

theorem exists_mapM_ok {ε α β : Type} {items : List α} {next : α → Except ε β}
    (each : ∀ item ∈ items, ∃ value, next item = .ok value) :
    ∃ values, items.mapM next = .ok values := by
  induction items with
  | nil => exact ⟨[], rfl⟩
  | cons item rest ih =>
      obtain ⟨⟨value, first⟩, others⟩ := List.forall_mem_cons.mp each
      obtain ⟨values, later⟩ := ih others
      refine ⟨value :: values, ?_⟩
      rw [List.mapM_cons, first, later]
      rfl

theorem mapM_congr {ε α β : Type} {items : List α} {first second : α → Except ε β}
    (same : ∀ item ∈ items, first item = second item) :
    items.mapM first = items.mapM second := by
  have steps := congrArg (List.mapM id) (List.map_congr_left same)
  simpa only [List.mapM_map, Function.id_comp] using steps

theorem mapM_of_ok {ε α β : Type} {items : List α} {next : α → Except ε β} {value : α → β}
    (each : ∀ item ∈ items, next item = .ok (value item)) :
    items.mapM next = .ok (items.map value) := by
  induction items with
  | nil => rfl
  | cons item rest ih =>
      obtain ⟨first, others⟩ := List.forall_mem_cons.mp each
      rw [List.mapM_cons, first, ih others]
      rfl

/-- The first step that fails decides how a loop over items fails. -/
theorem mapM_of_error {ε α β : Type} {before after : List α} {item : α} {next : α → Except ε β}
    {flaw : ε} (each : ∀ other ∈ before, ∃ value, next other = .ok value)
    (fails : next item = .error flaw) :
    (before ++ item :: after).mapM next = .error flaw := by
  induction before with
  | nil =>
      rw [List.nil_append, List.mapM_cons, fails]
      rfl
  | cons other rest ih =>
      obtain ⟨⟨value, first⟩, others⟩ := List.forall_mem_cons.mp each
      rw [List.cons_append, List.mapM_cons, first, ih others]
      rfl

theorem length_of_mapM_ok {ε α β : Type} {items : List α} {next : α → Except ε β}
    {values : List β} (success : items.mapM next = .ok values) : values.length = items.length := by
  induction items generalizing values with
  | nil =>
      cases success
      rfl
  | cons item rest ih =>
      rw [List.mapM_cons] at success
      obtain ⟨value, _, further⟩ := exists_of_bind_ok success
      obtain ⟨others, later, same⟩ := exists_of_bind_ok further
      cases same
      exact congrArg (· + 1) (ih later)

/-- A loop that fails does so in one of its steps. -/
theorem exists_of_foldlM_error {ε σ α : Type} {step : σ → α → Except ε σ} {items : List α}
    {start : σ} {flaw : ε} (fails : items.foldlM step start = .error flaw) :
    ∃ item ∈ items, ∃ state, step state item = .error flaw := by
  induction items generalizing start with
  | nil => cases fails
  | cons item rest ih =>
      rw [List.foldlM_cons] at fails
      rcases or_of_bind_error fails with first | ⟨next, _, failsLater⟩
      · exact ⟨item, .head _, start, first⟩
      · obtain ⟨later, member, state, here⟩ := ih failsLater
        exact ⟨later, .tail _ member, state, here⟩

namespace Attempt

variable {ε α β : Type}

@[simp] theorem result_pure (value : α) : (pure value : Attempt ε α).result = .ok value := rfl

@[simp] theorem result_ofExcept (outcome : Except ε α) : (ofExcept outcome).result = outcome := rfl

@[simp] theorem result_note (event : Event) : (note event : Attempt ε Unit).result = .ok () := rfl

@[simp] theorem result_lift (step : Logged α) :
    result (ExceptT.lift step : Attempt ε α) = .ok step.value := rfl

@[simp] theorem result_throw (flaw : ε) : result (throw flaw : Attempt ε α) = .error flaw := rfl

@[simp] theorem result_bind (first : Attempt ε α) (next : α → Attempt ε β) :
    (first >>= next).result = first.result >>= fun value => (next value).result := by
  unfold result
  rw [ExceptT.run_bind, Logged.value_bind]
  cases first.run.value <;> rfl

end Attempt

@[simp] theorem Building.result_ofDecode {α : Type} (outcome : Except DecodeError α) :
    (Building.ofDecode outcome).result = outcome.mapError .decode := rfl

end TextSchema
