import Mathlib.Data.List.TakeWhile
import TextSchema.Field

/-!
# Fields read and written

A text is a field exactly if it stands between two braces and has no other ones. The first
colon in it ends the name, so a name has none. A field is written as it was read, but for a
colon with no format behind it, and what is written is read as the same field.
-/

set_option autoImplicit false

namespace TextSchema.Field

/-! ## Fields and their text -/

/-- The parts of a field that its text still tells apart. -/
structure WellFormed (field : Field) : Prop where
  name_colon : ':' ∉ field.name.toList
  name_braces : ∀ char ∈ field.name.toList, isBrace char = false
  format_braces : ∀ char ∈ field.format.toList, isBrace char = false

instance : DecidablePred WellFormed := fun field =>
  decidable_of_iff
    (':' ∉ field.name.toList ∧ field.name.toList.any isBrace = false ∧
      field.format.toList.any isBrace = false)
    ⟨fun ⟨colon, name, format⟩ => ⟨colon, by simpa using name, by simpa using format⟩,
      fun ⟨colon, name, format⟩ => ⟨colon, by simpa using name, by simpa using format⟩⟩

/-- What a field writes between its braces. -/
def inner (field : Field) : List Char :=
  if field.isTyped then field.name.toList ++ ':' :: field.format.toList else field.name.toList

theorem toList_render (field : Field) :
    field.render.toList = '\x7B' :: (field.inner ++ ['\x7D']) := by
  unfold render inner
  split <;> simp

theorem ofInner_of_colon {name : List Char} (format : List Char) (absent : ':' ∉ name) :
    ofInner (name ++ ':' :: format) = ⟨String.ofList name, String.ofList format⟩ := by
  have passed : ∀ char ∈ name, (char != ':') = true := by
    intro char member
    simpa using fun same : char = ':' => absent (same ▸ member)
  rw [ofInner, List.dropWhile_append_of_pos passed, List.takeWhile_append_of_pos passed]
  simp

theorem ofInner_of_no_colon {name : List Char} (absent : ':' ∉ name) :
    ofInner name = named (String.ofList name) := by
  have passed : name.dropWhile (· != ':') = [] := by
    rw [List.dropWhile_eq_nil_iff]
    intro char member
    simpa using fun same : char = ':' => absent (same ▸ member)
  rw [ofInner, passed]

theorem WellFormed.ofInner_inner {field : Field} (wellFormed : field.WellFormed) :
    ofInner field.inner = field := by
  unfold inner
  split
  · rw [ofInner_of_colon _ wellFormed.name_colon, String.ofList_toList, String.ofList_toList]
  · rename_i untyped
    have empty : field.format = "" := by simpa [isTyped] using untyped
    rw [ofInner_of_no_colon wellFormed.name_colon, String.ofList_toList, named, ← empty]

theorem WellFormed.inner_braces {field : Field} (wellFormed : field.WellFormed) :
    ∀ char ∈ field.inner, isBrace char = false := by
  intro char member
  unfold inner at member
  split at member
  · rw [List.mem_append, List.mem_cons] at member
    obtain inName | rfl | inFormat := member
    · exact wellFormed.name_braces char inName
    · rfl
    · exact wellFormed.format_braces char inFormat
  · exact wellFormed.name_braces char member

theorem wellFormed_ofInner {inner : List Char} (unbraced : ∀ char ∈ inner, isBrace char = false) :
    (ofInner inner).WellFormed := by
  by_cases colon : ':' ∈ inner
  · obtain ⟨name, format, rfl, absent⟩ := List.eq_append_cons_of_mem colon
    rw [ofInner_of_colon format absent]
    refine ⟨?_, ?_, ?_⟩
    · rwa [String.toList_ofList]
    · rw [String.toList_ofList]
      exact fun char member => unbraced char (List.mem_append_left _ member)
    · rw [String.toList_ofList]
      exact fun char member => unbraced char (List.mem_append_right _ (.tail _ member))
  · rw [ofInner_of_no_colon colon, named]
    refine ⟨?_, ?_, ?_⟩
    · rwa [String.toList_ofList]
    · rwa [String.toList_ofList]
    · exact fun char member => nomatch member

/-! ## Reading -/

theorem inner?_eq_some_iff {text inner : List Char} :
    inner? text = some inner ↔ text = '\x7B' :: (inner ++ ['\x7D']) := by
  constructor
  · intro found
    unfold inner? at found
    split at found
    · rename_i rest
      split at found
      · rename_i closed
        cases found
        obtain ⟨between, rfl⟩ := List.getLast?_eq_some_iff.mp closed
        rw [List.dropLast_concat]
      · cases found
    · cases found
  · rintro rfl
    simp [inner?]

/-- Text between braces is a field exactly if it has no brace of its own. -/
theorem read_braced (inner : List Char) :
    read (String.ofList ('\x7B' :: (inner ++ ['\x7D']))) =
      if inner.any isBrace then
        .error (.invalidField (String.ofList ('\x7B' :: (inner ++ ['\x7D']))))
      else .ok (ofInner inner) := by
  rw [read, String.toList_ofList, inner?_eq_some_iff.mpr rfl]

theorem read_eq_ok_iff {text : String} {field : Field} :
    read text = .ok field ↔ ∃ inner : List Char, text.toList = '\x7B' :: (inner ++ ['\x7D']) ∧
      (∀ char ∈ inner, isBrace char = false) ∧ ofInner inner = field := by
  unfold read
  constructor
  · intro success
    split at success
    · rename_i inner between
      split at success
      · cases success
      · rename_i unbraced
        exact ⟨inner, inner?_eq_some_iff.mp between, by simpa using unbraced, Except.ok.inj success⟩
    · cases success
  · rintro ⟨inner, whole, unbraced, rfl⟩
    have noBrace : inner.any isBrace = false := by simpa using unbraced
    rw [inner?_eq_some_iff.mpr whole]
    simp only [noBrace, Bool.false_eq_true, if_false]

theorem forall_unbraced_iff {inner : List Char} :
    (∀ char ∈ inner, isBrace char = false) ↔ '\x7B' ∉ inner ∧ '\x7D' ∉ inner := by
  constructor
  · intro unbraced
    constructor
    · intro opening
      cases unbraced _ opening
    · intro closing
      cases unbraced _ closing
  · rintro ⟨noOpening, noClosing⟩ char member
    rw [isBrace, Bool.or_eq_false_iff, beq_eq_false_iff_ne, beq_eq_false_iff_ne]
    exact ⟨ne_of_mem_of_not_mem member noOpening, ne_of_mem_of_not_mem member noClosing⟩

theorem exists_read_iff {text : String} :
    (∃ field, read text = .ok field) ↔
      ∃ inner : String, text = "\x7B" ++ inner ++ "\x7D" ∧
        '\x7B' ∉ inner.toList ∧ '\x7D' ∉ inner.toList := by
  have braced : ∀ inner : String, text = "\x7B" ++ inner ++ "\x7D" ↔
      text.toList = '\x7B' :: (inner.toList ++ ['\x7D']) := by
    intro inner
    rw [← String.toList_inj, String.toList_append, String.toList_append]
    rfl
  simp only [read_eq_ok_iff, forall_unbraced_iff, braced]
  constructor
  · rintro ⟨_, inner, whole, unbraced, -⟩
    refine ⟨String.ofList inner, ?_⟩
    rw [String.toList_ofList]
    exact ⟨whole, unbraced⟩
  · rintro ⟨inner, whole, unbraced⟩
    exact ⟨_, inner.toList, whole, unbraced, rfl⟩

theorem eq_invalidField_of_read {text : String} {flaw : BuildError}
    (fails : read text = .error flaw) : flaw = .invalidField text := by
  unfold read at fails
  split at fails
  · split at fails <;> cases fails
    rfl
  · cases fails
    rfl

theorem WellFormed.read_render {field : Field} (wellFormed : field.WellFormed) :
    read field.render = .ok field :=
  read_eq_ok_iff.mpr
    ⟨field.inner, field.toList_render, wellFormed.inner_braces, wellFormed.ofInner_inner⟩

/-! ## Writing what was read -/

/-- The first colon of a text is right before the closing brace, with the given text in
front of it. -/
def BareColon (text front : List Char) : Prop :=
  text = front ++ [':', '\x7D'] ∧ ':' ∉ front

theorem inner_ofInner_of_bare {name : List Char} (absent : ':' ∉ name) :
    (ofInner (name ++ [':'])).inner = name := by
  rw [ofInner_of_colon [] absent]
  simp [inner, isTyped]

theorem inner_ofInner {between : List Char}
    (kept : ∀ name : List Char, ':' ∉ name → between ≠ name ++ [':']) :
    (ofInner between).inner = between := by
  by_cases colon : ':' ∈ between
  · obtain ⟨name, format, rfl, absent⟩ := List.eq_append_cons_of_mem colon
    have typed : format ≠ [] := by
      rintro rfl
      exact kept name absent rfl
    rw [ofInner_of_colon format absent]
    simp [inner, isTyped, typed]
  · rw [ofInner_of_no_colon colon]
    simp [inner, isTyped, named]

/-- A bare colon between braces is the last character there. -/
theorem bareColon_iff {between front : List Char} :
    BareColon ('\x7B' :: (between ++ ['\x7D'])) front ↔
      ∃ name, front = '\x7B' :: name ∧ between = name ++ [':'] ∧ ':' ∉ name := by
  constructor
  · rintro ⟨whole, absent⟩
    have closed : '\x7B' :: between ++ ['\x7D'] = front ++ [':'] ++ ['\x7D'] := by
      rw [List.append_assoc]
      exact whole
    have opened : '\x7B' :: between = front ++ [':'] := List.append_cancel_right closed
    cases front with
    | nil =>
        obtain ⟨sign, -⟩ := List.cons.inj opened
        cases sign
    | cons char name =>
        cases opened
        exact ⟨name, rfl, rfl, fun member => absent (.tail _ member)⟩
  · rintro ⟨name, rfl, rfl, absent⟩
    refine ⟨by simp, ?_⟩
    simpa using absent

section

variable {text : String} {field : Field} (success : read text = .ok field)

include success

theorem render_of_bareColon {front : List Char} (bare : BareColon text.toList front) :
    field.render = String.ofList (front ++ ['\x7D']) := by
  obtain ⟨between, whole, -, rfl⟩ := read_eq_ok_iff.mp success
  rw [whole] at bare
  obtain ⟨name, rfl, rfl, absent⟩ := bareColon_iff.mp bare
  rw [← String.toList_inj, toList_render, inner_ofInner_of_bare absent, String.toList_ofList]
  rfl

theorem render_of_no_bareColon (kept : ¬ ∃ front, BareColon text.toList front) :
    field.render = text := by
  obtain ⟨between, whole, -, rfl⟩ := read_eq_ok_iff.mp success
  have written : (ofInner between).inner = between := by
    refine inner_ofInner fun name absent ends => kept ⟨'\x7B' :: name, ?_⟩
    rw [whole, bareColon_iff]
    exact ⟨name, rfl, ends, absent⟩
  rw [← String.toList_inj, toList_render, written, whole]

end

/-- The texts that are fields, and that all others are refused as they are. The name that is
read has no colon, the field is read again from what it is written as, and it is written as
it was read except exactly where a bare colon is lost. -/
theorem read_outcome (text : String) :
    ((∃ field, read text = .ok field) ↔
      ∃ inner : String, text = "\x7B" ++ inner ++ "\x7D" ∧
        '\x7B' ∉ inner.toList ∧ '\x7D' ∉ inner.toList) ∧
    (∀ flaw, read text = .error flaw → flaw = .invalidField text) ∧
    ∀ field, read text = .ok field →
      ':' ∉ field.name.toList ∧ read field.render = .ok field ∧
      (field.render = text ↔ ¬ ∃ front, BareColon text.toList front) ∧
      ∀ front, BareColon text.toList front → field.render = String.ofList (front ++ ['\x7D']) := by
  refine ⟨exists_read_iff, fun flaw => eq_invalidField_of_read, fun field success => ?_⟩
  obtain ⟨between, -, unbraced, made⟩ := read_eq_ok_iff.mp success
  have wellFormed : field.WellFormed := made ▸ wellFormed_ofInner unbraced
  refine ⟨wellFormed.name_colon, wellFormed.read_render, ⟨?_, render_of_no_bareColon success⟩,
    fun front => render_of_bareColon success⟩
  -- Without its colon, the text is shorter.
  rintro same ⟨front, bare⟩
  have lengths := congrArg String.length ((render_of_bareColon success bare).symm.trans same)
  rw [← String.length_toList, ← String.length_toList, bare.1] at lengths
  simp at lengths

/-- A field without format loses its colon, and a text with three braces is no field. -/
theorem read_outcome_of_bare :
    read "\x7Bkey:\x7D" = .ok (named "key") ∧
      BareColon "\x7Bkey:\x7D".toList "\x7Bkey".toList ∧
      (named "key").render = String.ofList ("\x7Bkey".toList ++ ['\x7D']) ∧
      read "\x7Ba\x7Bb\x7D" = .error (.invalidField "\x7Ba\x7Bb\x7D") := by
  have success : read "\x7Bkey:\x7D" = .ok (named "key") := by decide +kernel
  have bare : BareColon "\x7Bkey:\x7D".toList "\x7Bkey".toList :=
    ⟨by decide +kernel, by decide +kernel⟩
  obtain ⟨-, -, outcome⟩ := read_outcome "\x7Bkey:\x7D"
  obtain ⟨-, -, -, loses⟩ := outcome _ success
  obtain ⟨flaw, refused⟩ : ∃ flaw, read "\x7Ba\x7Bb\x7D" = .error flaw := ⟨_, rfl⟩
  have named := (read_outcome "\x7Ba\x7Bb\x7D").2.1 flaw refused
  exact ⟨success, bare, loses _ bare, named ▸ refused⟩

end TextSchema.Field
