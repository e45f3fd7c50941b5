import Mathlib.Data.List.Chain
import TextSchema.Proofs.Field.FieldCodec
import TextSchema.Proofs.Schema.FieldScan

/-!
# Schemas written back

Segments are written as a schema by doubling the braces of literals and writing fields
between braces. What is written is cut into the same segments again as long as no literal
is empty, no two literals meet and the parts of a field do not end it early. The segments of
every schema are of this kind.
-/

set_option autoImplicit false

namespace TextSchema

namespace Schema

/-! ## Segments -/

def Segment.isLiteral : Segment → Bool
  | .literal _ => true
  | .field _ => false

def Segment.WellFormed : Segment → Prop
  | .literal text => text ≠ ""
  | .field slot => slot.WellFormed

instance : DecidablePred Segment.WellFormed := fun segment =>
  match segment with
  | .literal text => inferInstanceAs (Decidable (text ≠ ""))
  | .field slot => inferInstanceAs (Decidable slot.WellFormed)

/-- Not both are literals. -/
def Apart (first second : Segment) : Prop :=
  (first.isLiteral && second.isLiteral) = false

instance (first second : Segment) : Decidable (Apart first second) :=
  inferInstanceAs (Decidable ((first.isLiteral && second.isLiteral) = false))

structure WellFormed (segments : List Segment) : Prop where
  each : ∀ segment ∈ segments, segment.WellFormed
  apart : segments.IsChain Apart

instance : DecidablePred WellFormed := fun segments =>
  decidable_of_iff
    ((∀ segment ∈ segments, segment.WellFormed) ∧ segments.IsChain Apart)
    ⟨fun ⟨each, apart⟩ => ⟨each, apart⟩, fun ⟨each, apart⟩ => ⟨each, apart⟩⟩

/-- Literal text as it stands in a schema. -/
def doubled (text : List Char) : List Char :=
  text.flatMap fun char => if Field.isBrace char then [char, char] else [char]

def Segment.render : Segment → String
  | .literal text => String.ofList (doubled text.toList)
  | .field slot => slot.render

def render : List Segment → String
  | [] => ""
  | segment :: rest => segment.render ++ render rest

theorem wellFormed_nil : WellFormed [] :=
  ⟨fun _ member => (List.not_mem_nil member).elim, List.IsChain.nil⟩

theorem wellFormed_cons {segment : Segment} {rest : List Segment} :
    WellFormed (segment :: rest) ↔
      segment.WellFormed ∧ (∀ next ∈ rest.head?, Apart segment next) ∧ WellFormed rest := by
  constructor
  · intro wellFormed
    obtain ⟨each, apart⟩ := wellFormed
    rw [List.forall_mem_cons] at each
    rw [List.isChain_cons] at apart
    exact ⟨each.1, apart.1, each.2, apart.2⟩
  · intro given
    obtain ⟨first, apart, each, chain⟩ := given
    exact ⟨List.forall_mem_cons.mpr ⟨first, each⟩, List.isChain_cons.mpr ⟨apart, chain⟩⟩

theorem wellFormed_field {slot : Field} {rest : List Segment} :
    WellFormed (.field slot :: rest) ↔ slot.WellFormed ∧ WellFormed rest := by
  rw [wellFormed_cons]
  exact ⟨fun ⟨first, _, later⟩ => ⟨first, later⟩, fun ⟨first, later⟩ => ⟨first, fun _ _ => rfl, later⟩⟩

theorem wellFormed_pushLiteral {segments : List Segment} (wellFormed : WellFormed segments)
    (char : Char) : WellFormed (pushLiteral char segments) := by
  unfold pushLiteral
  split
  · rename_i text rest
    obtain ⟨_, apart, later⟩ := wellFormed_cons.mp wellFormed
    refine wellFormed_cons.mpr ⟨?_, apart, later⟩
    simp [Segment.WellFormed, ← String.toList_inj]
  · rename_i noLiteral
    refine wellFormed_cons.mpr ⟨?_, ?_, wellFormed⟩
    · simp [Segment.WellFormed, ← String.toList_inj]
    · intro next first
      cases next with
      | literal text =>
          obtain ⟨rest, same⟩ := List.head?_eq_some_iff.mp first
          exact absurd same (noLiteral text rest)
      | field _ => rfl

/-! ## One segment at a time -/

theorem fieldAt?_of_ne {char : Char} (other : char ≠ '\x7B') (rest : List Char) :
    fieldAt? (char :: rest) = none :=
  fieldAt?_of_unbraced (braced?_of_ne other rest)

theorem startsDoubled_of_other {char : Char} (other : Field.isBrace char = false)
    (rest : List Char) : startsDoubled (char :: rest) = false := by
  cases rest with
  | nil => rfl
  | cons second rest => rw [startsDoubled, other, Bool.false_and]

/-- Literal text is read character by character, whatever follows it. -/
theorem segmentsFrom_doubled (text rest : List Char) :
    segmentsFrom 0 (doubled text ++ rest) = text.foldr pushLiteral (segmentsFrom 0 rest) := by
  induction text with
  | nil => rfl
  | cons char text ih =>
      rw [List.foldr_cons, ← ih]
      cases brace : Field.isBrace char with
      | true =>
          have written : doubled (char :: text) = char :: char :: doubled text := by
            simp [doubled, brace]
          have twice : startsDoubled (char :: char :: (doubled text ++ rest)) = true := by
            simp [startsDoubled, brace]
          rw [written, List.cons_append, List.cons_append, segmentsFrom, if_pos twice, segmentsFrom]
      | false =>
          have written : doubled (char :: text) = char :: doubled text := by
            simp [doubled, brace]
          have noField : char ≠ '\x7B' := by
            rintro rfl
            cases brace
          rw [written, List.cons_append, segmentsFrom, startsDoubled_of_other brace,
            fieldAt?_of_ne noField, if_neg Bool.false_ne_true]

/-- Characters of a literal come together as one segment unless a literal follows. -/
theorem foldr_pushLiteral {text : List Char} (nonempty : text ≠ []) {rest : List Segment}
    (noLiteral : ∀ next ∈ rest.head?, next.isLiteral = false) :
    text.foldr pushLiteral rest = .literal (String.ofList text) :: rest := by
  induction text with
  | nil => exact absurd rfl nonempty
  | cons char text ih =>
      rw [List.foldr_cons]
      cases text with
      | nil =>
          rw [List.foldr_nil, pushLiteral]
          · rfl
          · rintro other later rfl
            cases noLiteral _ rfl
      | cons second text =>
          rw [ih (List.cons_ne_nil _ _), pushLiteral, String.singleton_eq_ofList,
            ← String.ofList_append, List.singleton_append]

theorem fieldAt?_braced {inner : List Char} (unbraced : ∀ char ∈ inner, Field.isBrace char = false)
    (rest : List Char) :
    fieldAt? ('\x7B' :: (inner ++ '\x7D' :: rest)) = some (Field.ofInner inner, inner.length + 2) := by
  have first : '\x7D' ∉ inner := fun member => nomatch unbraced _ member
  have noBrace : inner.any Field.isBrace = false := by
    rw [List.any_eq_false]
    intro char member
    rw [unbraced char member]
    exact Bool.false_ne_true
  have braced : braced? ('\x7B' :: (inner ++ '\x7D' :: rest)) =
      some ('\x7B' :: (inner ++ ['\x7D'])) := by
    rw [braced?_brace, if_pos (by simp), takeWhile_closing first]
    rfl
  have length : ('\x7B' :: (inner ++ ['\x7D'])).length = inner.length + 2 := by simp
  rw [fieldAt?, braced]
  dsimp only [bind, Option.bind]
  rw [Field.read_braced, noBrace, if_neg Bool.false_ne_true, length]

theorem wellFormed_of_fieldAt? {text : List Char} {slot : Field} {length : Nat}
    (found : fieldAt? text = some (slot, length)) : slot.WellFormed := by
  unfold fieldAt? at found
  obtain ⟨candidate, braced, found⟩ := Option.bind_eq_some_iff.mp found
  obtain ⟨inner, after, rfl, _, rfl⟩ := exists_of_braced? braced
  rw [Field.read_braced] at found
  by_cases brace : inner.any Field.isBrace = true
  · rw [if_pos brace] at found
    cases found
  · rw [if_neg brace] at found
    cases found
    apply Field.wellFormed_ofInner
    simpa using brace

theorem segmentsFrom_skip (skip : Nat) (text : List Char) :
    segmentsFrom skip text = segmentsFrom 0 (text.drop skip) := by
  induction skip generalizing text with
  | zero => rfl
  | succ skip ih =>
      cases text with
      | nil => rfl
      | cons char rest => exact ih rest

theorem segmentsFrom_field {slot : Field} (wellFormed : slot.WellFormed) (rest : List Char) :
    segmentsFrom 0 (slot.render.toList ++ rest) = .field slot :: segmentsFrom 0 rest := by
  have single : startsDoubled ('\x7B' :: (slot.inner ++ '\x7D' :: rest)) = false := by
    cases shape : slot.inner with
    | nil => rfl
    | cons char inner =>
        have other := wellFormed.inner_braces char (shape ▸ List.mem_cons_self)
        rw [List.cons_append, startsDoubled, Bool.and_eq_false_iff]
        right
        rw [beq_eq_false_iff_ne]
        rintro rfl
        cases other
  rw [Field.toList_render, List.cons_append, List.append_assoc, List.singleton_append,
    segmentsFrom, single, if_neg Bool.false_ne_true, fieldAt?_braced wellFormed.inner_braces,
    wellFormed.ofInner_inner]
  dsimp only
  rw [segmentsFrom_skip, Nat.add_sub_assoc (by decide), ← List.drop_drop, List.drop_left]
  rfl

/-! ## Whole schemas -/

theorem segmentsFrom_render {parts : List Segment} (wellFormed : WellFormed parts) :
    segmentsFrom 0 (render parts).toList = parts := by
  induction parts with
  | nil => rfl
  | cons part rest ih =>
      obtain ⟨first, apart, later⟩ := wellFormed_cons.mp wellFormed
      rw [render, String.toList_append]
      cases part with
      | literal text =>
          have nonempty : text.toList ≠ [] := by simpa [Segment.WellFormed] using first
          rw [Segment.render, String.toList_ofList, segmentsFrom_doubled, ih later,
            foldr_pushLiteral nonempty apart, String.ofList_toList]
      | field slot => rw [Segment.render, segmentsFrom_field first, ih later]

theorem wellFormed_segmentsFrom (skip : Nat) (text : List Char) :
    WellFormed (segmentsFrom skip text) := by
  induction text generalizing skip with
  | nil => cases skip <;> exact wellFormed_nil
  | cons char rest ih =>
      cases skip with
      | succ skip => exact ih skip
      | zero =>
          rw [segmentsFrom]
          split
          · exact wellFormed_pushLiteral (ih 1) char
          · split
            · rename_i found
              exact wellFormed_field.mpr ⟨wellFormed_of_fieldAt? found, ih _⟩
            · exact wellFormed_pushLiteral (ih 0) char

/-- Cutting undoes writing for well-formed segments and for no others. The fields of what is
written are those of the segments, by characters and by bytes. The segments of every schema
are well formed, so a schema that was written from them is cut into the same ones. -/
theorem segments_render :
    (∀ parts : List Segment, segments (render parts) = parts ↔ WellFormed parts) ∧
      (∀ parts : List Segment, WellFormed parts →
        fields (render parts) = fieldsOf parts ∧
          fieldsFromByte? (render parts) 0 = some (fieldsOf parts)) ∧
      ∀ schema : String, WellFormed (segments schema) ∧
        segments (render (segments schema)) = segments schema := by
  have wellFormed : ∀ schema : String, WellFormed (segments schema) :=
    fun schema => wellFormed_segmentsFrom 0 schema.toList
  have cut : ∀ parts : List Segment, WellFormed parts → segments (render parts) = parts :=
    fun parts => segmentsFrom_render
  refine ⟨fun parts => ⟨fun same => same ▸ wellFormed (render parts), cut parts⟩, ?_,
    fun schema => ⟨wellFormed schema, cut _ (wellFormed schema)⟩⟩
  intro parts given
  have scanned : fields (render parts) = fieldsOf parts := by
    rw [fields, ← fieldsOf_segmentsFrom, ← segments, cut parts given]
  have walked := fieldsFromByte?_eq "" (render parts).toList
  rw [String.empty_append, String.ofList_toList, ← fields, scanned] at walked
  exact ⟨scanned, walked⟩

theorem segments_render_of_braces :
    WellFormed [.literal "a\x7B", .field ⟨"", "d"⟩, .field (.named "x"), .literal "\x7D"] ∧
      segments "a\x7B\x7B\x7B:d\x7D\x7Bx\x7D\x7D\x7D" =
        [.literal "a\x7B", .field ⟨"", "d"⟩, .field (.named "x"), .literal "\x7D"] ∧
      fieldsFromByte? "a\x7B\x7B\x7B:d\x7D\x7Bx\x7D\x7D\x7D" 0 =
        some [.typed "d", .named "x"] := by
  have wellFormed : WellFormed
      [.literal "a\x7B", .field ⟨"", "d"⟩, .field (.named "x"), .literal "\x7D"] := by decide
  exact ⟨wellFormed, (segments_render.1 _).mpr wellFormed, (segments_render.2.1 _ wellFormed).2⟩

end Schema

end TextSchema
