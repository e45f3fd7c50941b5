import TextSchema.Proofs.Field.FormatCodec

/-!
# What formats keep

A format that is read and written back loses nothing but a point without digits behind
its width. The other way round, a format that is written and read back is the same format
exactly on a domain that can be told from its parts: no part continues the one before it.
-/

set_option autoImplicit false

namespace TextSchema.FieldFormat

open Decimal

/-! ## From text to text -/

/-- The alignment, the zero and the width at the start of a text, each as long as it can
be in front of the rest of the text. -/
inductive UpToWidth : List Char → List Char → Prop where
  | parts {fill align zero width rest} :
      KeepsAlignment fill align (zeroText zero ++ (width ++ rest)) →
      (zero = false → (width ++ rest).head? ≠ some '0') →
      Digits width → NoDigitFirst rest →
      UpToWidth (alignmentText fill align ++ (zeroText zero ++ width)) rest

theorem UpToWidth.afterWidth_eq {front rest : List Char} (upTo : UpToWidth front rest) :
    afterWidth (front ++ rest) = rest := by
  cases upTo with
  | parts aligned zeroed digits stops =>
      have alignment := splitAlignment_iff.mpr aligned
      have zero := splitZero_iff.mpr zeroed
      have width := splitDigits_iff.mpr ⟨digits, stops⟩
      simp only [afterWidth, List.append_assoc, alignment, zero, width]

/-- Up to its width, a format is written as it was read. -/
theorem exists_upToWidth {text : List Char} {format : FieldFormat} (found : split text = format) :
    ∃ front, UpToWidth front (afterWidth text) ∧ text = front ++ afterWidth text ∧
      format.render.toList =
        front ++ (precisionText format.precision.toList ++ format.typeName.toList) := by
  obtain ⟨afterAlign, afterZero, aligned, zeroed, wide, -⟩ := split_eq_iff.mp found
  generalize afterWidth text = rest at wide ⊢
  obtain rfl := eq_of_splitDigits wide
  obtain rfl := eq_of_splitZero zeroed
  obtain rfl := eq_of_splitAlignment aligned
  obtain ⟨digits, stops⟩ := digits_of_splitDigits wide
  refine ⟨_, .parts (splitAlignment_iff.mp aligned) (splitZero_iff.mp zeroed) digits stops, ?_, ?_⟩
  · simp only [List.append_assoc]
  · simp only [toList_render, afterAlignment, List.append_assoc]

/-- A text with a point right behind its width and no digit behind the point. -/
structure HasBarePoint (text front rest : List Char) : Prop where
  text_eq : text = front ++ '.' :: rest
  front_width : UpToWidth front ('.' :: rest)
  bare : NoDigitFirst rest

/-- Behind a bare point, all of the text is the type. -/
theorem HasBarePoint.parts {text front rest : List Char} {format : FieldFormat}
    (point : HasBarePoint text front rest) (found : split text = format) :
    afterWidth text = '.' :: rest ∧ format.precision.toList = [] ∧
      format.typeName.toList = rest := by
  obtain ⟨rfl, upTo, bare⟩ := point
  obtain ⟨_, _, _, _, _, precise⟩ := split_eq_iff.mp found
  have behind := upTo.afterWidth_eq
  have noDigits : splitDigits rest = ([], rest) :=
    splitDigits_iff.mpr ⟨List.forall_mem_nil _, bare⟩
  have parts : ([], rest) = (format.precision.toList, format.typeName.toList) := by
    simpa only [behind, splitPrecision, noDigits] using precise
  obtain ⟨precision, typeName⟩ := Prod.mk.inj parts
  exact ⟨behind, precision.symm, typeName.symm⟩

/-- A format that was read is written as it was read, except exactly where a bare point
stood behind the width. Then it is written without that point. -/
theorem render_eq_iff_of_read {text : String} {format : FieldFormat}
    (success : read text = .ok format) :
    (format.render = text ↔ ¬ ∃ front rest, HasBarePoint text.toList front rest) ∧
      ∀ front rest, HasBarePoint text.toList front rest →
        format.render.toList = front ++ rest := by
  obtain ⟨found, -⟩ := read_eq_ok_iff.mp success
  obtain ⟨front, upTo, whole, written⟩ := exists_upToWidth found
  have loses : ∀ other rest, HasBarePoint text.toList other rest →
      format.render.toList = other ++ rest := by
    intro other rest point
    obtain ⟨behind, noPrecision, typeName⟩ := point.parts found
    have sameText : front ++ '.' :: rest = other ++ '.' :: rest :=
      (behind ▸ whole).symm.trans point.text_eq
    have sameFront : front = other := List.append_cancel_right sameText
    simpa only [noPrecision, typeName, sameFront, precisionText, List.isEmpty_nil, if_true,
      List.nil_append] using written
  refine ⟨⟨?_, ?_⟩, loses⟩
  · -- Without its point, the text is shorter.
    rintro same ⟨other, rest, point⟩
    have lengths := congrArg List.length ((loses other rest point).symm.trans
      ((congrArg String.toList same).trans point.text_eq))
    simp at lengths
  · intro pointless
    refine render_of_split found fun point => ?_
    obtain ⟨rest, behind, bare⟩ := point
    exact pointless ⟨front, rest, behind ▸ whole, behind ▸ upTo, bare⟩

/-- The point between a width and a type is lost. -/
theorem render_of_bare_point :
    read "_>010.Number+" = .ok ⟨some '_', some '>', true, "10", "", "Number+"⟩ ∧
      HasBarePoint "_>010.Number+".toList "_>010".toList "Number+".toList ∧
      (render ⟨some '_', some '>', true, "10", "", "Number+"⟩).toList =
        "_>010".toList ++ "Number+".toList := by
  have success : read "_>010.Number+" = .ok ⟨some '_', some '>', true, "10", "", "Number+"⟩ := by
    decide +kernel
  have upTo : UpToWidth (alignmentText (some '_') (some '>') ++ (zeroText true ++ ['1', '0']))
      ('.' :: "Number+".toList) :=
    .parts (by decide +kernel) nofun (by decide +kernel) (by decide +kernel)
  have point : HasBarePoint "_>010.Number+".toList "_>010".toList "Number+".toList :=
    ⟨by decide +kernel, upTo, by decide +kernel⟩
  exact ⟨success, point, (render_eq_iff_of_read success).2 _ _ point⟩

/-! ## From format to format -/

/-- A format none of whose parts is read as part of another one. -/
structure Canonical (format : FieldFormat) : Prop where
  typed : format.typeName ≠ ""
  type_digit : NoDigitFirst format.typeName.toList
  type_point : format.precision = "" → format.typeName.toList.head? ≠ some '.'
  width_digits : Digits format.width.toList
  precision_digits : Digits format.precision.toList
  width_zero : format.zero = false → format.width.toList.head? ≠ some '0'
  fill_aligned : format.fill.isSome → format.align.isSome
  align_known : ∀ sign ∈ format.align, isAlignment sign = true
  align_alone : format.align.isSome → format.fill = none →
    ∀ next ∈ format.afterAlignment.head?, isAlignment next = false
  unaligned : format.align = none →
    ∀ next ∈ format.afterAlignment.take 2, isAlignment next = false

theorem keepsAlignment_iff {fill align : Option Char} {rest : List Char} :
    KeepsAlignment fill align rest ↔
      (fill.isSome → align.isSome) ∧ (∀ sign ∈ align, isAlignment sign = true) ∧
      (align.isSome → fill = none → ∀ next ∈ rest.head?, isAlignment next = false) ∧
      (align = none → ∀ next ∈ rest.take 2, isAlignment next = false) := by
  cases fill <;> cases align <;> simp [KeepsAlignment]

/-- What follows the width begins with the point of a precision or with the type. -/
theorem noDigitFirst_precisionText {precision typeName : List Char} :
    NoDigitFirst (precisionText precision ++ typeName) ↔
      (precision = [] → NoDigitFirst typeName) := by
  cases precision with
  | nil => simp [precisionText]
  | cons digit digits =>
      refine iff_of_true (fun next first => ?_) fun empty => (List.cons_ne_nil _ _ empty).elim
      obtain rfl : '.' = next := Option.some.inj first
      decide

theorem head?_append_ne_zero_iff {width rest : List Char} (stops : NoDigitFirst rest) :
    (width ++ rest).head? ≠ some '0' ↔ width.head? ≠ some '0' := by
  cases width with
  | cons digit digits => simp only [List.cons_append, List.head?_cons]
  | nil =>
      refine iff_of_true (fun zero => ?_) (Option.some_ne_none '0').symm
      have noDigit := stops '0' zero
      exact absurd noDigit (by decide)

theorem canonical_iff_split {format : FieldFormat} :
    format.Canonical ↔ split format.render.toList = format ∧ format.typeName ≠ "" := by
  constructor
  · intro canonical
    have stops := noDigitFirst_precisionText.mpr fun _ : format.precision.toList = [] =>
      canonical.type_digit
    have aligned : KeepsAlignment format.fill format.align format.afterAlignment :=
      keepsAlignment_iff.mpr ⟨canonical.fill_aligned, canonical.align_known,
        canonical.align_alone, canonical.unaligned⟩
    refine ⟨split_render_iff.mpr ⟨aligned, ?_, ⟨canonical.width_digits, stops⟩, ?_, ?_⟩,
      canonical.typed⟩
    · exact fun noZero => (head?_append_ne_zero_iff stops).mpr (canonical.width_zero noZero)
    · exact fun noPrecision => canonical.type_point (by simpa using noPrecision)
    · exact fun _ => ⟨canonical.precision_digits, canonical.type_digit⟩
  · rintro ⟨found, typed⟩
    obtain ⟨aligned, zeroed, ⟨wide, stops⟩, unpointed, precise⟩ := split_render_iff.mp found
    obtain ⟨filled, known, alone, unaligned⟩ := keepsAlignment_iff.mp aligned
    -- Without a precision the type stands right behind the width, and else behind the precision.
    have behind : Digits format.precision.toList ∧ NoDigitFirst format.typeName.toList := by
      by_cases noPrecision : format.precision.toList = []
      · exact ⟨noPrecision ▸ List.forall_mem_nil _, noDigitFirst_precisionText.mp stops noPrecision⟩
      · exact precise noPrecision
    exact {
      typed := typed
      type_digit := behind.2
      type_point := fun noPrecision => unpointed (by simpa using noPrecision)
      width_digits := wide
      precision_digits := behind.1
      width_zero := fun noZero => (head?_append_ne_zero_iff stops).mp (zeroed noZero)
      fill_aligned := filled
      align_known := known
      align_alone := alone
      unaligned := unaligned }

theorem render_ofType (typeName : String) : (ofType typeName).render = typeName :=
  String.toList_inj.mp (toList_render (ofType typeName))

theorem forall_mem_take_two {holds : Char → Prop} {text : List Char} :
    (∀ next ∈ text.take 2, holds next) ↔
      (∀ first ∈ text.head?, holds first) ∧ ∀ second ∈ text[1]?, holds second := by
  match text with
  | [] => simp
  | [first] => simp
  | first :: second :: rest => simp

theorem canonical_ofType_iff {typeName : String} :
    (ofType typeName).Canonical ↔
      typeName ≠ "" ∧ NoDigitFirst typeName.toList ∧ typeName.toList.head? ≠ some '.' ∧
        ∀ next ∈ typeName.toList.take 2, isAlignment next = false := by
  constructor
  · intro canonical
    exact ⟨canonical.typed, canonical.type_digit, canonical.type_point rfl,
      canonical.unaligned rfl⟩
  · rintro ⟨typed, digit, point, unaligned⟩
    exact {
      typed := typed
      type_digit := digit
      type_point := fun _ => point
      width_digits := List.forall_mem_nil _
      precision_digits := List.forall_mem_nil _
      width_zero := fun _ => nofun
      fill_aligned := nofun
      align_known := nofun
      align_alone := nofun
      unaligned := fun _ => unaligned }

/-- A format that is written and read back is the same exactly if it is canonical. So a
type name that is written alone is read as that type exactly if it begins with no digit,
point or alignment and has no alignment in the second place. -/
theorem read_render_iff_canonical :
    (∀ format : FieldFormat, read format.render = .ok format ↔ format.Canonical) ∧
      ∀ typeName : String, read typeName = .ok (ofType typeName) ↔
        typeName ≠ "" ∧
        (∀ first ∈ typeName.toList.head?,
          isAsciiDigit first = false ∧ first ≠ '.' ∧ isAlignment first = false) ∧
        ∀ second ∈ typeName.toList[1]?, isAlignment second = false := by
  have whole : ∀ format : FieldFormat, read format.render = .ok format ↔ format.Canonical :=
    fun format => read_eq_ok_iff.trans canonical_iff_split.symm
  refine ⟨whole, fun typeName => ?_⟩
  have alone := (whole (ofType typeName)).trans canonical_ofType_iff
  simp only [render_ofType, forall_mem_take_two] at alone
  refine alone.trans (and_congr_right fun _ => ?_)
  constructor
  · rintro ⟨digit, point, first, second⟩
    refine ⟨fun sign here => ⟨digit sign here, ?_, first sign here⟩, second⟩
    rintro rfl
    exact point here
  · rintro ⟨first, second⟩
    exact ⟨fun sign here => (first sign here).1, fun here => (first '.' here).2.1 rfl,
      fun sign here => (first sign here).2.2, second⟩

end TextSchema.FieldFormat
