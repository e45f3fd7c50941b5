import Mathlib.Data.List.TakeWhile
import TextSchema.Field.Format

/-!
# Formats written and read again

A format is read part by part, and each part is found again exactly if what is written
behind it does not continue it. What is read is written back but for one character: a point
without digits, which is passed over. Where such a point was lost, the parts around it may
meet and be read differently.
-/

set_option autoImplicit false

namespace TextSchema.FieldFormat

open Decimal

/-! ## Parts as text -/

def alignmentText (fill align : Option Char) : List Char :=
  match align with
  | some sign => fill.toList ++ [sign]
  | none => []

def zeroText (zero : Bool) : List Char :=
  if zero then ['0'] else []

def precisionText (precision : List Char) : List Char :=
  if precision.isEmpty then [] else '.' :: precision

/-- What a format writes behind its alignment. -/
def afterAlignment (format : FieldFormat) : List Char :=
  zeroText format.zero ++ (format.width.toList ++
    (precisionText format.precision.toList ++ format.typeName.toList))

theorem toList_render (format : FieldFormat) :
    format.render.toList = alignmentText format.fill format.align ++ format.afterAlignment := by
  have zeroed : (if format.zero then "0" else "").toList = zeroText format.zero := by
    cases format.zero <;> rfl
  have precise : (if format.precision.isEmpty then "" else "." ++ format.precision).toList =
      precisionText format.precision.toList := by
    by_cases empty : format.precision = ""
    · rw [empty]
      rfl
    · have nonempty : format.precision.toList ≠ [] := by simpa using empty
      simp [precisionText, empty, nonempty]
  simp only [render, afterAlignment, String.toList_append, zeroed, precise, List.append_assoc]
  cases format.align <;> simp [alignmentText]

/-! ## Stages of reading -/

/-- No sign in a text written behind an alignment, or behind none, is read as part of it. -/
def KeepsAlignment (fill align : Option Char) (rest : List Char) : Prop :=
  match fill, align with
  | some _, some sign => isAlignment sign = true
  | none, some sign => isAlignment sign = true ∧ ∀ next ∈ rest.head?, isAlignment next = false
  | none, none => ∀ next ∈ rest.take 2, isAlignment next = false
  | some _, none => False

instance (fill align : Option Char) (rest : List Char) : Decidable (KeepsAlignment fill align rest) :=
  match fill, align with
  | some _, some sign => inferInstanceAs (Decidable (isAlignment sign = true))
  | none, some _ => @instDecidableAnd _ _ inferInstance rest.head?.decidableForallMem
  | none, none => List.decidableBAll (isAlignment · = false) (rest.take 2)
  | some _, none => inferInstanceAs (Decidable False)

def NoDigitFirst (text : List Char) : Prop :=
  ∀ next ∈ text.head?, isAsciiDigit next = false

instance : DecidablePred NoDigitFirst := fun text => text.head?.decidableForallMem

def Digits (text : List Char) : Prop :=
  ∀ char ∈ text, isAsciiDigit char = true

instance : DecidablePred Digits := fun text => List.decidableBAll (isAsciiDigit · = true) text

theorem eq_of_splitAlignment {text rest : List Char} {fill align : Option Char}
    (found : splitAlignment text = (fill, align, rest)) :
    text = alignmentText fill align ++ rest := by
  unfold splitAlignment at found
  repeat' split at found
  all_goals cases found
  all_goals rfl

theorem splitAlignment_iff {fill align : Option Char} {rest : List Char} :
    splitAlignment (alignmentText fill align ++ rest) = (fill, align, rest) ↔
      KeepsAlignment fill align rest := by
  cases align with
  | none =>
      cases fill with
      | some filler =>
          refine ⟨fun found => ?_, fun never => never.elim⟩
          have same := eq_of_splitAlignment found
          unfold splitAlignment at found
          repeat' split at found
          all_goals cases found
      | none =>
          match rest with
          | [] => simp [alignmentText, splitAlignment, KeepsAlignment]
          | [single] => cases sign : isAlignment single <;>
              simp [alignmentText, splitAlignment, KeepsAlignment, sign]
          | first :: second :: rest =>
              cases firstSign : isAlignment first <;> cases secondSign : isAlignment second <;>
                simp [alignmentText, splitAlignment, KeepsAlignment, firstSign, secondSign]
  | some sign =>
      cases fill with
      | some filler =>
          cases known : isAlignment sign <;> cases fillSign : isAlignment filler <;>
            simp [alignmentText, splitAlignment, KeepsAlignment, known, fillSign]
      | none =>
          cases rest with
          | nil => cases known : isAlignment sign <;>
              simp [alignmentText, splitAlignment, KeepsAlignment, known]
          | cons next rest =>
              cases known : isAlignment sign <;> cases nextSign : isAlignment next <;>
                simp [alignmentText, splitAlignment, KeepsAlignment, known, nextSign]

theorem eq_of_splitZero {text rest : List Char} {zero : Bool}
    (found : splitZero text = (zero, rest)) : text = zeroText zero ++ rest := by
  unfold splitZero at found
  split at found <;> cases found <;> rfl

theorem splitZero_iff {zero : Bool} {rest : List Char} :
    splitZero (zeroText zero ++ rest) = (zero, rest) ↔ (zero = false → rest.head? ≠ some '0') := by
  cases zero with
  | true => simp [zeroText, splitZero]
  | false =>
      rw [zeroText, if_neg Bool.false_ne_true, List.nil_append]
      unfold splitZero
      split
      · simp
      · rename_i other
        refine ⟨fun _ _ first => ?_, fun _ => rfl⟩
        obtain ⟨later, same⟩ := List.head?_eq_some_iff.mp first
        exact other later same

theorem eq_of_splitDigits {text digits rest : List Char}
    (found : splitDigits text = (digits, rest)) : text = digits ++ rest := by
  cases found
  exact List.takeWhile_append_dropWhile.symm

theorem splitDigits_iff {digits rest : List Char} :
    splitDigits (digits ++ rest) = (digits, rest) ↔ Digits digits ∧ NoDigitFirst rest := by
  constructor
  · intro found
    obtain ⟨taken, left⟩ := Prod.mk.inj found
    refine ⟨fun char member => ?_, fun next first => ?_⟩
    · rw [← taken] at member
      exact List.mem_takeWhile_imp member
    · obtain ⟨later, shape⟩ := List.head?_eq_some_iff.mp first
      have stops := List.head?_dropWhile_not isAsciiDigit (digits ++ rest)
      rw [left, shape] at stops
      exact stops
  · intro given
    obtain ⟨all, none⟩ := given
    rw [splitDigits, List.takeWhile_append_of_pos all, List.dropWhile_append_of_pos all]
    cases rest with
    | nil => simp
    | cons next rest =>
        have other : isAsciiDigit next = false := none next rfl
        simp [other]

theorem digits_of_splitDigits {text digits rest : List Char}
    (found : splitDigits text = (digits, rest)) : Digits digits ∧ NoDigitFirst rest :=
  splitDigits_iff.mp (eq_of_splitDigits found ▸ found)

/-- A text that begins with a point without digits behind it. -/
def BarePoint (text : List Char) : Prop :=
  ∃ rest, text = '.' :: rest ∧ NoDigitFirst rest

theorem splitPrecision_of_ne {text : List Char} (other : text.head? ≠ some '.') :
    splitPrecision text = ([], text) := by
  unfold splitPrecision
  split
  · exact absurd rfl other
  · rfl

/-- What is read as precision and type is written back unless a bare point was passed over. -/
theorem eq_of_splitPrecision {text digits rest : List Char}
    (found : splitPrecision text = (digits, rest)) :
    text = precisionText digits ++ rest ∨
      digits = [] ∧ text = '.' :: rest ∧ NoDigitFirst rest := by
  by_cases point : text.head? = some '.'
  · obtain ⟨after, rfl⟩ := List.head?_eq_some_iff.mp point
    have parts : splitDigits after = (digits, rest) := found
    obtain rfl := eq_of_splitDigits parts
    cases digits with
    | nil => exact .inr ⟨rfl, rfl, (digits_of_splitDigits parts).2⟩
    | cons digit digits => exact .inl rfl
  · rw [splitPrecision_of_ne point] at found
    cases found
    exact .inl rfl

theorem splitPrecision_iff {digits rest : List Char} :
    splitPrecision (precisionText digits ++ rest) = (digits, rest) ↔
      (digits = [] → rest.head? ≠ some '.') ∧ (digits ≠ [] → Digits digits ∧ NoDigitFirst rest) := by
  cases digits with
  | nil =>
      constructor
      · intro found
        refine ⟨fun _ point => ?_, fun nonempty => absurd rfl nonempty⟩
        obtain ⟨after, rfl⟩ := List.head?_eq_some_iff.mp point
        have parts : splitDigits after = ([], '.' :: after) := found
        have length := congrArg List.length (eq_of_splitDigits parts)
        simp at length
      · intro given
        exact splitPrecision_of_ne (given.1 rfl)
  | cons digit digits =>
      have parts : splitPrecision (precisionText (digit :: digits) ++ rest) =
          splitDigits (digit :: digits ++ rest) := rfl
      rw [parts, splitDigits_iff]
      exact ⟨fun given => ⟨nofun, fun _ => given⟩, fun given => given.2 (List.cons_ne_nil _ _)⟩

/-! ## Whole formats -/

/-- What is left of a format behind its alignment, zero and width. -/
def afterWidth (text : List Char) : List Char :=
  (splitDigits (splitZero (splitAlignment text).2.2).2).2

/-- The stages that read a format. Each begins where the one before it stopped. -/
theorem split_eq_iff {text : List Char} {format : FieldFormat} :
    split text = format ↔ ∃ afterAlign afterZero,
      splitAlignment text = (format.fill, format.align, afterAlign) ∧
      splitZero afterAlign = (format.zero, afterZero) ∧
      splitDigits afterZero = (format.width.toList, afterWidth text) ∧
      splitPrecision (afterWidth text) = (format.precision.toList, format.typeName.toList) := by
  constructor
  · rintro rfl
    exact ⟨_, _, rfl, rfl, Prod.ext String.toList_ofList.symm rfl,
      Prod.ext String.toList_ofList.symm String.toList_ofList.symm⟩
  · intro given
    obtain ⟨afterAlign, afterZero, aligned, zeroed, wide, precise⟩ := given
    simp only [split, aligned, zeroed, wide, precise, String.ofList_toList]

theorem read_eq_ok_iff {text : String} {format : FieldFormat} :
    read text = .ok format ↔ split text.toList = format ∧ format.typeName ≠ "" := by
  by_cases empty : text = ""
  · subst empty
    refine ⟨fun success => (nomatch success), fun given => ?_⟩
    obtain ⟨rfl, typed⟩ := given
    exact absurd rfl typed
  · rw [read, if_neg (by simpa using empty)]
    dsimp only
    split
    · rename_i untyped
      refine ⟨fun success => (nomatch success), fun given => ?_⟩
      obtain ⟨rfl, typed⟩ := given
      exact absurd (by simpa using untyped) typed
    · rename_i typed
      rw [Except.ok.injEq]
      constructor
      · rintro rfl
        exact ⟨rfl, by simpa using typed⟩
      · exact fun given => given.1

/-- A written format is read as itself exactly if no part continues the one before it. -/
theorem split_render_iff {format : FieldFormat} :
    split format.render.toList = format ↔
      KeepsAlignment format.fill format.align format.afterAlignment ∧
      (format.zero = false → (format.width.toList ++
        (precisionText format.precision.toList ++ format.typeName.toList)).head? ≠ some '0') ∧
      (Digits format.width.toList ∧
        NoDigitFirst (precisionText format.precision.toList ++ format.typeName.toList)) ∧
      (format.precision.toList = [] → format.typeName.toList.head? ≠ some '.') ∧
      (format.precision.toList ≠ [] →
        Digits format.precision.toList ∧ NoDigitFirst format.typeName.toList) := by
  rw [split_eq_iff, toList_render, ← splitAlignment_iff, ← splitZero_iff, ← splitDigits_iff,
    ← splitPrecision_iff]
  constructor
  · intro given
    obtain ⟨afterAlign, afterZero, aligned, zeroed, wide, precise⟩ := given
    obtain rfl := List.append_cancel_left (eq_of_splitAlignment aligned)
    obtain rfl := List.append_cancel_left (eq_of_splitZero zeroed)
    have left := List.append_cancel_left (eq_of_splitDigits wide)
    rw [← left] at wide precise
    exact ⟨aligned, zeroed, wide, precise⟩
  · intro given
    obtain ⟨aligned, zeroed, wide, precise⟩ := given
    have left : afterWidth (alignmentText format.fill format.align ++ format.afterAlignment) =
        precisionText format.precision.toList ++ format.typeName.toList := by
      rw [afterWidth, aligned, afterAlignment, zeroed, wide]
    exact ⟨_, _, aligned, zeroed, left ▸ wide, left ▸ precise⟩

/-- A format is written as it was read unless a bare point was passed over. -/
theorem render_of_split {text : String} {format : FieldFormat}
    (found : split text.toList = format) (noPoint : ¬ BarePoint (afterWidth text.toList)) :
    format.render = text := by
  obtain ⟨afterAlign, afterZero, aligned, zeroed, wide, precise⟩ := split_eq_iff.mp found
  obtain kept | ⟨_, point, noDigit⟩ := eq_of_splitPrecision precise
  · rw [← String.toList_inj, toList_render, eq_of_splitAlignment aligned, eq_of_splitZero zeroed,
      eq_of_splitDigits wide, kept, afterAlignment]
  · exact absurd ⟨_, point, noDigit⟩ noPoint

/-- Around a bare point, only the alignment and a second point can be read differently. -/
theorem split_render_iff_of_barePoint {text : List Char} {format : FieldFormat}
    (found : split text = format) (barePoint : BarePoint (afterWidth text)) :
    split format.render.toList = format ↔
      format.typeName.toList.head? ≠ some '.' ∧
        KeepsAlignment format.fill format.align format.afterAlignment := by
  obtain ⟨afterAlign, afterZero, aligned, zeroed, wide, precise⟩ := split_eq_iff.mp found
  obtain ⟨rest, point, noDigit⟩ := barePoint
  rw [point] at wide precise
  have parts : splitDigits rest = (format.precision.toList, format.typeName.toList) := precise
  have none : rest.takeWhile isAsciiDigit = [] := by
    cases rest with
    | nil => rfl
    | cons next rest =>
        have other : isAsciiDigit next = false := noDigit next rfl
        simp [other]
  have precision : format.precision.toList = [] := none ▸ (Prod.mk.inj parts).1.symm
  have type : NoDigitFirst format.typeName.toList := (digits_of_splitDigits parts).2
  have digits := (digits_of_splitDigits wide).1
  have noZero : format.zero = false →
      (format.width.toList ++ format.typeName.toList).head? ≠ some '0' := by
    intro noZero first
    have before := splitZero_iff.mp (eq_of_splitZero zeroed ▸ zeroed) noZero
    rw [eq_of_splitDigits wide] at before
    cases width : format.width.toList with
    | nil =>
        rw [width, List.nil_append] at first
        have other := type '0' first
        cases other
    | cons digit others =>
        rw [width] at before first
        exact before first
  rw [split_render_iff, precision]
  exact ⟨fun given => ⟨given.2.2.2.1 rfl, given.1⟩,
    fun given => ⟨given.2, noZero, ⟨digits, type⟩, fun _ => given.1, fun nonempty => absurd rfl nonempty⟩⟩

/-- A format that was read is written back and read as the same format, unless a point
without digits was passed over. Then it is so exactly if the type does not begin with a
point itself and no sign of the shorter text is read as an alignment. -/
theorem read_render_iff_of_read {text : String} {format : FieldFormat}
    (success : read text = .ok format) :
    read format.render = .ok format ↔
      (BarePoint (afterWidth text.toList) →
        format.typeName.toList.head? ≠ some '.' ∧
          KeepsAlignment format.fill format.align format.afterAlignment) := by
  obtain ⟨found, typed⟩ := read_eq_ok_iff.mp success
  by_cases barePoint : BarePoint (afterWidth text.toList)
  · rw [read_eq_ok_iff, split_render_iff_of_barePoint found barePoint]
    exact ⟨fun given _ => given.1, fun given => ⟨given barePoint, typed⟩⟩
  · rw [render_of_split found barePoint]
    exact ⟨fun _ point => absurd point barePoint, fun _ => success⟩

theorem read_render_of_fill :
    read "_>010.Number+" = .ok ⟨some '_', some '>', true, "10", "", "Number+"⟩ ∧
      BarePoint (afterWidth "_>010.Number+".toList) ∧
      read (render ⟨some '_', some '>', true, "10", "", "Number+"⟩) =
        .ok ⟨some '_', some '>', true, "10", "", "Number+"⟩ := by
  have success : read "_>010.Number+" = .ok ⟨some '_', some '>', true, "10", "", "Number+"⟩ := by
    decide +kernel
  have kept : KeepsAlignment (some '_') (some '>') "010Number+".toList := by
    decide +kernel
  refine ⟨success, ⟨"Number+".toList, by decide +kernel, by decide +kernel⟩, ?_⟩
  exact (read_render_iff_of_read success).mpr fun _ => ⟨by decide +kernel, kept⟩

/-- The second of two points becomes the point of a precision once the first is lost. -/
theorem not_read_render_of_two_points :
    ¬ ∀ (text : String) (format : FieldFormat), read text = .ok format →
      read format.render = .ok format := by
  intro inverse
  have back := inverse "..5x" ⟨none, none, false, "", "", ".5x"⟩ (by decide +kernel)
  revert back
  decide +kernel

end TextSchema.FieldFormat
