import TextSchema.Proofs.FieldType.ListDecoding

/-!
# Decoding numbers

The pattern of the basic number type takes the digits of every script, but reading an integer
knows those of ASCII only and goes from the left. So a number is read as its digits say
exactly if all of them are ASCII digits, or if the ASCII digits at its start leave the range
already.
-/

set_option autoImplicit false

namespace TextSchema

open Pattern

/-! ## Numerals -/

namespace Decimal

/-- The value of a digit of any script. In each script the digits from zero to nine follow
one another. -/
def digitValue (char : Char) : Nat :=
  match Text.digitRanges.find? fun range => range.1 ≤ char.toNat && char.toNat ≤ range.2 with
  | some range => (char.toNat - range.1) % 10
  | none => 0

/-- The number that digits write behind the digits of a number. -/
def numeralFrom (before : Nat) (digits : List Char) : Nat :=
  digits.foldl (fun number char => 10 * number + digitValue char) before

/-- The number that digits write. -/
def numeral (digits : List Char) : Nat :=
  numeralFrom 0 digits

example : numeral "٤２".toList = 42 := by decide +kernel

theorem le_numeralFrom (before : Nat) (digits : List Char) :
    before ≤ numeralFrom before digits := by
  induction digits generalizing before with
  | nil => exact Nat.le_refl _
  | cons char rest ih =>
      calc before ≤ 10 * before + digitValue char := by omega
        _ ≤ numeralFrom (10 * before + digitValue char) rest := ih _

theorem numeral_takeWhile_le (keep : Char → Bool) (digits : List Char) :
    numeral (digits.takeWhile keep) ≤ numeral digits := by
  have whole : numeral digits =
      numeralFrom (numeral (digits.takeWhile keep)) (digits.dropWhile keep) :=
    calc numeral digits = numeral (digits.takeWhile keep ++ digits.dropWhile keep) :=
          congrArg numeral List.takeWhile_append_dropWhile.symm
      _ = _ := List.foldl_append
  exact whole ▸ le_numeralFrom _ _

/-! ## Reading digits -/

theorem digit?_eq_some {char : Char} (plain : isAsciiDigit char = true) :
    digit? char = some (digitValue char) := by
  unfold isAsciiDigit at plain
  unfold digit? at plain ⊢
  split at plain
  · next bounds =>
      have least : 0x30 ≤ char.toNat := bounds.1
      have greatest : char.toNat ≤ 0x39 := bounds.2
      have value : digitValue char = (char.toNat - 0x30) % 10 := by
        simp [digitValue, Text.digitRanges, least, greatest]
      have small : char.toNat - 0x30 < 10 := by omega
      rw [if_pos bounds, value, Nat.mod_eq_of_lt small]
      rfl
  · cases plain

/-- Reading fails at the first digit that is not plain, unless the plain digits before it have
left the range. -/
theorem readDigits_eq {limit : Nat} (overflow : IntegerError) (digits : List Char) {before : Nat}
    (within : before ≤ limit) :
    readDigits limit overflow digits before =
      if limit < numeralFrom before (digits.takeWhile isAsciiDigit) then .error overflow
      else if digits.all isAsciiDigit then .ok (numeralFrom before digits)
      else .error .invalidDigit := by
  induction digits generalizing before with
  | nil => exact (if_neg (Nat.not_lt.mpr within)).symm
  | cons char rest ih =>
      by_cases plain : isAsciiDigit char = true
      · simp only [readDigits, digit?_eq_some plain, List.takeWhile_cons_of_pos plain,
          List.all_cons, plain, Bool.true_and]
        by_cases inside : 10 * before + digitValue char ≤ limit
        · rw [if_pos inside]
          exact ih inside
        · have outside : limit <
              numeralFrom before (char :: rest.takeWhile isAsciiDigit) :=
            Nat.lt_of_lt_of_le (Nat.not_le.mp inside) (le_numeralFrom _ _)
          rw [if_neg inside, if_pos outside]
      · have unread : digit? char = none := by simpa [isAsciiDigit] using plain
        have first : numeralFrom before ((char :: rest).takeWhile isAsciiDigit) = before :=
          congrArg (numeralFrom before) (List.takeWhile_cons_of_neg plain)
        have notAll : ¬ (char :: rest).all isAsciiDigit = true := by
          simp [Bool.eq_false_iff.mpr plain]
        rw [first, if_neg (Nat.not_lt.mpr within), if_neg notAll, readDigits, unread]

theorem readInt64_of_digits {text : List Char} (filled : text ≠ [])
    (digits : ∀ char ∈ text, Text.isDigit char = true) :
    readInt64 text = (readDigits (2 ^ 63 - 1) .tooLarge text 0).map Int.ofNat := by
  obtain ⟨char, rest, rfl⟩ := List.exists_cons_of_ne_nil filled
  have digit := digits char (.head _)
  have unsigned : char ≠ '+' ∧ char ≠ '-' := by
    constructor
    · rintro rfl
      cases digit
    · rintro rfl
      cases digit
  unfold readInt64 readInteger
  split
  · next empty => cases empty
  · next signed => exact absurd (List.cons.inj signed).1 unsigned.1
  · next signed => exact absurd (List.cons.inj signed).1 unsigned.2
  · next signed => exact absurd (List.cons.inj signed).1 unsigned.1
  · next signed => exact absurd (List.cons.inj signed).1 unsigned.2
  · change readDigits (2 ^ 63 - 1) _ _ _ >>= _ = _
    cases readDigits (2 ^ 63 - 1) .tooLarge (char :: rest) 0 <;> rfl

end Decimal

/-! ## The basic number type -/

theorem takesWhole_digits_iff {caseless : Bool} {text : String} :
    takesWhole caseless "\\d+" text = true ↔
      text ≠ "" ∧ ∀ char ∈ text.toList, Text.isDigit char = true := by
  refine ⟨isDigit_of_takesWhole, ?_⟩
  rintro ⟨filled, digits⟩
  have compiled : Acceptor.compile "\\d+" caseless =
      .ok ⟨"\\d+", (Expr.repeated 1 none true (.set (.property .digit))).anchored⟩ := by
    cases caseless <;> rfl
  have member : text.toList ∈ (Expr.repeated 1 none true (.set (.property .digit))).language := by
    have singles : (text.toList.map fun char => [char]).flatten = text.toList :=
      List.flatMap_singleton' text.toList
    have some_ : 1 ≤ (text.toList.map fun char => [char]).length := by
      simpa [Nat.one_le_iff_ne_zero] using filled
    refine ⟨text.toList.map fun char => [char], singles.symm, some_, ?_, ?_⟩
    · intro limit unbounded
      cases unbounded
    · intro part inParts
      obtain ⟨char, inText, rfl⟩ := List.mem_map.mp inParts
      exact ⟨char, rfl, digits char inText⟩
  rw [takesWhole, compiled]
  exact Expr.isSome_search_anchored_iff.mpr ((Expr.exists_takesAll_iff rfl).mpr member)

namespace FieldType

/-- A number as its digits say, or the failure that it is too large. -/
def numberOutcome (text : String) : Except DecodeError Value :=
  if Decimal.numeral text.toList ≤ 2 ^ 63 - 1 then .ok (.int (Decimal.numeral text.toList))
  else .error (.invalid text Decimal.IntegerError.tooLarge.message)

/-- A text of plain digits, or one that is too large before its first other digit. -/
def ReadPlainly (text : String) : Prop :=
  text.toList.all Decimal.isAsciiDigit = true ∨
    2 ^ 63 - 1 < Decimal.numeral (text.toList.takeWhile Decimal.isAsciiDigit)

theorem result_decode_of_ok (origin : Origin) {text : String} {value : Int}
    (read : Decimal.readInt64 text.toList = .ok value) :
    ((number origin).decode text).result = .ok (.int value) := by
  change (decodeInteger Decimal.readInt64 text).result = _
  simp only [decodeInteger, read, Attempt.result_pure]

theorem result_decode_of_error (origin : Origin) {text : String} {reason : Decimal.IntegerError}
    (read : Decimal.readInt64 text.toList = .error reason) :
    ((number origin).decode text).result = .error (.invalid text reason.message) := by
  change (decodeInteger Decimal.readInt64 text).result = _
  simp only [decodeInteger, read, Attempt.result_throw]

theorem result_decode_number (origin : Origin) {text : String} (filled : text ≠ "")
    (digits : ∀ char ∈ text.toList, Text.isDigit char = true) :
    (ReadPlainly text → ((number origin).decode text).result = numberOutcome text) ∧
      (¬ ReadPlainly text → ((number origin).decode text).result =
        .error (.invalid text Decimal.IntegerError.invalidDigit.message)) := by
  have read : Decimal.readInt64 text.toList =
      (if 2 ^ 63 - 1 < Decimal.numeral (text.toList.takeWhile Decimal.isAsciiDigit) then
          Except.error Decimal.IntegerError.tooLarge
        else if text.toList.all Decimal.isAsciiDigit then .ok (Decimal.numeral text.toList)
        else .error .invalidDigit).map Int.ofNat :=
    (Decimal.readInt64_of_digits (by simpa using filled) digits).trans
      (congrArg (Except.map Int.ofNat)
        (Decimal.readDigits_eq .tooLarge text.toList (Nat.zero_le _)))
  by_cases early : 2 ^ 63 - 1 < Decimal.numeral (text.toList.takeWhile Decimal.isAsciiDigit)
  · have large : ¬ Decimal.numeral text.toList ≤ 2 ^ 63 - 1 :=
      Nat.not_le.mpr (Nat.lt_of_lt_of_le early (Decimal.numeral_takeWhile_le _ _))
    have outcome : numberOutcome text = _ := if_neg large
    rw [if_pos early] at read
    exact ⟨fun _ => (result_decode_of_error origin read).trans outcome.symm,
      fun neither => absurd (.inr early) neither⟩
  · rw [if_neg early] at read
    by_cases plain : text.toList.all Decimal.isAsciiDigit = true
    · have whole : text.toList.takeWhile Decimal.isAsciiDigit = text.toList :=
        List.takeWhile_eq_self_iff.mpr (List.all_eq_true.mp plain)
      have outcome : numberOutcome text = _ := if_pos (Nat.not_lt.mp (whole ▸ early))
      rw [if_pos plain] at read
      exact ⟨fun _ => (result_decode_of_ok origin read).trans outcome.symm,
        fun neither => absurd (.inl plain) neither⟩
    · rw [if_neg plain] at read
      exact ⟨fun either => (either.elim plain early).elim,
        fun _ => result_decode_of_error origin read⟩

theorem invalidDigit_ne_numberOutcome (text : String) :
    .error (.invalid text Decimal.IntegerError.invalidDigit.message) ≠ numberOutcome text := by
  unfold numberOutcome
  split
  · exact fun same => nomatch same
  · intro same
    have messages := (DecodeError.invalid.inj (Except.error.inj same)).2
    exact absurd messages (by decide)

end FieldType

/-- The pattern of the basic number type takes the texts of digits of any script. Such a text
is decoded as its digits say exactly if it can be read plainly, and otherwise a digit is
reported as invalid. -/
theorem TypeTable.decode_number_iff {origin : Origin} {type : FieldType}
    (found : (TypeTable.basic origin).get? "Number" = some type) (caseless : Bool)
    (default text : String) :
    (takesWhole caseless (type.patternOr default) text = true ↔
        text ≠ "" ∧ ∀ char ∈ text.toList, Text.isDigit char = true) ∧
      (takesWhole caseless (type.patternOr default) text = true →
        ((type.decode text).result = FieldType.numberOutcome text ↔ FieldType.ReadPlainly text) ∧
          (¬ FieldType.ReadPlainly text → (type.decode text).result =
            .error (.invalid text Decimal.IntegerError.invalidDigit.message))) := by
  have stored : (TypeTable.basic origin).get? "Number" = some (.number origin) := rfl
  obtain rfl : type = .number origin := Option.some.inj (found.symm.trans stored)
  refine ⟨takesWhole_digits_iff, fun taken => ?_⟩
  obtain ⟨filled, digits⟩ := takesWhole_digits_iff.mp taken
  obtain ⟨plainly, otherwise_⟩ := FieldType.result_decode_number origin filled digits
  refine ⟨⟨fun same => ?_, plainly⟩, otherwise_⟩
  by_contra unread
  exact FieldType.invalidDigit_ne_numberOutcome text ((otherwise_ unread).symm.trans same)

/-- The greatest number, with a zero before it, and the one after it. -/
theorem TypeTable.decode_number_at_limit :
    ∃ type, (TypeTable.basic ⟨[]⟩).get? "Number" = some type ∧
      takesWhole true (type.patternOr "") "09223372036854775807" = true ∧
      (type.decode "09223372036854775807").result = .ok (.int 9223372036854775807) ∧
      takesWhole true (type.patternOr "") "9223372036854775808" = true ∧
      (type.decode "9223372036854775808").result =
        .error (.invalid "9223372036854775808" "number too large to fit in target type") := by
  have greatest : takesWhole true "\\d+" "09223372036854775807" = true := by decide +kernel
  have next : takesWhole true "\\d+" "9223372036854775808" = true := by decide +kernel
  have within := (@decode_number_iff ⟨[]⟩ _ rfl true "" "09223372036854775807").2 greatest
  have beyond := (@decode_number_iff ⟨[]⟩ _ rfl true "" "9223372036854775808").2 next
  refine ⟨_, rfl, greatest, within.1.mpr (.inl ?_), next, beyond.1.mpr (.inl ?_)⟩
  · decide +kernel
  · decide +kernel

/-- The Arabic digit three is taken for a number, but it is not read as one. -/
theorem TypeTable.invalidDigit_of_arabic_three :
    ∃ type, (TypeTable.basic ⟨[]⟩).get? "Number" = some type ∧
      takesWhole true (type.patternOr "") "٣" = true ∧
      FieldType.numberOutcome "٣" = .ok (.int 3) ∧
      (type.decode "٣").result = .error (.invalid "٣" "invalid digit found in string") :=
  ⟨_, rfl, by decide +kernel, rfl, rfl⟩

end TextSchema
