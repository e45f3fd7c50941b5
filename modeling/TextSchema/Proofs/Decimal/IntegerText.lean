/-!
# Texts of integers

Different integers have different texts. A text tells the number through its digits, and a
minus sign is none of them.
-/

set_option autoImplicit false

namespace TextSchema.Decimal

theorem toString_nat_inj {left right : Nat} : toString left = toString right ↔ left = right := by
  refine ⟨fun same => ?_, fun same => same ▸ rfl⟩
  have digits : Nat.toDigits 10 left = Nat.toDigits 10 right := by
    rw [Nat.toString_eq_ofList_toDigits, Nat.toString_eq_ofList_toDigits] at same
    exact String.ofList_injective same
  calc left = Nat.ofDigitChars 10 (Nat.toDigits 10 left) 0 := Nat.ofDigitChars_ten_toDigits.symm
    _ = Nat.ofDigitChars 10 (Nat.toDigits 10 right) 0 := by rw [digits]
    _ = right := Nat.ofDigitChars_ten_toDigits

theorem toString_nat_ne_minus (number : Nat) (digits : String) : toString number ≠ "-" ++ digits := by
  intro same
  have minus : '-' ∈ Nat.toDigits 10 number := by
    rw [← Nat.toList_repr, ← Nat.toString_eq_repr, same, String.toList_append]
    exact .head _
  have digit := Nat.isDigit_of_mem_toDigits (by decide) (by decide) minus
  cases digit

theorem toString_int_inj {left right : Int} : toString left = toString right ↔ left = right := by
  refine ⟨fun same => ?_, fun same => same ▸ rfl⟩
  rw [Int.toString_eq_repr, Int.toString_eq_repr, Int.repr_eq_if, Int.repr_eq_if,
    ← Nat.toString_eq_repr, ← Nat.toString_eq_repr, ← Nat.toString_eq_repr,
    ← Nat.toString_eq_repr] at same
  split at same <;> split at same
  · have := toString_nat_inj.mp same
    omega
  · exact absurd same (toString_nat_ne_minus _ _)
  · exact absurd same.symm (toString_nat_ne_minus _ _)
  · have := toString_nat_inj.mp (String.append_right_inj _ |>.mp same)
    omega

end TextSchema.Decimal
