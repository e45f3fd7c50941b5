import TextSchema.Pattern.CharSet
import TextSchema.Proofs.Text.Codes

/-!
# Comparing sets of characters

Membership changes at the cuts of a set only. So a set is known by a character from each
piece between its cuts, and two expressions describe one set exactly if they agree on the
characters from the pieces of both.
-/

set_option autoImplicit false

namespace TextSchema

namespace Pattern

open Text

theorem swapAsciiCase_eq_self {char : Char} (large : 0x80 ≤ char.toNat) :
    swapAsciiCase char = char := by
  have noCapital : ¬ (char.val ≥ 'A'.val ∧ char.val ≤ 'Z'.val) := fun both => by
    have : char.toNat ≤ 0x5A := both.2
    omega
  have noSmall : ¬ (char.val ≥ 'a'.val ∧ char.val ≤ 'z'.val) := fun both => by
    have : char.toNat ≤ 0x7A := both.2
    omega
  have notUpper : char.isUpper = false := decide_eq_false noCapital
  rw [swapAsciiCase, notUpper]
  exact dif_neg noSmall

theorem CharProperty.holds_eq_of_uncut {kind : CharProperty} {low high : Char} (le : low ≤ high)
    (uncut : Uncut kind.cuts low.toNat high.toNat) : kind.holds low = kind.holds high := by
  have codes : low.toNat ≤ high.toNat := le
  cases kind with
  | digit => exact RangeTable.contains_eq_of_uncut codes uncut
  | blank => exact RangeTable.contains_eq_of_uncut codes uncut
  | word =>
      have alphabetic := RangeTable.contains_eq_of_uncut codes uncut.left.left
      have digits := RangeTable.contains_eq_of_uncut codes uncut.left.right
      have extra := RangeTable.contains_eq_of_uncut codes uncut.right
      simp only [holds, isWord, isAlphabetic, isDigit, alphabetic, digits, extra]

namespace CharSet

theorem mem_eq_of_uncut {set : CharSet} {low high : Char} (le : low ≤ high)
    (uncut : Uncut set.cuts low.toNat high.toNat) : set.mem low = set.mem high := by
  have codes : low.toNat ≤ high.toNat := le
  induction set with
  | empty => rfl
  | range first last =>
      have opened := uncut first.toNat (by simp [cuts])
      have closed := uncut (last.toNat + 1) (by simp [cuts])
      have below : first ≤ low ↔ first ≤ high := by
        change first.toNat ≤ low.toNat ↔ first.toNat ≤ high.toNat
        omega
      have above : low ≤ last ↔ high ≤ last := by
        change low.toNat ≤ last.toNat ↔ high.toNat ≤ last.toNat
        omega
      simp only [mem, below, above]
  | property kind => exact CharProperty.holds_eq_of_uncut le uncut
  | table ranges => exact RangeTable.contains_eq_of_uncut codes uncut
  | union left right leftIH rightIH | inter left right leftIH rightIH =>
      simp only [mem, leftIH uncut.left, rightIH uncut.right]
  | compl set ih => exact congrArg (!·) (ih uncut)
  | folded set ih =>
      have same := ih uncut.right
      by_cases equal : low.toNat = high.toNat
      · rw [Char.toNat_inj.mp equal]
      · -- a character with variants is cut off from its neighbours on both sides
        have lowFixed : low.toNat ∉ variableCodes := fun member => by
          have := uncut.left (low.toNat + 1) (List.mem_flatMap.mpr ⟨_, member, by simp⟩)
          omega
        have highFixed : high.toNat ∉ variableCodes := fun member => by
          have := uncut.left high.toNat (List.mem_flatMap.mpr ⟨_, member, by simp⟩)
          omega
        simp only [mem, same, caseVariants_eq_nil lowFixed, caseVariants_eq_nil highFixed]
  | asciiFolded set ih =>
      have same := ih uncut.right
      by_cases equal : low.toNat = high.toNat
      · rw [Char.toNat_inj.mp equal]
      · have large : 0x80 ≤ low.toNat := Nat.not_lt.mp fun small => by
          have := uncut.left (low.toNat + 1) (List.mem_range.mpr (by omega))
          omega
        simp only [mem, same, swapAsciiCase_eq_self large,
          swapAsciiCase_eq_self (Nat.le_trans large codes)]
  | bytes set ih =>
      have edge := uncut 0x80 (.head _)
      have small : low.toNat < 0x80 ↔ high.toNat < 0x80 := by omega
      have same := ih fun cut member => uncut cut (.tail _ member)
      simp only [mem, small, same]

/-! ## Samples -/

private theorem exists_last_le (cuts : List Nat) (code : Nat) :
    ∃ cut ∈ 0 :: cuts, cut ≤ code ∧ Uncut cuts cut code := by
  induction cuts with
  | nil => exact ⟨0, .head _, Nat.zero_le _, nofun⟩
  | cons next rest ih =>
      obtain ⟨cut, member, le, uncut⟩ := ih
      by_cases between : cut < next ∧ next ≤ code
      · refine ⟨next, by simp, between.2, fun other inside => ?_⟩
        cases List.mem_cons.mp inside with
        | inl same => exact .inl (Nat.le_of_eq same)
        | inr later =>
          have := uncut other later
          omega
      · refine ⟨cut, ?_, le, fun other inside => ?_⟩
        · exact List.mem_cons.mpr ((List.mem_cons.mp member).imp_right (.tail _))
        · cases List.mem_cons.mp inside with
          | inl same =>
            subst same
            omega
          | inr later => exact uncut other later

theorem toNat_charFrom (code : Nat) (small : code < 0x110000) :
    (charFrom code).toNat = if 0xD800 ≤ code ∧ code < 0xE000 then 0xE000 else code := by
  apply toNat_ofNat
  split
  · decide
  · unfold Nat.isValidChar
    omega

/-- Every character has a sample in its piece. -/
theorem exists_sample (cuts : List Nat) (char : Char) :
    ∃ cut ∈ 0 :: cuts, charFrom cut ≤ char ∧ Uncut cuts (charFrom cut).toNat char.toNat := by
  obtain ⟨cut, member, le, uncut⟩ := exists_last_le cuts char.toNat
  have valid : char.toNat < 0xD800 ∨ 0xDFFF < char.toNat ∧ char.toNat < 0x110000 := char.valid
  have code := toNat_charFrom cut (by omega)
  refine ⟨cut, member, ?_, fun other inside => ?_⟩
  · change (charFrom cut).toNat ≤ char.toNat
    split at code <;> omega
  · have := uncut other inside
    split at code <;> omega

variable {left right set : CharSet}

/-- Sets that agree on the samples of both have the same characters. -/
theorem agrees_iff : left.agrees right = true ↔ ∀ char, left.mem char = right.mem char := by
  simp only [agrees, List.all_eq_true, beq_iff_eq]
  refine ⟨fun agree char => ?_, fun same char _ => same char⟩
  obtain ⟨cut, member, le, uncut⟩ := exists_sample (left.cuts ++ right.cuts) char
  have sample : charFrom cut ∈ left.samples ++ right.samples := by
    rw [samples, samples, ← List.map_append]
    refine List.mem_map_of_mem ?_
    simp only [List.mem_cons, List.mem_append] at member ⊢
    exact member.elim (fun zero => .inl (.inl zero)) (Or.imp .inr .inr)
  rw [← mem_eq_of_uncut le uncut.left, ← mem_eq_of_uncut le uncut.right]
  exact agree _ sample

theorem isEmpty_iff : set.isEmpty = true ↔ ∀ char, set.mem char = false := by
  simp only [isEmpty, List.all_eq_true, Bool.not_eq_eq_eq_not, Bool.not_true]
  refine ⟨fun none char => ?_, fun empty char _ => empty char⟩
  obtain ⟨cut, member, le, uncut⟩ := exists_sample set.cuts char
  rw [← mem_eq_of_uncut le uncut]
  exact none _ (List.mem_map_of_mem member)

/-- Only the last character has none after it. -/
theorem lt_charFrom_succ {char other : Char} (lt : char < other) :
    char < charFrom (char.toNat + 1) ∧ charFrom (char.toNat + 1) ≤ other := by
  have codes : char.toNat < other.toNat := lt
  have valid : other.toNat < 0xD800 ∨ 0xDFFF < other.toNat ∧ other.toNat < 0x110000 := other.valid
  have code := toNat_charFrom (char.toNat + 1) (by omega)
  change char.toNat < (charFrom (char.toNat + 1)).toNat ∧
    (charFrom (char.toNat + 1)).toNat ≤ other.toNat
  split at code <;> omega

theorem charFrom_succ_ne (char : Char) : charFrom (char.toNat + 1) ≠ char := by
  intro same
  have valid : char.toNat < 0xD800 ∨ 0xDFFF < char.toNat ∧ char.toNat < 0x110000 := char.valid
  by_cases last : char.toNat + 1 = 0x110000
  · rw [last] at same
    have zero : char.toNat = 0 := congrArg Char.toNat same.symm
    omega
  · have code := toNat_charFrom (char.toNat + 1) (by omega)
    rw [same] at code
    split at code <;> omega

theorem exists_sample_of_mem {char : Char} (member : set.mem char = true) :
    ∃ sample ∈ set.samples.filter set.mem, sample ≤ char ∧
      Uncut set.cuts sample.toNat char.toNat := by
  obtain ⟨cut, sampled, le, uncut⟩ := exists_sample set.cuts char
  refine ⟨charFrom cut, List.mem_filter.mpr ⟨List.mem_map_of_mem sampled, ?_⟩, le, uncut⟩
  rw [mem_eq_of_uncut le uncut, member]

/-- Were there a later member in the piece, the next character would be one too. -/
theorem eq_of_next_not_mem {sample other : Char} (le : sample ≤ other)
    (uncut : Uncut set.cuts sample.toNat other.toNat) (member : set.mem other = true)
    (ended : set.mem (charFrom (sample.toNat + 1)) = false) : other = sample := by
  refine Decidable.byContradiction fun differs => ?_
  obtain ⟨after, upTo⟩ := lt_charFrom_succ (Std.lt_of_le_of_ne le (Ne.symm differs))
  have between : Uncut set.cuts (charFrom (sample.toNat + 1)).toNat other.toNat := by
    intro cut inside
    have later : sample.toNat < (charFrom (sample.toNat + 1)).toNat := after
    have := uncut cut inside
    omega
  rw [mem_eq_of_uncut upTo between, member] at ended
  cases ended

theorem isSingle_iff :
    set.isSingle = true ↔ ∃ char, ∀ other, set.mem other = true ↔ other = char := by
  unfold isSingle
  split
  · next none =>
      simp only [Bool.false_eq_true, false_iff, not_exists]
      intro char only
      obtain ⟨sample, sampled, _⟩ := exists_sample_of_mem ((only char).mpr rfl)
      rw [none] at sampled
      cases sampled
  · next char others some =>
      have listed : ∀ other ∈ char :: others, set.mem other = true := fun other member =>
        (List.mem_filter.mp (some ▸ member)).2
      simp only [Bool.and_eq_true, List.all_eq_true, beq_iff_eq, Bool.not_eq_eq_eq_not,
        Bool.not_true]
      constructor
      · rintro ⟨same, ended⟩
        refine ⟨char, fun other => ⟨fun member => ?_, fun equal => equal ▸ listed _ (.head _)⟩⟩
        obtain ⟨sample, sampled, le, uncut⟩ := exists_sample_of_mem member
        have isChar : sample = char := by
          rw [some] at sampled
          exact (List.mem_cons.mp sampled).elim id (same sample)
        subst isChar
        exact eq_of_next_not_mem le uncut member ended
      · rintro ⟨only, same⟩
        obtain rfl := (same char).mp (listed _ (.head _))
        exact ⟨fun other member => (same other).mp (listed other (.tail _ member)),
          Bool.eq_false_iff.mpr fun member => charFrom_succ_ne char ((same _).mp member)⟩

/-- Two sets are the same class if they have the same characters and, should these be
several, are both of bytes or both not. -/
theorem same_iff :
    left.same right = true ↔ (∀ char, left.mem char = right.mem char) ∧
      (left.isBytes = right.isBytes ∨
        ∀ one two, left.mem one = true → left.mem two = true → one = two) := by
  have small : left.isEmpty = true ∨ left.isSingle = true ↔
      ∀ one two, left.mem one = true → left.mem two = true → one = two := by
    rw [isEmpty_iff, isSingle_iff]
    constructor
    · rintro (none | ⟨char, only⟩) one two first second
      · rw [none one] at first
        cases first
      · exact ((only one).mp first).trans ((only two).mp second).symm
    · intro unique
      by_cases some : ∃ char, left.mem char = true
      · obtain ⟨char, member⟩ := some
        exact .inr ⟨char, fun other => ⟨fun inside => unique _ _ inside member,
          fun same => same ▸ member⟩⟩
      · exact .inl fun char => Bool.eq_false_iff.mpr fun member => some ⟨char, member⟩
  simp only [same, Bool.or_eq_true, beq_iff_eq, Bool.and_eq_true, agrees_iff, or_assoc, small]
  constructor
  · rintro (equal | both)
    · exact equal ▸ ⟨fun _ => rfl, .inl rfl⟩
    · exact both
  · exact .inr

theorem mem_of_same (alike : left.same right = true) (char : Char) :
    left.mem char = right.mem char :=
  (same_iff.mp alike).1 char

@[simp] theorem same_self (set : CharSet) : set.same set = true :=
  same_iff.mpr ⟨fun _ => rfl, .inl rfl⟩

theorem mem_unionAll {sets : List CharSet} {char : Char} :
    (unionAll sets).mem char = sets.any (·.mem char) := by
  fun_induction unionAll sets with
  | case1 => rfl
  | case2 set => simp
  | case3 set rest _ ih => simp [mem, ih]

end CharSet
end Pattern
end TextSchema
