import TextSchema.Text.CaseVariants
import TextSchema.Text.RangeTable

/-!
# Codes of characters

What a table says of a code changes at its cuts only, and only the codes that the runs of
a mapping and its groups list have case variants.
-/

set_option autoImplicit false

namespace TextSchema

/-- No cut lies after a code and up to another. -/
def Uncut (cuts : List Nat) (low high : Nat) : Prop :=
  ∀ cut ∈ cuts, cut ≤ low ∨ high < cut

namespace Uncut

variable {cuts others : List Nat} {low high : Nat}

theorem left (uncut : Uncut (cuts ++ others) low high) : Uncut cuts low high :=
  fun cut member => uncut cut (List.mem_append_left _ member)

theorem right (uncut : Uncut (cuts ++ others) low high) : Uncut others low high :=
  fun cut member => uncut cut (List.mem_append_right _ member)

end Uncut

namespace Text

theorem toNat_ofNat {code : Nat} (valid : code.isValidChar) : (Char.ofNat code).toNat = code := by
  rw [Char.ofNat, dif_pos valid]
  rfl

variable {low high : Nat}

theorem RangeTable.contains_eq_of_uncut {table : RangeTable} (le : low ≤ high)
    (uncut : Uncut table.cuts low high) : table.contains low = table.contains high := by
  induction table with
  | nil => rfl
  | cons range rest ih =>
      have opened := uncut range.1 (by simp [cuts])
      have closed := uncut (range.2 + 1) (by simp [cuts])
      have further : Uncut (cuts rest) low high := fun cut member =>
        uncut cut (List.mem_append_right [range.1, range.2 + 1] member)
      have below : low < range.1 ↔ high < range.1 := by omega
      have above : low ≤ range.2 ↔ high ≤ range.2 := by omega
      simp only [contains, below, above, ih further]

namespace CaseRun

variable {run : CaseRun} {code : Nat}

theorem mem_steps {offset : Nat} (within : offset ≤ run.last - run.first)
    (even : offset % run.step = 0) :
    offset ∈ (List.range ((run.last - run.first) / run.step + 1)).map (run.step * ·) := by
  have steps := Nat.div_add_mod offset run.step
  refine List.mem_map.mpr ⟨offset / run.step, ?_, by omega⟩
  exact List.mem_range.mpr (Nat.lt_succ_of_le (Nat.div_le_div_right within))

theorem mem_codes_of_forward? {image : Nat} (found : run.forward? code = some image) :
    code ∈ run.codes := by
  unfold forward? at found
  split at found
  · next inside =>
      obtain ⟨first, last, even⟩ := inside
      exact List.mem_append_left _
        (List.mem_map.mpr ⟨code - run.first, mem_steps (by omega) even, by omega⟩)
  · cases found

theorem mem_codes_of_backward? {source : Nat} (found : run.backward? code = some source) :
    code ∈ run.codes := by
  unfold backward? at found
  split at found
  · next inside =>
      obtain ⟨first, last, even⟩ := inside
      exact List.mem_append_right _
        (List.mem_map.mpr ⟨code - run.image, mem_steps (by omega) even, by omega⟩)
  · cases found

end CaseRun

theorem caseVariants_eq_nil {char : Char} (fixed : char.toNat ∉ variableCodes) :
    caseVariants char = [] := by
  have ofGroups : ∀ group ∈ largeCaseGroups, char.toNat ∉ group := fun group member inside =>
    fixed (List.mem_append_left _ (List.mem_flatten.mpr ⟨group, member, inside⟩))
  have ofPairs : ∀ run ∈ casePairs, char.toNat ∉ run.codes := fun run member inside =>
    fixed (List.mem_append_right _ (List.mem_flatMap.mpr ⟨run, member, inside⟩))
  have noGroup : largeCaseGroups.find? (·.contains char.toNat) = none := by
    simpa using ofGroups
  have noImage : casePairs.findSome? (·.forward? char.toNat) = none := by
    rw [List.findSome?_eq_none_iff]
    intro run member
    cases found : run.forward? char.toNat with
    | none => rfl
    | some => exact absurd (CaseRun.mem_codes_of_forward? found) (ofPairs run member)
  have noSource : casePairs.findSome? (·.backward? char.toNat) = none := by
    rw [List.findSome?_eq_none_iff]
    intro run member
    cases found : run.backward? char.toNat with
    | none => rfl
    | some => exact absurd (CaseRun.mem_codes_of_backward? found) (ofPairs run member)
  simp only [caseVariants, caseVariantCodes, noGroup, noImage, noSource, Option.toList_none,
    List.append_nil, List.map_nil]

end Text

end TextSchema
