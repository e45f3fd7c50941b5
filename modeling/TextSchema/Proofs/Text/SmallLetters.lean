import Mathlib.Data.List.Forall2
import TextSchema.Proofs.Text.Codes
import TextSchema.Text.CaseVariants
import TextSchema.Text.LetterCase

/-!
# Small letters among case variants

The small letter of a character is one of its case variants or the character itself, so
texts that are equal but for case mostly become equal in small letters. They do not where a
group of variants has two small letters, as `s` and the long `ſ`. That no other group stands
in the way is a fact about the two tables, checked run by run.
-/

set_option autoImplicit false

namespace TextSchema.Text

open List (Forall₂)

/-! ## Runs and evenly spaced codes -/

namespace CaseRun

variable {run : CaseRun} {first last step offset image : Nat}

private theorem aligned_of_aligned {fine coarse : Nat} (finer : coarse % fine = 0)
    (aligned : offset % coarse = 0) : offset % fine = 0 :=
  Nat.mod_eq_zero_of_dvd
    (Nat.dvd_trans (Nat.dvd_of_mod_eq_zero finer) (Nat.dvd_of_mod_eq_zero aligned))

/-- A reason why a run has none of the codes `first`, `first + step`, … up to `last`: they
lie outside it or have the other parity. -/
def misses (run : CaseRun) (first last step : Nat) : Bool :=
  run.last.blt first || last.blt run.first ||
    ((run.step % 2).beq 0 && ((step % 2).beq 0 || first.beq last) &&
      ((first + run.first) % 2).beq 1)

/-- A run sends these codes to `image`, `image + step`, …. -/
def covers (run : CaseRun) (first last step image : Nat) : Bool :=
  run.first.ble first && last.ble run.last && ((first - run.first) % run.step).beq 0 &&
    ((step % run.step).beq 0 || first.beq last) && (run.image + (first - run.first)).beq image

section

variable (inside : first + offset ≤ last) (aligned : offset % step = 0)

include inside aligned

theorem forward?_of_misses (missed : run.misses first last step = true) :
    run.forward? (first + offset) = none := by
  rw [forward?, if_neg]
  rintro ⟨low, high, spaced⟩
  simp only [misses, Bool.or_eq_true, Bool.and_eq_true, Nat.blt_eq, Nat.beq_eq] at missed
  obtain (below | above) | ⟨⟨even, alike⟩, odd⟩ := missed
  · omega
  · omega
  · have evenOffset : offset % 2 = 0 := by
      obtain evenStep | single := alike
      · exact aligned_of_aligned evenStep aligned
      · omega
    have evenPlace := aligned_of_aligned even spaced
    omega

theorem forward?_of_covers (covered : run.covers first last step image = true) :
    run.forward? (first + offset) = some (image + offset) := by
  simp only [covers, Bool.or_eq_true, Bool.and_eq_true, Nat.ble_eq, Nat.beq_eq] at covered
  obtain ⟨⟨⟨⟨low, high⟩, starts⟩, alike⟩, same⟩ := covered
  have spaced : offset % run.step = 0 := by
    obtain finer | single := alike
    · exact aligned_of_aligned finer aligned
    · obtain rfl : offset = 0 := by omega
      exact Nat.zero_mod _
  have place : first + offset - run.first = first - run.first + offset := by omega
  have onRun : (first - run.first + offset) % run.step = 0 := by
    rw [Nat.add_mod, starts, spaced, Nat.zero_add, Nat.zero_mod]
  rw [forward?, place, if_pos ⟨by omega, by omega, onRun⟩, ← same, Nat.add_assoc]

end

end CaseRun

/-! ## Small letters of codes -/

def smallCode (code : Nat) : Nat :=
  (lowerRuns.findSome? (·.forward? code)).getD code

/-- The first run that has one of the codes sends all of them to their images. -/
def sentBy : List CaseRun → Nat → Nat → Nat → Nat → Bool
  | [], _, _, _, _ => false
  | run :: rest, first, last, step, image =>
      if run.misses first last step then sentBy rest first last step image
      else run.covers first last step image

def keptSmall (first last step : Nat) : Bool :=
  lowerRuns.all (·.misses first last step)

section

variable {first last step offset image : Nat}

theorem smallCode_of_kept (inside : first + offset ≤ last) (aligned : offset % step = 0)
    (kept : keptSmall first last step = true) : smallCode (first + offset) = first + offset := by
  have none : lowerRuns.findSome? (·.forward? (first + offset)) = none := by
    rw [List.findSome?_eq_none_iff]
    intro run member
    exact CaseRun.forward?_of_misses inside aligned (List.all_eq_true.mp kept run member)
  rw [smallCode, none]
  rfl

theorem smallCode_of_sent (inside : first + offset ≤ last) (aligned : offset % step = 0)
    (sent : sentBy lowerRuns first last step image = true) :
    smallCode (first + offset) = image + offset := by
  have found : lowerRuns.findSome? (·.forward? (first + offset)) = some (image + offset) := by
    revert sent
    generalize lowerRuns = runs
    intro sent
    induction runs with
    | nil => cases sent
    | cons run rest ih =>
        rw [sentBy] at sent
        rw [List.findSome?_cons]
        split at sent
        · rename_i missed
          rw [CaseRun.forward?_of_misses inside aligned missed]
          exact ih sent
        · rw [CaseRun.forward?_of_covers inside aligned sent]
  rw [smallCode, found]
  rfl

end

/-! ## Pairs and groups of variants -/

/-- A code has its small letter among these codes, and that one is small itself. -/
def SettlesIn (codes : List Nat) (code : Nat) : Prop :=
  smallCode code ∈ codes ∧ smallCode (smallCode code) = smallCode code

theorem settlesIn_self {codes : List Nat} {code : Nat} (member : code ∈ codes)
    (small : smallCode code = code) : SettlesIn codes code := by
  rw [SettlesIn, small]
  exact ⟨member, small⟩

theorem settlesIn_of_sent {codes : List Nat} {code image : Nat} (member : image ∈ codes)
    (sent : smallCode code = image) (small : smallCode image = image) : SettlesIn codes code := by
  rw [SettlesIn, sent]
  exact ⟨member, small⟩

namespace CaseRun

variable {run : CaseRun} {code other offset : Nat}

def lastImage (run : CaseRun) : Nat :=
  run.image + (run.last - run.first)

/-- Of each pair, the small letter of one is the other, or both are small. -/
def settles (run : CaseRun) : Bool :=
  (sentBy lowerRuns run.first run.last run.step run.image &&
      keptSmall run.image run.lastImage run.step) ||
    (sentBy lowerRuns run.image run.lastImage run.step run.first &&
      keptSmall run.first run.last run.step) ||
    (keptSmall run.first run.last run.step && keptSmall run.image run.lastImage run.step)

/-- The two codes stand at one place of the run. -/
structure Pairs (run : CaseRun) (code other : Nat) (offset : Nat) : Prop where
  first : code = run.first + offset
  second : other = run.image + offset
  inside : run.first + offset ≤ run.last
  aligned : offset % run.step = 0

theorem Pairs.settlesIn (pairs : run.Pairs code other offset) (settles : run.settles = true) :
    SettlesIn [code, other] code ∧ SettlesIn [code, other] other := by
  obtain ⟨rfl, rfl, inside, aligned⟩ := pairs
  have insideImage : run.image + offset ≤ run.lastImage := by
    rw [lastImage]
    omega
  simp only [CaseRun.settles, Bool.or_eq_true, Bool.and_eq_true] at settles
  obtain (⟨sent, kept⟩ | ⟨sent, kept⟩) | ⟨one, two⟩ := settles
  · have capital := smallCode_of_sent inside aligned sent
    have small := smallCode_of_kept insideImage aligned kept
    exact ⟨settlesIn_of_sent (by simp) capital small, settlesIn_self (by simp) small⟩
  · have capital := smallCode_of_sent insideImage aligned sent
    have small := smallCode_of_kept inside aligned kept
    exact ⟨settlesIn_self (by simp) small, settlesIn_of_sent (by simp) capital small⟩
  · exact ⟨settlesIn_self (by simp) (smallCode_of_kept inside aligned one),
      settlesIn_self (by simp) (smallCode_of_kept insideImage aligned two)⟩

theorem exists_pairs_of_forward? (sent : run.forward? code = some other) :
    ∃ offset, run.Pairs code other offset := by
  unfold forward? at sent
  split at sent
  · rename_i inside
    obtain ⟨low, high, aligned⟩ := inside
    cases sent
    exact ⟨code - run.first, by omega, rfl, by omega, aligned⟩
  · cases sent

theorem exists_pairs_of_backward? (ordered : run.first ≤ run.last)
    (sent : run.backward? code = some other) : ∃ offset, run.Pairs other code offset := by
  unfold backward? at sent
  split at sent
  · rename_i inside
    obtain ⟨low, high, aligned⟩ := inside
    cases sent
    exact ⟨code - run.image, rfl, by omega, by omega, aligned⟩
  · cases sent

/-- The codes are characters other than the dotted capital `İ`, which has two small letters,
and the capital sigma, whose small letter depends on its place. -/
def regular (first last : Nat) : Bool :=
  (last.blt 0xD800 || (Nat.blt 0xDFFF first && last.blt 0x110000)) &&
    (last.blt 0x0130 || Nat.blt 0x0130 first) && (last.blt 0x03A3 || Nat.blt 0x03A3 first)

theorem of_regular {first last : Nat} (checked : regular first last = true) (low : first ≤ code)
    (high : code ≤ last) : code.isValidChar ∧ code ≠ 0x0130 ∧ code ≠ 0x03A3 := by
  simp only [regular, Bool.or_eq_true, Bool.and_eq_true, Nat.blt_eq] at checked
  obtain ⟨⟨valid, noDot⟩, noSigma⟩ := checked
  refine ⟨?_, by omega, by omega⟩
  rw [Nat.isValidChar]
  omega

def isRegular (run : CaseRun) : Bool :=
  run.first.ble run.last && regular run.first run.last && regular run.image run.lastImage

theorem Pairs.regular (pairs : run.Pairs code other offset) (checked : run.isRegular = true) :
    (code.isValidChar ∧ code ≠ 0x0130 ∧ code ≠ 0x03A3) ∧
      (other.isValidChar ∧ other ≠ 0x0130 ∧ other ≠ 0x03A3) := by
  obtain ⟨rfl, rfl, inside, _⟩ := pairs
  simp only [isRegular, Bool.and_eq_true] at checked
  obtain ⟨⟨_, first⟩, image⟩ := checked
  refine ⟨of_regular first (by omega) inside, of_regular image (by omega) ?_⟩
  rw [lastImage]
  omega

end CaseRun

theorem casePairs_checked :
    casePairs.all (fun run => run.settles && run.isRegular) = true := by
  decide +kernel

theorem largeCaseGroups_settle :
    largeCaseGroups.all (fun group => group.all fun code =>
      keptSmall code code 1 || group.any fun image =>
        sentBy lowerRuns code code 1 image && keptSmall image image 1) = true := by
  decide +kernel

theorem find?_largeCaseGroups : ∀ group ∈ largeCaseGroups, ∀ code ∈ group,
    largeCaseGroups.find? (·.contains code) = some group := by
  decide +kernel

theorem regular_largeCaseGroups : ∀ group ∈ largeCaseGroups, ∀ code ∈ group,
    code.isValidChar ∧ code ≠ 0x0130 := by
  decide +kernel

theorem largeCaseGroups_sigma : ∀ group ∈ largeCaseGroups, 0x03A3 ∈ group →
    group = [0x03A3, 0x03C2, 0x03C3] := by
  decide +kernel

theorem settlesIn_group {group : List Nat} {code : Nat} (member : group ∈ largeCaseGroups)
    (inGroup : code ∈ group) : SettlesIn group code := by
  have checked := List.all_eq_true.mp
    (List.all_eq_true.mp largeCaseGroups_settle group member) code inGroup
  simp only [Bool.or_eq_true, List.any_eq_true, Bool.and_eq_true] at checked
  obtain kept | ⟨image, inImage, sent, kept⟩ := checked
  · exact settlesIn_self inGroup (@smallCode_of_kept code code 1 0 (Nat.le_refl _) rfl kept)
  · exact settlesIn_of_sent inImage (@smallCode_of_sent code code 1 0 image (Nat.le_refl _) rfl sent)
      (@smallCode_of_kept image image 1 0 (Nat.le_refl _) rfl kept)

theorem mem_caseVariantCodes_of_group {group : List Nat} {code other : Nat}
    (member : group ∈ largeCaseGroups) (inGroup : code ∈ group) :
    other ∈ caseVariantCodes code ↔ other ∈ group ∧ other ≠ code := by
  rw [caseVariantCodes, find?_largeCaseGroups group member code inGroup]
  simp

/-- Case variants are members of one large group or stand at one place of a run of pairs. -/
theorem variant_cases {code other : Nat} (variant : other ∈ caseVariantCodes code) :
    (∃ group ∈ largeCaseGroups, code ∈ group ∧ other ∈ group) ∨
      ∃ run ∈ casePairs, ∃ offset, run.Pairs code other offset ∨ run.Pairs other code offset := by
  unfold caseVariantCodes at variant
  split at variant
  · rename_i group found
    left
    exact ⟨group, List.mem_of_find?_eq_some found, by simpa using List.find?_some found,
      List.mem_of_mem_filter variant⟩
  · right
    rw [List.mem_append, Option.mem_toList, Option.mem_toList] at variant
    obtain forward | backward := variant
    · obtain ⟨run, member, sent⟩ := List.exists_of_findSome?_eq_some forward
      obtain ⟨offset, pairs⟩ := CaseRun.exists_pairs_of_forward? sent
      exact ⟨run, member, offset, .inl pairs⟩
    · obtain ⟨run, member, sent⟩ := List.exists_of_findSome?_eq_some backward
      have checked := List.all_eq_true.mp casePairs_checked run member
      simp only [CaseRun.isRegular, Bool.and_eq_true, Nat.ble_eq] at checked
      obtain ⟨offset, pairs⟩ := CaseRun.exists_pairs_of_backward? checked.2.1.1 sent
      exact ⟨run, member, offset, .inr pairs⟩

theorem regular_of_variant {code other : Nat} (variant : other ∈ caseVariantCodes code) :
    (other.isValidChar ∧ other ≠ 0x0130) ∧
      (other = 0x03A3 → code = 0x03A3 ∨ code = 0x03C2 ∨ code = 0x03C3) := by
  obtain ⟨group, member, inGroup, ofOther⟩ | ⟨run, member, offset, pairs⟩ := variant_cases variant
  · refine ⟨regular_largeCaseGroups group member other ofOther, ?_⟩
    rintro rfl
    rw [largeCaseGroups_sigma group member ofOther] at inGroup
    simpa using inGroup
  · have checked := List.all_eq_true.mp casePairs_checked run member
    rw [Bool.and_eq_true] at checked
    have regular : other.isValidChar ∧ other ≠ 0x0130 ∧ other ≠ 0x03A3 := by
      obtain pairs | pairs := pairs
      · exact (pairs.regular checked.2).2
      · exact (pairs.regular checked.2).1
    exact ⟨⟨regular.1, regular.2.1⟩, fun sigma => absurd sigma regular.2.2⟩

/-- The small letter of a case variant is small itself, a form of the one character and of the
other. -/
theorem smallCode_of_variant {code other : Nat} (variant : other ∈ caseVariantCodes code) :
    smallCode (smallCode other) = smallCode other ∧
      (smallCode other = code ∨ smallCode other ∈ caseVariantCodes code) ∧
      (other = smallCode other ∨ other ∈ caseVariantCodes (smallCode other)) := by
  obtain ⟨group, member, inGroup, ofOther⟩ | ⟨run, member, offset, pairs⟩ := variant_cases variant
  · obtain ⟨ofSmall, settled⟩ := settlesIn_group member ofOther
    refine ⟨settled, ?_, ?_⟩
    · rw [mem_caseVariantCodes_of_group member inGroup]
      exact Classical.or_iff_not_imp_left.mpr fun unequal => ⟨ofSmall, unequal⟩
    · rw [mem_caseVariantCodes_of_group member ofSmall]
      exact Classical.or_iff_not_imp_left.mpr fun unequal => ⟨ofOther, unequal⟩
  · have checked := List.all_eq_true.mp casePairs_checked run member
    rw [Bool.and_eq_true] at checked
    obtain ⟨ofSmall, settled⟩ : (smallCode other = code ∨ smallCode other = other) ∧
        smallCode (smallCode other) = smallCode other := by
      obtain pairs | pairs := pairs
      · simpa [SettlesIn] using (pairs.settlesIn checked.1).2
      · simpa [SettlesIn, or_comm] using (pairs.settlesIn checked.1).1
    obtain same | same := ofSmall
    · rw [same]
      exact ⟨same ▸ settled, .inl rfl, .inr variant⟩
    · rw [same]
      exact ⟨same, .inr variant, .inl rfl⟩

/-! ## Small characters -/

/-- A character that small letters leave alone. -/
def IsSmall (char : Char) : Prop :=
  lowerChar char = [char]

instance (char : Char) : Decidable (IsSmall char) :=
  inferInstanceAs (Decidable (lowerChar char = [char]))

/-- Another small letter that counts as the same if case is ignored. -/
def SmallTwin (char other : Char) : Prop :=
  other ≠ char ∧ other ∈ caseVariants char ∧ IsSmall other

instance (char other : Char) : Decidable (SmallTwin char other) :=
  inferInstanceAs (Decidable (other ≠ char ∧ other ∈ caseVariants char ∧ IsSmall other))

theorem lowerChar_eq {char : Char} (regular : char.toNat ≠ 0x0130) :
    lowerChar char = [Char.ofNat (smallCode char.toNat)] := by
  rw [lowerChar, if_neg regular, smallCode]
  cases lowerRuns.findSome? (·.forward? char.toNat) with
  | none => exact congrArg (fun same => [same]) (Char.ofNat_toNat char).symm
  | some image => rfl

theorem IsSmall.toNat_ne {char : Char} (small : IsSmall char) : char.toNat ≠ 0x0130 := by
  intro dotted
  rw [IsSmall, lowerChar, if_pos dotted] at small
  cases small

theorem not_isSmall_sigma : ¬ IsSmall 'Σ' := by
  decide +kernel

theorem exists_small_of_variant {char other : Char} (small : IsSmall char)
    (variant : other ∈ caseVariants char) :
    ∃ low, lowerChar other = [low] ∧ IsSmall low ∧ (low = char ∨ low ∈ caseVariants char) ∧
      (other = low ∨ other ∈ caseVariants low) := by
  obtain ⟨code, ofCode, rfl⟩ := List.mem_map.mp variant
  obtain ⟨⟨valid, undotted⟩, _⟩ := regular_of_variant ofCode
  obtain ⟨settled, ofChar, ofOther⟩ := smallCode_of_variant ofCode
  have lowered : lowerChar (Char.ofNat code) = [Char.ofNat (smallCode code)] := by
    rw [lowerChar_eq (by rwa [toNat_ofNat valid]), toNat_ofNat valid]
  have regular : (smallCode code).isValidChar ∧ smallCode code ≠ 0x0130 := by
    obtain same | form := ofChar
    · rw [same]
      exact ⟨char.valid, small.toNat_ne⟩
    · exact (regular_of_variant form).1
  have back : (Char.ofNat (smallCode code)).toNat = smallCode code := toNat_ofNat regular.1
  refine ⟨_, lowered, ?_, ?_, ?_⟩
  · rw [IsSmall, lowerChar_eq (by rw [back]; exact regular.2), back, settled]
  · refine ofChar.imp (fun same => ?_) fun form => List.mem_map_of_mem form
    rw [same, Char.ofNat_toNat]
  · rw [caseVariants, back]
    exact ofOther.imp (fun same => congrArg Char.ofNat same) fun form => List.mem_map_of_mem form

theorem sigma_variant {char : Char} (small : IsSmall char) (variant : 'Σ' ∈ caseVariants char) :
    char = 'ς' ∨ char = 'σ' := by
  obtain ⟨code, ofCode, same⟩ := List.mem_map.mp variant
  obtain ⟨⟨valid, _⟩, sigma⟩ := regular_of_variant ofCode
  have sign : code = 0x03A3 := by
    rw [← toNat_ofNat valid, same]
    rfl
  have back := Char.ofNat_toNat char
  obtain capital | final | medial := sigma sign
  · rw [capital] at back
    exact absurd (back ▸ small) not_isSmall_sigma
  · rw [final] at back
    exact .inl back.symm
  · rw [medial] at back
    exact .inr back.symm

/-! ## Texts in small letters -/

/-- One character of a text in small letters: a small letter of the same kind. -/
theorem lowerFrom_form {char other : Char} (small : IsSmall char)
    (form : other = char ∨ other ∈ caseVariants char) (before rest : List Char) :
    ∃ low, lowerFrom before (other :: rest) = low :: lowerFrom (other :: before) rest ∧
      (low = char ∨ SmallTwin char low) ∧ (other = low ∨ other ∈ caseVariants low) := by
  by_cases sigma : other = 'Σ'
  · subst sigma
    have variant := form.resolve_left fun same => not_isSmall_sigma (same ▸ small)
    refine ⟨_, by rw [lowerFrom, if_pos rfl]; rfl, ?_⟩
    obtain rfl | rfl := sigma_variant small variant
    all_goals split
    all_goals decide +kernel
  · obtain ⟨low, lowered, ofLow, ofChar, ofOther⟩ : ∃ low, lowerChar other = [low] ∧ IsSmall low ∧
        (low = char ∨ low ∈ caseVariants char) ∧ (other = low ∨ other ∈ caseVariants low) := by
      obtain rfl | variant := form
      · exact ⟨other, small, small, .inl rfl, .inl rfl⟩
      · exact exists_small_of_variant small variant
    refine ⟨low, by rw [lowerFrom, if_neg sigma, lowered]; rfl, ?_, ofOther⟩
    by_cases same : low = char
    · exact .inl same
    · exact .inr ⟨same, ofChar.resolve_left same, ofLow⟩

theorem lowerFrom_of_small {text : List Char} (small : ∀ char ∈ text, IsSmall char)
    (before : List Char) : lowerFrom before text = text := by
  induction text generalizing before with
  | nil => rfl
  | cons char rest ih =>
      obtain ⟨here, later⟩ := List.forall_mem_cons.mp small
      have other : char ≠ 'Σ' := fun same => not_isSmall_sigma (same ▸ here)
      rw [lowerFrom, if_neg other, here, ih later]
      rfl

theorem small_of_lowerFrom {text before : List Char} (same : lowerFrom before text = text) :
    ∀ char ∈ text, IsSmall char := by
  induction text generalizing before with
  | nil => exact List.forall_mem_nil _
  | cons char rest ih =>
      rw [lowerFrom] at same
      split at same
      · rename_i sigma
        have first := (List.cons.inj same).1
        rw [sigma] at first
        split at first <;> cases first
      · by_cases dotted : char.toNat = 0x0130
        · rw [lowerChar, if_pos dotted] at same
          have first := (List.cons.inj same).1
          rw [← first] at dotted
          cases dotted
        · rw [lowerChar_eq dotted] at same
          obtain ⟨first, later⟩ := List.cons.inj same
          refine List.forall_mem_cons.mpr ⟨?_, ih later⟩
          rw [IsSmall, lowerChar_eq dotted, first]

/-- A text is its own form in small letters exactly if its characters are small. -/
theorem toLower_eq_self_iff {text : List Char} :
    toLower text = text ↔ ∀ char ∈ text, IsSmall char :=
  ⟨small_of_lowerFrom, fun small => lowerFrom_of_small small []⟩

/-- A text that is another in any case is, in small letters, that other but for twins. -/
theorem lowerFrom_forms {letters text : List Char} (small : ∀ char ∈ letters, IsSmall char)
    (forms : Forall₂ (fun char other => other = char ∨ other ∈ caseVariants char) letters text)
    (before : List Char) :
    Forall₂ (fun char low => low = char ∨ SmallTwin char low) letters (lowerFrom before text) ∧
      Forall₂ (fun low other => other = low ∨ other ∈ caseVariants low)
        (lowerFrom before text) text := by
  induction forms generalizing before with
  | nil => exact ⟨.nil, .nil⟩
  | cons form _ ih =>
      obtain ⟨here, later⟩ := List.forall_mem_cons.mp small
      obtain ⟨low, lowered, ofChar, ofOther⟩ := lowerFrom_form here form before _
      obtain ⟨twins, back⟩ := ih later _
      rw [lowered]
      exact ⟨.cons ofChar twins, .cons ofOther back⟩

end TextSchema.Text
