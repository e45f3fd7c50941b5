import TextSchema.FieldType.Choice
import TextSchema.Proofs.FieldType.ListDecoding

/-!
# Decoding choices

Strict and mild choices, with and without the place in the list, are four types of the same
texts. They differ only in what they make of a text outside of the list and in whether they
tell the place: where a strict one succeeds the mild one gives the same value, and the place
is the first one at which the normalised text stands. Listed texts are normalised once and
the text to be decoded as well, so a listed text that is already normalised decodes to itself
exactly if normalising it again does not change it.
-/

set_option autoImplicit false

namespace TextSchema

/-! ## Places in a list -/

/-- The first place of a list at which a text stands. -/
def FirstAt (texts : List String) (text : String) (place : Nat) : Prop :=
  texts[place]? = some text ∧ ∀ before < place, texts[before]? ≠ some text

theorem idxOf?_eq_some_iff_firstAt {texts : List String} {text : String} {place : Nat} :
    texts.idxOf? text = some place ↔ FirstAt texts text place := by
  rw [List.idxOf?_eq_some_iff]
  constructor
  · rintro ⟨inside, here, first⟩
    refine ⟨List.getElem?_eq_some_iff.mpr ⟨inside, here⟩, fun before earlier there => ?_⟩
    obtain ⟨_, same⟩ := List.getElem?_eq_some_iff.mp there
    exact first before earlier same
  · rintro ⟨here, first⟩
    obtain ⟨inside, same⟩ := List.getElem?_eq_some_iff.mp here
    exact ⟨inside, same, fun before earlier there =>
      first before earlier (List.getElem?_eq_some_iff.mpr ⟨earlier.trans inside, there⟩)⟩

theorem exists_firstAt {texts : List String} {text : String} (member : text ∈ texts) :
    ∃ place, FirstAt texts text place := by
  simp only [← idxOf?_eq_some_iff_firstAt]
  exact Option.ne_none_iff_exists'.mp fun nowhere => List.idxOf?_eq_none_iff.mp nowhere member

/-! ## One choice -/

/-- A type for listed texts, made by any settings that come to normalising texts in this way
and to this strictness. Without a transform, texts are taken as they are. -/
inductive IsChoice (choices : List String) (normal : String → String) (strict indexed : Bool) :
    FieldType → Prop where
  | made (settings : Settings) (options : ChoiceSettings) (normalises : options.normalise = normal)
      (strictness : options.strict.getD settings.strict = strict) :
      IsChoice choices normal strict indexed (settings.choiceType choices options indexed)

namespace IsChoice

variable {choices : List String} {normal : String → String} {strict indexed : Bool}
  {type : FieldType} (choice : IsChoice choices normal strict indexed type) {text : String}

include choice

theorem choices?_eq : type.choices? = some (choices.map normal) := by
  cases choice with
  | made settings options normalises strictness => exact normalises ▸ rfl

theorem pattern_eq : type.pattern = some ("|".intercalate (choices.map normal)) := by
  cases choice with
  | made settings options normalises strictness => exact normalises ▸ rfl

theorem decode_eq (text : String) :
    type.decode text = decodeChoice (choices.map normal) strict indexed (normal text) := by
  cases choice with
  | made settings options normalises strictness =>
      subst normalises strictness
      rfl

theorem result_decode_of_firstAt {place : Nat}
    (first : FirstAt (choices.map normal) (normal text) place) :
    (type.decode text).result =
      .ok (if indexed then .tuple [.int place, .string (normal text)]
        else .string (normal text)) := by
  rw [choice.decode_eq, decodeChoice, idxOf?_eq_some_iff_firstAt.mpr first]
  rfl

theorem result_decode_of_unlisted (unlisted : normal text ∉ choices.map normal) :
    (type.decode text).result =
      if strict then .error (.notAChoice (normal text) (choices.map normal))
      else .ok (if indexed then .tuple [.null, .string (normal text)]
        else .string (normal text)) := by
  rw [choice.decode_eq, decodeChoice, List.idxOf?_eq_none_iff.mpr unlisted]
  cases strict <;> rfl

end IsChoice

/-! ## Choices of the same texts -/

namespace IsChoice

variable {choices : List String} {normal : String → String} {indexed : Bool}
  {type other : FieldType} {text : String}

/-- A strict choice takes the listed texts and refuses all others. -/
theorem result_decode_strict (choice : IsChoice choices normal true indexed type)
    (text : String) :
    normal text ∈ choices.map normal ∧ (∃ value, (type.decode text).result = .ok value) ∨
      normal text ∉ choices.map normal ∧
        (type.decode text).result = .error (.notAChoice (normal text) (choices.map normal)) := by
  by_cases listed : normal text ∈ choices.map normal
  · obtain ⟨place, first⟩ := exists_firstAt listed
    exact .inl ⟨listed, _, choice.result_decode_of_firstAt first⟩
  · exact .inr ⟨listed, choice.result_decode_of_unlisted listed⟩

theorem exists_ok_iff (choice : IsChoice choices normal true indexed type) :
    (∃ value, (type.decode text).result = .ok value) ↔ normal text ∈ choices.map normal := by
  rcases choice.result_decode_strict text with ⟨listed, success⟩ | ⟨unlisted, refused⟩
  · exact iff_of_true success listed
  · refine iff_of_false ?_ unlisted
    rintro ⟨value, success⟩
    cases refused.symm.trans success

/-- What two choices that tell alike about places make of a listed text. -/
theorem result_decode_congr {strict mild : Bool} (choice : IsChoice choices normal strict indexed type)
    (another : IsChoice choices normal mild indexed other)
    (listed : normal text ∈ choices.map normal) :
    (type.decode text).result = (other.decode text).result := by
  obtain ⟨place, first⟩ := exists_firstAt listed
  rw [choice.result_decode_of_firstAt first, another.result_decode_of_firstAt first]

theorem result_decode_plain_iff {strict : Bool} (plain : IsChoice choices normal strict false type)
    {value : Value} :
    (type.decode text).result = .ok value ↔
      value = .string (normal text) ∧ (strict = true → normal text ∈ choices.map normal) := by
  by_cases listed : normal text ∈ choices.map normal
  · obtain ⟨place, first⟩ := exists_firstAt listed
    rw [plain.result_decode_of_firstAt first]
    simp [listed, eq_comm]
  · rw [plain.result_decode_of_unlisted listed]
    cases strict <;> simp [listed, eq_comm]

/-- A place is told with a text exactly if the text stands there first. -/
theorem result_decode_place_iff {strict mild : Bool}
    (choice : IsChoice choices normal strict true type)
    (plain : IsChoice choices normal mild false other) {index : Int} {listed : String} :
    (type.decode text).result = .ok (.tuple [.int index, .string listed]) ↔
      (other.decode text).result = .ok (.string listed) ∧
        ∃ place : Nat, index = place ∧ FirstAt (choices.map normal) listed place := by
  rw [plain.result_decode_plain_iff]
  constructor
  · intro success
    by_cases member : normal text ∈ choices.map normal
    · obtain ⟨place, first⟩ := exists_firstAt member
      rw [choice.result_decode_of_firstAt first] at success
      cases success
      exact ⟨⟨rfl, fun _ => member⟩, place, rfl, first⟩
    · rw [choice.result_decode_of_unlisted member] at success
      cases strict <;> cases success
  · rintro ⟨⟨same, -⟩, place, rfl, first⟩
    obtain rfl := Value.string.inj same
    exact choice.result_decode_of_firstAt first

/-- A listed text decodes to itself exactly if normalising leaves it as it is. -/
theorem result_decode_self_iff {strict : Bool} (plain : IsChoice choices normal strict false type)
    (listed : text ∈ choices.map normal) :
    (type.decode text).result = .ok (.string text) ↔ normal text = text := by
  rw [plain.result_decode_plain_iff, Value.string.injEq]
  constructor
  · rintro ⟨same, -⟩
    exact same.symm
  · intro same
    exact ⟨same.symm, fun _ => same.symm ▸ listed⟩

end IsChoice

-- Normalised a second time, the listed text is another one.
example : ((Settings.standard.choiceType ["a"] ⟨some (· ++ "a"), none⟩ false).decode "aa").result =
    .error (.notAChoice "aaa" ["aa"]) := rfl

/-- Strict and mild choices of the same texts, telling places or not. A strict one takes the
texts that normalise to what a listed text normalises to, and there the mild one agrees with
it; other texts it refuses, and the mild ones pass them on without a place. The place that is
told is the first one of the text that the others decode to. So every listed text is decoded.
A text of the pattern decodes to itself exactly if normalising leaves it as it is, so with a
transform that changes nothing the second time all of them do. -/
theorem choices_agree {choices : List String} {normal : String → String}
    {type : Bool → Bool → FieldType}
    (made : ∀ strict indexed, IsChoice choices normal strict indexed (type strict indexed)) :
    (∀ text indexed,
      ((∃ value, ((type true indexed).decode text).result = .ok value) ↔
        ∃ choice ∈ choices, normal text = normal choice) ∧
      (∀ value, ((type true indexed).decode text).result = .ok value →
        ((type false indexed).decode text).result = .ok value) ∧
      ∀ flaw, ((type true indexed).decode text).result = .error flaw →
        flaw = .notAChoice (normal text) (choices.map normal) ∧
        ((type false false).decode text).result = .ok (.string (normal text)) ∧
        ((type false true).decode text).result =
          .ok (.tuple [.null, .string (normal text)])) ∧
    (∀ text strict mild (index : Int) listed,
      ((type strict true).decode text).result = .ok (.tuple [.int index, .string listed]) ↔
        ((type mild false).decode text).result = .ok (.string listed) ∧
          ∃ place : Nat, index = place ∧ FirstAt (choices.map normal) listed place) ∧
    (∀ indexed, ∀ choice ∈ choices,
      ∃ value, ((type true indexed).decode choice).result = .ok value) ∧
    (∀ strict indexed, (type strict indexed).choices? = some (choices.map normal) ∧
      (type strict indexed).pattern = some ("|".intercalate (choices.map normal))) ∧
    (∀ strict, ∀ entry ∈ choices.map normal,
      ((type strict false).decode entry).result = .ok (.string entry) ↔ normal entry = entry) ∧
    ((∀ text, normal (normal text) = normal text) →
      ∀ strict, ∀ entry ∈ choices.map normal,
        ((type strict false).decode entry).result = .ok (.string entry) ∧
        ∃ place : Nat, FirstAt (choices.map normal) entry place ∧
          ((type strict true).decode entry).result =
            .ok (.tuple [.int place, .string entry])) := by
  refine ⟨fun text indexed => ⟨?_, ?_, ?_⟩, ?_, ?_, ?_, ?_, ?_⟩
  · refine (made true indexed).exists_ok_iff.trans (List.mem_map.trans ?_)
    exact exists_congr fun choice => and_congr_right fun _ => eq_comm
  · intro value success
    have listed := (made true indexed).exists_ok_iff.mp ⟨value, success⟩
    exact ((made false indexed).result_decode_congr (made true indexed) listed).trans success
  · intro flaw fails
    rcases (made true indexed).result_decode_strict text with ⟨-, value, success⟩ | ⟨unlisted, refused⟩
    · cases success.symm.trans fails
    · exact ⟨Except.error.inj (fails.symm.trans refused),
        (made false false).result_decode_of_unlisted unlisted,
        (made false true).result_decode_of_unlisted unlisted⟩
  · intro text strict mild index listed
    exact (made strict true).result_decode_place_iff (made mild false)
  · intro indexed choice member
    exact (made true indexed).exists_ok_iff.mpr (List.mem_map_of_mem member)
  · exact fun strict indexed => ⟨(made strict indexed).choices?_eq, (made strict indexed).pattern_eq⟩
  · exact fun strict entry member => (made strict false).result_decode_self_iff member
  · intro idempotent strict entry member
    obtain ⟨place, first⟩ := exists_firstAt member
    have same : normal entry = entry := by
      obtain ⟨choice, -, rfl⟩ := List.mem_map.mp member
      exact idempotent choice
    have itself := ((made strict false).result_decode_self_iff member).mpr same
    exact ⟨itself, place, first,
      ((made strict true).result_decode_place_iff (made strict false)).mpr
        ⟨itself, place, rfl, first⟩⟩

/-- Two of three choices are the same text once the blanks at their ends are taken off. -/
theorem choices_agree_of_blanks :
    ∃ type : Bool → Bool → FieldType,
      (∀ strict indexed, IsChoice [" yes", "no", "yes "] trimmed strict indexed
        (type strict indexed)) ∧
      (∀ text, trimmed (trimmed text) = trimmed text) ∧
      ((type true true).decode " no").result = .ok (.tuple [.int 1, .string "no"]) ∧
      ((type false true).decode " no").result = .ok (.tuple [.int 1, .string "no"]) ∧
      ((type true true).decode "maybe ").result =
        .error (.notAChoice "maybe" ["yes", "no", "yes"]) ∧
      ((type false true).decode "maybe ").result = .ok (.tuple [.null, .string "maybe"]) ∧
      (∃ value, ((type true true).decode "yes ").result = .ok value) ∧
      ((type true false).decode "yes").result = .ok (.string "yes") := by
  have made : ∀ strict indexed, IsChoice [" yes", "no", "yes "] trimmed strict indexed
      (Settings.standard.choiceType [" yes", "no", "yes "] ⟨some trimmed, some strict⟩ indexed) :=
    fun strict indexed => .made .standard ⟨some trimmed, some strict⟩ rfl rfl
  obtain ⟨each, -, all, -, -, self⟩ := choices_agree made
  have taken : ((Settings.standard.choiceType [" yes", "no", "yes "] ⟨some trimmed, some true⟩
      true).decode " no").result = .ok (.tuple [.int 1, .string "no"]) := rfl
  have refused : ((Settings.standard.choiceType [" yes", "no", "yes "] ⟨some trimmed, some true⟩
      true).decode "maybe ").result = .error (.notAChoice "maybe" ["yes", "no", "yes"]) := rfl
  exact ⟨_, made, trimmed_trimmed, taken, (each " no" true).2.1 _ taken, refused,
    ((each "maybe " true).2.2 _ refused).2.2, all true "yes " (by decide),
    (self trimmed_trimmed true "yes" (.head _)).1⟩

end TextSchema
