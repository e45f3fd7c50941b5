import Mathlib.Logic.Function.Basic
import TextSchema.Field.TypeName

/-!
# Type names and their parts

A type name is a base name and a cardinality in one text. Every name is put together again
from the parts that it splits into. The other way round, parts are told from the name made
of them unless a base name that is taken once ends in a suffix of its own, for then its
suffix is read as a cardinality. Only such parts share their name with others.
-/

set_option autoImplicit false

namespace TextSchema

namespace Cardinality

variable {sign : Char} {cardinality : Cardinality}

theorem ofSuffix?_eq_some_iff : ofSuffix? sign = some cardinality ↔ cardinality.suffix? = some sign := by
  constructor
  · intro denotes
    unfold ofSuffix? at denotes
    split at denotes <;> cases denotes <;> rfl
  · intro written
    cases cardinality <;> cases written <;> rfl

theorem suffix?_eq_none_iff : cardinality.suffix? = none ↔ cardinality = .one := by
  cases cardinality <;> decide

/-- The listed suffixes are those that cardinalities are written with. -/
theorem mem_suffixes_iff :
    sign ∈ suffixes.toList ↔ ∃ cardinality : Cardinality, cardinality.suffix? = some sign := by
  have signs : suffixes.toList = ['?', '*', '+'] := by decide
  simp only [signs, List.mem_cons, List.not_mem_nil, or_false]
  constructor
  · rintro (rfl | rfl | rfl)
    · exact ⟨.zeroOrOne, rfl⟩
    · exact ⟨.zeroOrMore, rfl⟩
    · exact ⟨.oneOrMore, rfl⟩
  · rintro ⟨cardinality, written⟩
    cases cardinality <;> cases written <;> decide

end Cardinality

namespace TypeName

open Cardinality

/-! ## Suffixes -/

def EndsInSuffix (name : String) : Prop :=
  ∃ (front : String) (sign : Char), sign ∈ suffixes.toList ∧ name = front.push sign

theorem hasSuffix_push (front : String) (sign : Char) :
    hasSuffix (front.push sign) = (ofSuffix? sign).isSome := by
  rw [hasSuffix, String.toList_push, List.getLast?_concat, Option.bind_some]

theorem hasSuffix_iff {name : String} : hasSuffix name = true ↔ EndsInSuffix name := by
  have ofSign : ∀ sign, (ofSuffix? sign).isSome = true ↔ sign ∈ suffixes.toList := by
    intro sign
    simp only [Option.isSome_iff_exists, ofSuffix?_eq_some_iff, mem_suffixes_iff]
  constructor
  · intro suffixed
    induction name using String.push_induction with
    | empty => cases suffixed
    | push front sign _ =>
        rw [hasSuffix_push, ofSign] at suffixed
        exact ⟨front, sign, suffixed, rfl⟩
  · rintro ⟨front, sign, member, rfl⟩
    rw [hasSuffix_push, ofSign]
    exact member

/-! ## Taking names apart -/

theorem split_of_plain {name : String} (plain : ¬ EndsInSuffix name) :
    split name = (name, .one) := by
  rw [← hasSuffix_iff, hasSuffix, Bool.not_eq_true, Option.isSome_eq_false_iff,
    Option.isNone_iff_eq_none] at plain
  rw [split, plain]

section Written

variable {sign : Char} {cardinality : Cardinality} (written : cardinality.suffix? = some sign)
  (base : String)

include written

theorem make_eq_push : make base cardinality = base.push sign := by
  rw [make, written]

theorem split_push : split (base.push sign) = (base, cardinality) := by
  rw [split, String.toList_push, List.getLast?_concat, Option.bind_some,
    ofSuffix?_eq_some_iff.mpr written]
  simp only [List.dropLast_concat, String.ofList_toList]

end Written

/-- The parts of a name are those that make it, where a base name that is taken once ends in
no suffix. -/
theorem split_eq_iff {name base : String} {cardinality : Cardinality} :
    split name = (base, cardinality) ↔
      make base cardinality = name ∧ (cardinality = .one → ¬ EndsInSuffix base) := by
  constructor
  · intro parts
    by_cases suffixed : EndsInSuffix name
    · obtain ⟨front, sign, member, rfl⟩ := suffixed
      obtain ⟨denoted, written⟩ := mem_suffixes_iff.mp member
      rw [split_push written] at parts
      cases parts
      refine ⟨make_eq_push written base, ?_⟩
      rintro rfl
      cases written
    · rw [split_of_plain suffixed] at parts
      cases parts
      exact ⟨rfl, fun _ => suffixed⟩
  · rintro ⟨rfl, plain⟩
    cases written : cardinality.suffix? with
    | none =>
        obtain rfl := suffix?_eq_none_iff.mp written
        exact split_of_plain (plain rfl)
    | some sign => rw [make_eq_push written, split_push written]

/-- A name with a suffix asks for a cardinality other than one, and no other name does. -/
theorem hasSuffix_iff_ne_one {name : String} : hasSuffix name = true ↔ (split name).2 ≠ .one := by
  constructor
  · intro suffixed
    obtain ⟨front, sign, member, rfl⟩ := hasSuffix_iff.mp suffixed
    obtain ⟨cardinality, written⟩ := mem_suffixes_iff.mp member
    rw [split_push written]
    rintro rfl
    cases written
  · intro several
    by_contra plain
    rw [hasSuffix_iff] at plain
    exact several (congrArg Prod.snd (split_of_plain plain))

theorem split_make_iff {base : String} {cardinality : Cardinality} :
    split (make base cardinality) = (base, cardinality) ↔
      cardinality ≠ .one ∨ ¬ EndsInSuffix base := by
  rw [split_eq_iff, and_iff_right rfl, imp_iff_not_or]

/-- A name has the parts that it splits into and no others, but for a base name with a suffix
that is taken once. -/
theorem eq_of_make_eq {base other : String} {cardinality otherCardinality : Cardinality}
    (same : make base cardinality = make other otherCardinality)
    (first : cardinality ≠ .one ∨ ¬ EndsInSuffix base)
    (second : otherCardinality ≠ .one ∨ ¬ EndsInSuffix other) :
    (base, cardinality) = (other, otherCardinality) :=
  calc (base, cardinality) = split (make base cardinality) := (split_make_iff.mpr first).symm
    _ = split (make other otherCardinality) := congrArg split same
    _ = (other, otherCardinality) := split_make_iff.mpr second

theorem make_injective (cardinality : Cardinality) :
    Function.Injective fun base => make base cardinality := by
  intro base other same
  dsimp only at same
  cases written : cardinality.suffix? with
  | none => simpa only [make, written] using same
  | some sign =>
      rw [make_eq_push written, make_eq_push written] at same
      exact (String.push_inj.mp same).1

/-- Splitting a name and making it again gives the name, and the name has a suffix exactly if
its cardinality is not one. Making a name and splitting it gives the parts exactly unless a
base name with a suffix is taken once. So parts that differ make different names, but for
those with such a base name, and never with the same cardinality. -/
theorem names_and_parts :
    (∀ name : String, make (split name).1 (split name).2 = name ∧
      (hasSuffix name = true ↔ (split name).2 ≠ .one)) ∧
    (∀ (base : String) (cardinality : Cardinality),
      split (make base cardinality) = (base, cardinality) ↔
        cardinality ≠ .one ∨ ¬ EndsInSuffix base) ∧
    (∀ cardinality : Cardinality, Function.Injective fun base => make base cardinality) ∧
    ∀ (base other : String) (cardinality otherCardinality : Cardinality),
      (base, cardinality) ≠ (other, otherCardinality) →
      make base cardinality = make other otherCardinality →
        cardinality = .one ∧ EndsInSuffix base ∨ otherCardinality = .one ∧ EndsInSuffix other := by
  refine ⟨fun name => ⟨(split_eq_iff.mp rfl).1, hasSuffix_iff_ne_one⟩,
    fun _ _ => split_make_iff, make_injective, ?_⟩
  intro base other cardinality otherCardinality different same
  by_contra neither
  obtain ⟨first, second⟩ := not_or.mp neither
  exact different (eq_of_make_eq same (Decidable.not_and_iff_not_or_not.mp first)
    (Decidable.not_and_iff_not_or_not.mp second))

/-- One of the base names has the suffix of the other cardinality. -/
theorem names_and_parts_of_nested :
    ("Zahl+?", Cardinality.one) ≠ ("Zahl+", .zeroOrOne) ∧
      make "Zahl+?" .one = make "Zahl+" .zeroOrOne ∧
      (Cardinality.one = .one ∧ EndsInSuffix "Zahl+?" ∨
        Cardinality.zeroOrOne = .one ∧ EndsInSuffix "Zahl+") := by
  have different : ("Zahl+?", Cardinality.one) ≠ ("Zahl+", .zeroOrOne) := by decide
  have same : make "Zahl+?" .one = make "Zahl+" .zeroOrOne := by decide
  exact ⟨different, same, names_and_parts.2.2.2 _ _ _ _ different same⟩

end TypeName

end TextSchema
