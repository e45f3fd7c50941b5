import Mathlib.Data.List.Basic
import TextSchema.Schema.ByteScan

/-!
# The readings of a schema agree

A schema is read in three ways: cut into segments by characters, scanned for fields by
characters, and scanned by bytes. All three find the same fields. The walk over bytes
needs that a brace among the bytes of a schema is a brace among its characters.
-/

set_option autoImplicit false

namespace TextSchema.Schema

/-! ## Segments and fields -/

def Segment.field? : Segment → Option Field
  | .literal _ => none
  | .field slot => some slot

def fieldsOf (segments : List Segment) : List Field :=
  segments.filterMap Segment.field?

theorem fieldsOf_pushLiteral (char : Char) (segments : List Segment) :
    fieldsOf (pushLiteral char segments) = fieldsOf segments := by
  cases segments with
  | nil => rfl
  | cons segment rest => cases segment <;> rfl

theorem fieldAt?_of_unbraced {text : List Char} (unbraced : braced? text = none) :
    fieldAt? text = none := by
  rw [fieldAt?, unbraced]
  rfl

theorem braced?_of_ne {char : Char} (other : char ≠ '\x7B') (rest : List Char) :
    braced? (char :: rest) = none := by
  unfold braced?
  split
  · rename_i same
    cases same
    exact absurd rfl other
  · rfl

theorem braced?_brace (rest : List Char) :
    braced? ('\x7B' :: rest) =
      if '\x7D' ∈ rest then some ('\x7B' :: rest.takeWhile (· != '\x7D') ++ ['\x7D']) else none := by
  simp [braced?]

theorem takeWhile_closing {between after : List Char} (first : '\x7D' ∉ between) :
    (between ++ '\x7D' :: after).takeWhile (· != '\x7D') = between := by
  rw [List.takeWhile_append_of_pos]
  · simp
  · intro char member
    simpa using fun same : char = '\x7D' => first (same ▸ member)

theorem exists_of_braced? {text candidate : List Char} (braced : braced? text = some candidate) :
    ∃ between after, text = '\x7B' :: (between ++ '\x7D' :: after) ∧ '\x7D' ∉ between ∧
      candidate = '\x7B' :: (between ++ ['\x7D']) := by
  unfold braced? at braced
  split at braced
  · rename_i rest
    split at braced
    · rename_i closes
      obtain ⟨between, after, rfl, first⟩ := List.eq_append_cons_of_mem (by simpa using closes)
      cases braced
      exact ⟨between, after, rfl, first, by rw [takeWhile_closing first]; rfl⟩
    · cases braced
  · cases braced

/-- Where no closing brace comes any more, all text is literal. -/
theorem fieldsOf_segmentsFrom_of_unclosed {text : List Char} (unclosed : '\x7D' ∉ text)
    (skip : Nat) : fieldsOf (segmentsFrom skip text) = [] := by
  induction text generalizing skip with
  | nil => cases skip <;> rfl
  | cons char rest ih =>
      have later : '\x7D' ∉ rest := fun member => unclosed (.tail _ member)
      cases skip with
      | succ skip => exact ih later skip
      | zero =>
          have unbraced : braced? (char :: rest) = none := by
            by_cases opening : char = '\x7B'
            · rw [opening, braced?_brace, if_neg later]
            · exact braced?_of_ne opening rest
          rw [segmentsFrom, fieldAt?_of_unbraced unbraced]
          split <;> rw [fieldsOf_pushLiteral, ih later]

theorem braced?_append_of_unclosed {rest : List Char} (unclosed : '\x7D' ∉ rest)
    (text : List Char) : braced? ('\x7B' :: (text ++ rest)) = braced? ('\x7B' :: text) := by
  rw [braced?_brace, braced?_brace]
  by_cases closes : '\x7D' ∈ text
  · obtain ⟨between, after, rfl, first⟩ := List.eq_append_cons_of_mem closes
    have whole : (between ++ '\x7D' :: after ++ rest).takeWhile (· != '\x7D') = between := by
      rw [List.append_assoc, List.cons_append, takeWhile_closing first]
    rw [if_pos closes, if_pos (List.mem_append_left rest closes), whole, takeWhile_closing first]
  · rw [if_neg closes, if_neg (by simp [closes, unclosed])]

/-- Cutting a schema into segments and scanning it for fields agree. -/
theorem fieldsOf_segmentsFrom (skip : Nat) (text : List Char) :
    fieldsOf (segmentsFrom skip text) = fieldsFrom skip text := by
  induction text generalizing skip with
  | nil => cases skip <;> rfl
  | cons char rest ih =>
      cases skip with
      | succ skip => exact ih skip
      | zero =>
          rw [segmentsFrom, fieldsFrom]
          cases startsDoubled (char :: rest) with
          | true => rw [if_pos rfl, if_pos rfl, fieldsOf_pushLiteral, ih]
          | false =>
              rw [if_neg Bool.false_ne_true, if_neg Bool.false_ne_true]
              by_cases opening : char = '\x7B'
              · subst opening
                rw [if_neg (not_not_intro rfl), fieldAt?, braced?_brace]
                by_cases closes : '\x7D' ∈ rest
                · rw [if_pos closes]
                  dsimp only [bind, Option.bind]
                  cases Field.read _ with
                  | error _ =>
                      dsimp only
                      rw [fieldsOf_pushLiteral, ih]
                  | ok field => exact congrArg (field :: ·) (ih _)
                · rw [if_neg closes]
                  dsimp only [bind, Option.bind]
                  rw [fieldsOf_pushLiteral, fieldsOf_segmentsFrom_of_unclosed closes]
              · rw [if_pos opening, fieldAt?_of_unbraced (braced?_of_ne opening rest)]
                dsimp only
                rw [fieldsOf_pushLiteral, ih]

/-- Text without a closing brace adds no field to what stands before it. -/
theorem fieldsFrom_append_of_unclosed {rest : List Char} (unclosed : '\x7D' ∉ rest)
    (skip : Nat) (text : List Char) : fieldsFrom skip (text ++ rest) = fieldsFrom skip text := by
  have nothing : ∀ skip : Nat, fieldsFrom skip rest = [] := by
    intro skip
    rw [← fieldsOf_segmentsFrom, fieldsOf_segmentsFrom_of_unclosed unclosed]
  induction text generalizing skip with
  | nil => rw [List.nil_append, nothing]; cases skip <;> rfl
  | cons char text ih =>
      cases skip with
      | succ skip => exact ih skip
      | zero =>
          have braced := braced?_append_of_unclosed unclosed text
          cases text with
          | nil =>
              rw [List.singleton_append, fieldsFrom, fieldsFrom]
              rw [List.nil_append] at braced
              by_cases opening : char = '\x7B'
              · subst opening
                rw [braced, nothing]
                split <;> rfl
              · rw [if_pos opening, if_pos opening, nothing, nothing]
                split <;> rfl
          | cons second text =>
              rw [List.cons_append, fieldsFrom, fieldsFrom]
              by_cases opening : char = '\x7B'
              · subst opening
                rw [braced]
                simp only [ih]
                rfl
              · rw [if_pos opening, if_pos opening, ih, ih]
                rfl

/-! ## Bytes of characters -/

def encoded (text : List Char) : List UInt8 :=
  text.flatMap String.utf8EncodeChar

theorem encoded_cons (char : Char) (rest : List Char) :
    encoded (char :: rest) = String.utf8EncodeChar char ++ encoded rest :=
  List.flatMap_cons

theorem encoded_append (first second : List Char) :
    encoded (first ++ second) = encoded first ++ encoded second :=
  List.flatMap_append

theorem bytes_ofList (text : List Char) : bytes (String.ofList text) = encoded text := by
  rw [bytes, String.toByteArray_ofList, List.utf8Encode, List.toList_data_toByteArray]
  rfl

theorem bytes_append (first second : String) :
    bytes (first ++ second) = bytes first ++ bytes second := by
  simp [bytes]

theorem length_bytes (text : String) : (bytes text).length = text.utf8ByteSize := by
  rw [← String.size_toByteArray]
  rfl

theorem drop_bytes (before rest : String) :
    (bytes (before ++ rest)).drop before.utf8ByteSize = bytes rest := by
  rw [bytes_append, ← length_bytes, List.drop_left]

/-- A byte below 128 is a character of its own. -/
theorem encoded_of_low {char : Char} {byte : UInt8} (member : byte ∈ String.utf8EncodeChar char)
    (low : byte < 128) : String.utf8EncodeChar char = [byte] := by
  have bound : byte.toNat < 128 := UInt8.lt_iff_toNat_lt.mp low
  unfold String.utf8EncodeChar at member ⊢
  dsimp only at member ⊢
  split at member
  · rename_i ascii
    rw [if_pos ascii, List.mem_singleton.mp member]
  · exfalso
    repeat' split at member
    all_goals
      simp only [List.mem_cons, List.not_mem_nil, or_false] at member
      obtain rfl | rfl | rfl | rfl := member
      all_goals
        rw [UInt8.toNat_ofNat'] at bound
        omega

theorem encoded_inj {first second : List Char} : encoded first = encoded second ↔ first = second := by
  refine ⟨fun same => ?_, congrArg encoded⟩
  have texts : String.ofList first = String.ofList second := by
    apply String.toByteArray_inj.mp
    rw [String.toByteArray_ofList, String.toByteArray_ofList]
    exact congrArg List.toByteArray same
  exact String.ofList_injective texts

section Sign

variable {sign : Char} {byte : UInt8} (signs : String.utf8EncodeChar sign = [byte])
  (low : byte < 128)

include signs low

theorem eq_sign_of_mem {char : Char} (member : byte ∈ String.utf8EncodeChar char) :
    char = sign := by
  have same : encoded [char] = encoded [sign] := by
    rw [encoded_cons, encoded_cons, encoded_of_low member low, signs]
  exact (List.cons.inj (encoded_inj.mp same)).1

theorem mem_encoded_iff {text : List Char} : byte ∈ encoded text ↔ sign ∈ text := by
  rw [encoded, List.mem_flatMap]
  constructor
  · intro given
    obtain ⟨char, member, inBytes⟩ := given
    exact eq_sign_of_mem signs low inBytes ▸ member
  · intro member
    exact ⟨sign, member, signs ▸ List.mem_singleton_self byte⟩

theorem encoded_eq_cons_iff {text : List Char} {more : List UInt8} :
    encoded text = byte :: more ↔ ∃ rest, text = sign :: rest ∧ encoded rest = more := by
  constructor
  · intro same
    cases text with
    | nil => cases same
    | cons char rest =>
        have first : byte ∈ String.utf8EncodeChar char := by
          obtain ⟨head, tail, shape⟩ :=
            List.exists_cons_of_ne_nil (@String.utf8EncodeChar_ne_nil char)
          rw [encoded_cons, shape] at same
          rw [shape, (List.cons.inj same).1]
          exact List.mem_cons_self
        obtain rfl := eq_sign_of_mem signs low first
        rw [encoded_cons, signs] at same
        exact ⟨rest, rfl, (List.cons.inj same).2⟩
  · intro given
    obtain ⟨rest, rfl, rfl⟩ := given
    rw [encoded_cons, signs]
    rfl

theorem head?_encoded_iff {text : List Char} :
    (encoded text).head? = some byte ↔ text.head? = some sign := by
  rw [List.head?_eq_some_iff, List.head?_eq_some_iff]
  constructor
  · intro given
    obtain ⟨more, same⟩ := given
    obtain ⟨rest, shape, _⟩ := (encoded_eq_cons_iff signs low).mp same
    exact ⟨rest, shape⟩
  · intro given
    obtain ⟨rest, shape⟩ := given
    exact ⟨encoded rest, (encoded_eq_cons_iff signs low).mpr ⟨rest, shape, rfl⟩⟩

theorem take_encoded_iff {text : List Char} :
    (encoded text).take 2 = [byte, byte] ↔ ∃ rest, text = sign :: sign :: rest := by
  constructor
  · intro same
    have whole : encoded text = byte :: byte :: (encoded text).drop 2 := by
      have split := (List.take_append_drop 2 (encoded text)).symm
      rwa [same] at split
    obtain ⟨later, rfl, second⟩ := (encoded_eq_cons_iff signs low).mp whole
    obtain ⟨rest, rfl, _⟩ := (encoded_eq_cons_iff signs low).mp second
    exact ⟨rest, rfl⟩
  · intro given
    obtain ⟨rest, rfl⟩ := given
    rw [encoded_cons, encoded_cons, signs]
    rfl

end Sign

theorem opening_signs : String.utf8EncodeChar '\x7B' = [openingBrace] := rfl

theorem closing_signs : String.utf8EncodeChar '\x7D' = [closingBrace] := rfl

theorem opening_low : openingBrace < 128 := by decide

theorem closing_low : closingBrace < 128 := by decide

theorem startsDoubled_iff {text : List Char} :
    startsDoubled text = true ↔
      (encoded text).take 2 = [openingBrace, openingBrace] ∨
        (encoded text).take 2 = [closingBrace, closingBrace] := by
  rw [take_encoded_iff opening_signs opening_low, take_encoded_iff closing_signs closing_low]
  match text with
  | [] => simp [startsDoubled]
  | [_] => simp [startsDoubled]
  | first :: second :: rest =>
      simp only [startsDoubled, Field.isBrace, Bool.and_eq_true, Bool.or_eq_true, beq_iff_eq,
        List.cons.injEq, exists_and_left, exists_eq', and_true]
      constructor
      · rintro ⟨rfl | rfl, rfl⟩ <;> simp
      · rintro (⟨rfl, rfl⟩ | ⟨rfl, rfl⟩) <;> simp

/-! ## Moves -/

theorem cutOut?_middle (before middle after : String) :
    cutOut? (before ++ (middle ++ after)) before.utf8ByteSize
      (before.utf8ByteSize + middle.utf8ByteSize) = some middle := by
  have starts : (String.Pos.Raw.mk before.utf8ByteSize).IsValid (before ++ (middle ++ after)) :=
    String.Pos.Raw.isValid_iff_exists_append.mpr ⟨before, middle ++ after, rfl, rfl⟩
  have stops : (String.Pos.Raw.mk (before.utf8ByteSize + middle.utf8ByteSize)).IsValid
      (before ++ (middle ++ after)) := by
    refine String.Pos.Raw.isValid_iff_exists_append.mpr ⟨before ++ middle, after, ?_, ?_⟩
    · rw [String.append_assoc]
    · rw [String.rawEndPos, String.utf8ByteSize_append]
  rw [cutOut?, dif_pos ⟨starts, stops⟩]
  obtain ⟨inOrder, same⟩ : ∃ inOrder, (String.slice (before ++ (middle ++ after))
      (String.pos _ _ starts) (String.pos _ _ stops) inOrder).copy = middle := by
    refine String.copy_slice_eq_iff_splits.mpr ⟨before, after, ⟨rfl, rfl⟩, ⟨?_, ?_⟩⟩
    · rw [String.append_assoc]
    · rw [String.rawEndPos, String.utf8ByteSize_append]
      rfl
  rw [String.extract_eq_copy_slice _ _ inOrder, same]

theorem findIdx?_closing {between after : List Char} (first : '\x7D' ∉ between) :
    (encoded (between ++ '\x7D' :: after)).findIdx? (· == closingBrace) =
      some (encoded between).length := by
  have before : (encoded between).findIdx? (· == closingBrace) = none := by
    rw [List.findIdx?_eq_none_iff]
    intro byte member
    apply beq_false_of_ne
    rintro rfl
    exact first ((mem_encoded_iff closing_signs closing_low).mp member)
  rw [encoded_append, encoded_cons, closing_signs, List.findIdx?_append, before]
  simp [List.findIdx?_cons]

theorem findIdx?_unclosed {text : List Char} (unclosed : '\x7D' ∉ text) :
    (encoded text).findIdx? (· == closingBrace) = none := by
  rw [List.findIdx?_eq_none_iff]
  intro byte member
  apply beq_false_of_ne
  rintro rfl
  exact unclosed ((mem_encoded_iff closing_signs closing_low).mp member)

/-- At a character boundary the walk does what the scan by characters does. -/
theorem byteMove_eq (before : String) (text : List Char) :
    byteMove (before ++ String.ofList text) before.utf8ByteSize =
      if startsDoubled text then .skip (before.utf8ByteSize + 2)
      else if text.head? ≠ some '\x7B' then .skip (before.utf8ByteSize + 1)
      else
        match braced? text with
        | none => .stop
        | some candidate =>
            match Field.read (String.ofList candidate) with
            | .ok field => .found field (before.utf8ByteSize + (encoded candidate).length)
            | .error _ => .skip (before.utf8ByteSize + 1) := by
  unfold byteMove
  rw [drop_bytes, bytes_ofList]
  dsimp only
  simp only [← startsDoubled_iff, head?_encoded_iff opening_signs opening_low, ne_eq]
  split
  · rfl
  · split
    · rfl
    · rename_i opening
      obtain ⟨rest, rfl⟩ := List.head?_eq_some_iff.mp (Decidable.not_not.mp opening)
      cases braced : braced? ('\x7B' :: rest) with
      | none =>
          have unclosed : '\x7D' ∉ '\x7B' :: rest := by simpa [braced?_brace] using braced
          rw [findIdx?_unclosed unclosed]
      | some candidate =>
          obtain ⟨between, after, shape, first, rfl⟩ := exists_of_braced? braced
          obtain rfl := (List.cons.inj shape).2
          have close : (encoded ('\x7B' :: (between ++ '\x7D' :: after))).findIdx?
              (· == closingBrace) = some (encoded ('\x7B' :: between)).length := by
            rw [← List.cons_append]
            exact findIdx?_closing (by simpa using first)
          have cut := cutOut?_middle before (String.ofList ('\x7B' :: (between ++ ['\x7D'])))
            (String.ofList after)
          rw [← length_bytes (String.ofList ('\x7B' :: (between ++ ['\x7D']))), bytes_ofList,
            ← String.ofList_append, List.cons_append, List.append_assoc,
            List.singleton_append] at cut
          have length : (encoded ('\x7B' :: (between ++ ['\x7D']))).length =
              (encoded ('\x7B' :: between)).length + 1 := by
            rw [← List.cons_append, encoded_append, List.length_append]
            rfl
          rw [close]
          dsimp only
          rw [Nat.add_assoc, ← length]
          generalize cutOut? _ _ _ = outcome at cut ⊢
          subst cut
          rfl

theorem byteMove_of_plain {schema : String} {position : Nat} {byte : UInt8}
    (here : (bytes schema)[position]? = some byte) (notOpening : byte ≠ openingBrace)
    (notClosing : byte ≠ closingBrace) : byteMove schema position = .skip (position + 1) := by
  have head : ((bytes schema).drop position).head? = some byte := by
    rw [List.head?_drop, here]
  obtain ⟨later, shape⟩ := List.head?_eq_some_iff.mp head
  unfold byteMove
  rw [shape]
  dsimp only
  rw [if_neg, if_pos]
  · simpa using notOpening
  · simp [notOpening, notClosing]

/-! ## The walk -/

theorem fieldsFrom_skip (skip : Nat) (text : List Char) :
    fieldsFrom skip text = fieldsFrom 0 (text.drop skip) := by
  induction skip generalizing text with
  | zero => rfl
  | succ skip ih =>
      cases text with
      | nil => rfl
      | cons char rest => exact ih rest

theorem exists_of_doubled {text : List Char} (doubled : startsDoubled text = true) :
    ∃ first after, text = first ++ after ∧ first.length = 2 ∧ (encoded first).length = 2 := by
  obtain opening | closing := startsDoubled_iff.mp doubled
  · obtain ⟨after, rfl⟩ := (take_encoded_iff opening_signs opening_low).mp opening
    exact ⟨['\x7B', '\x7B'], after, rfl, rfl, rfl⟩
  · obtain ⟨after, rfl⟩ := (take_encoded_iff closing_signs closing_low).mp closing
    exact ⟨['\x7D', '\x7D'], after, rfl, rfl, rfl⟩

theorem fieldsFrom_behind (between after : List Char) :
    fieldsFrom (('\x7B' :: (between ++ ['\x7D'])).length - 1) (between ++ '\x7D' :: after) =
      fieldsFrom 0 after := by
  rw [fieldsFrom_skip, List.length_cons, List.length_append, List.length_singleton,
    Nat.add_sub_cancel, ← List.drop_drop, List.drop_left]
  rfl

theorem fieldsFromByte?_of_skip {schema : String} {position next : Nat}
    (inside : position < schema.utf8ByteSize) (move : byteMove schema position = .skip next) :
    fieldsFromByte? schema position = fieldsFromByte? schema next := by
  rw [fieldsFromByte?, if_pos inside]
  split <;> simp_all

theorem fieldsFromByte?_of_found {schema : String} {position next : Nat} {field : Field}
    (inside : position < schema.utf8ByteSize)
    (move : byteMove schema position = .found field next) :
    fieldsFromByte? schema position = (fieldsFromByte? schema next).map (field :: ·) := by
  rw [fieldsFromByte?, if_pos inside]
  split <;> simp_all

theorem fieldsFromByte?_of_stop {schema : String} {position : Nat}
    (move : byteMove schema position = .stop) : fieldsFromByte? schema position = some [] := by
  rw [fieldsFromByte?]
  split
  · split <;> simp_all
  · rfl

theorem inside_of_byte {schema : String} {position : Nat} {byte : UInt8}
    (here : (bytes schema)[position]? = some byte) : position < schema.utf8ByteSize := by
  rw [← length_bytes]
  exact (List.getElem?_eq_some_iff.mp here).1

theorem bytes_getElem?_within {before : String} {char : Char} {rest : List Char} {place : Nat}
    (within : place < (String.utf8EncodeChar char).length) :
    (bytes (before ++ String.ofList (char :: rest)))[before.utf8ByteSize + place]? =
      some (String.utf8EncodeChar char)[place] := by
  rw [← List.getElem?_drop, drop_bytes, bytes_ofList, encoded_cons,
    List.getElem?_append_left within, List.getElem?_eq_getElem within]

/-- No byte after the first of a character is a brace, so the walk goes to the end of
the character. -/
theorem fieldsFromByte?_within {before : String} {char : Char} {rest : List Char} {place : Nat}
    (later : 0 < place) (within : place ≤ (String.utf8EncodeChar char).length) :
    fieldsFromByte? (before ++ String.ofList (char :: rest)) (before.utf8ByteSize + place) =
      fieldsFromByte? (before ++ String.ofList (char :: rest))
        (before.utf8ByteSize + (String.utf8EncodeChar char).length) := by
  obtain ⟨gap, total⟩ := Nat.exists_eq_add_of_le within
  induction gap generalizing place with
  | zero => rw [total, Nat.add_zero]
  | succ gap ih =>
      have inside : place < (String.utf8EncodeChar char).length := by omega
      have here := @bytes_getElem?_within before _ rest _ inside
      have high : ∀ sign : UInt8, sign < 128 → (String.utf8EncodeChar char)[place] ≠ sign := by
        rintro sign low rfl
        have single := congrArg List.length (encoded_of_low (List.getElem_mem inside) low)
        rw [List.length_singleton] at single
        omega
      have move := byteMove_of_plain here (high _ opening_low) (high _ closing_low)
      rw [fieldsFromByte?_of_skip (inside_of_byte here) move]
      exact ih (Nat.succ_pos place) inside (by omega)

theorem fieldsFromByte?_eq (before : String) (text : List Char) :
    fieldsFromByte? (before ++ String.ofList text) before.utf8ByteSize =
      some (fieldsFrom 0 text) := by
  have onward : ∀ first after : List Char, first ≠ [] → text = first ++ after →
      fieldsFromByte? (before ++ String.ofList text)
        (before.utf8ByteSize + (encoded first).length) = some (fieldsFrom 0 after) := by
    intro first after nonempty same
    have shorter : after.length < text.length := by
      rw [same, List.length_append]
      exact Nat.lt_add_of_pos_left (List.length_pos_iff.mpr nonempty)
    have later := fieldsFromByte?_eq (before ++ String.ofList first) after
    rwa [String.utf8ByteSize_append, ← length_bytes (String.ofList first), bytes_ofList,
      String.append_assoc, ← String.ofList_append, ← same] at later
  have move := byteMove_eq before text
  cases text with
  | nil =>
      rw [fieldsFromByte?, if_neg]
      · rfl
      · simp
  | cons char rest =>
      have inside : before.utf8ByteSize < (before ++ String.ofList (char :: rest)).utf8ByteSize :=
        inside_of_byte (bytes_getElem?_within
          (List.length_pos_iff.mpr String.utf8EncodeChar_ne_nil))
      rw [fieldsFrom]
      cases doubled : startsDoubled (char :: rest) with
      | true =>
          rw [doubled, if_pos rfl] at move
          obtain ⟨first, after, shape, two, size⟩ := exists_of_doubled doubled
          have next := onward first after (List.ne_nil_of_length_eq_add_one two) shape
          have behind : rest.drop 1 = after := by
            have both := congrArg (List.drop 2) shape
            rwa [← two, List.drop_left, two] at both
          rw [if_pos rfl, fieldsFromByte?_of_skip inside move, fieldsFrom_skip, behind, ← next, size]
      | false =>
          rw [doubled, if_neg Bool.false_ne_true] at move
          rw [if_neg Bool.false_ne_true]
          by_cases opening : char = '\x7B'
          · subst opening
            rw [if_neg (by simp)] at move
            rw [if_neg (not_not_intro rfl)]
            cases braced : braced? ('\x7B' :: rest) with
            | none =>
                rw [braced] at move
                exact fieldsFromByte?_of_stop move
            | some candidate =>
                rw [braced] at move
                dsimp only at move ⊢
                cases reading : Field.read (String.ofList candidate) with
                | error _ =>
                    rw [reading] at move
                    rw [fieldsFromByte?_of_skip inside move]
                    exact onward ['\x7B'] rest (List.cons_ne_nil _ _) rfl
                | ok field =>
                    rw [reading] at move
                    obtain ⟨between, after, shape, _, rfl⟩ := exists_of_braced? braced
                    obtain rfl := (List.cons.inj shape).2
                    have next := onward ('\x7B' :: (between ++ ['\x7D'])) after
                      (List.cons_ne_nil _ _) (by simp)
                    rw [fieldsFromByte?_of_found inside move, next]
                    exact congrArg (fun later => some (field :: later))
                      (fieldsFrom_behind between after).symm
          · rw [if_pos (by simpa using opening)] at move
            rw [if_pos opening, fieldsFromByte?_of_skip inside move,
              fieldsFromByte?_within Nat.one_pos
                (List.length_pos_iff.mpr String.utf8EncodeChar_ne_nil)]
            have next := onward [char] rest (List.cons_ne_nil _ _) rfl
            rwa [encoded, List.flatMap_singleton] at next
termination_by text.length

theorem isValid_of_opening {schema : String} {position : Nat}
    (here : (bytes schema)[position]? = some openingBrace) :
    (String.Pos.Raw.mk position).IsValid schema := by
  refine String.Pos.Raw.isValid_iff_isUTF8FirstByte.mpr (.inr ⟨inside_of_byte here, ?_⟩)
  have byte : schema.getUTF8Byte ⟨position⟩ (inside_of_byte here) = openingBrace :=
    (List.getElem?_eq_some_iff.mp here).2
  rw [byte]
  exact .inl rfl

/-- Where the walk does not go on, an opening brace begins a character. -/
theorem boundary_of_end {schema : String} {position : Nat}
    (ends : (byteMove schema position).next? = none) :
    ∃ before rest : String, schema = before ++ rest ∧ position = before.utf8ByteSize := by
  have opening : (bytes schema)[position]? = some openingBrace := by
    unfold byteMove at ends
    dsimp only at ends
    split at ends
    · cases ends
    · split at ends
      · cases ends
      · rename_i opening
        rwa [List.head?_drop, ne_eq, Decidable.not_not] at opening
  obtain ⟨before, rest, whole, place⟩ :=
    String.Pos.Raw.isValid_iff_exists_append.mp (isValid_of_opening opening)
  exact ⟨before, rest, whole, congrArg String.Pos.Raw.byteIdx place⟩

theorem braced?_of_stop {before : String} {text : List Char}
    (stops : byteMove (before ++ String.ofList text) before.utf8ByteSize = .stop) :
    text.head? = some '\x7B' ∧ braced? text = none := by
  rw [byteMove_eq] at stops
  split at stops
  · cases stops
  · split at stops
    · cases stops
    · rename_i opening
      refine ⟨Decidable.not_not.mp opening, ?_⟩
      split at stops
      · assumption
      · split at stops <;> cases stops

/-- No field is read from a text that begins or ends inside a character. -/
theorem byteMove_ne_torn (schema : String) (position : Nat) :
    byteMove schema position ≠ .torn := by
  intro torn
  obtain ⟨before, rest, rfl, rfl⟩ := boundary_of_end (by rw [torn]; rfl)
  have move := byteMove_eq before rest.toList
  rw [String.ofList_toList, torn] at move
  repeat' split at move
  all_goals cases move

/-- The walk stops only at an opening brace without a closing one behind it, and the
text up to there has all fields of the schema. -/
theorem fields_before_of_stop {schema : String} {position : Nat}
    (stops : byteMove schema position = .stop) :
    ∃ before rest : String, schema = before ++ rest ∧ position = before.utf8ByteSize ∧
      rest.toList.head? = some '\x7B' ∧ '\x7D' ∉ rest.toList ∧
      fieldsOf (segments before) = fieldsOf (segments schema) := by
  obtain ⟨before, rest, rfl, rfl⟩ := boundary_of_end (by rw [stops]; rfl)
  rw [← String.ofList_toList (s := rest)] at stops
  obtain ⟨opening, unbraced⟩ := braced?_of_stop stops
  obtain ⟨text, shape⟩ := List.head?_eq_some_iff.mp opening
  have unclosed : '\x7D' ∉ rest.toList := by
    simpa [shape, braced?_brace] using unbraced
  refine ⟨before, rest, rfl, rfl, opening, unclosed, ?_⟩
  rw [segments, segments, fieldsOf_segmentsFrom, fieldsOf_segmentsFrom, String.toList_append,
    fieldsFrom_append_of_unclosed unclosed]

/-- Cutting a schema into segments, scanning it by characters and walking over its bytes
give the same fields. The walk over bytes always goes on to a later position, cuts the
schema at character boundaries only, and misses no field where it stops early. -/
theorem field_scans_agree (schema : String) :
    fieldsOf (segments schema) = fields schema ∧
      fieldsFromByte? schema 0 = some (fieldsOf (segments schema)) ∧
      (∀ position next, (byteMove schema position).next? = some next → position < next) ∧
      (∀ position, byteMove schema position ≠ .torn) ∧
      ∀ position, byteMove schema position = .stop →
        ∃ before rest : String, schema = before ++ rest ∧ position = before.utf8ByteSize ∧
          rest.toList.head? = some '\x7B' ∧ '\x7D' ∉ rest.toList ∧
          fieldsOf (segments before) = fieldsOf (segments schema) := by
  have agree : fieldsOf (segments schema) = fields schema := fieldsOf_segmentsFrom 0 schema.toList
  refine ⟨agree, ?_, fun _ _ => lt_of_next?, byteMove_ne_torn schema,
    fun _ => fields_before_of_stop⟩
  have walk := fieldsFromByte?_eq "" schema.toList
  rwa [String.empty_append, String.ofList_toList, ← fields, ← agree] at walk

theorem field_scans_agree_of_unclosed :
    byteMove "é\x7Ba\x7D\x7B" 2 = .found (.named "a") 5 ∧ 2 < 5 ∧
      byteMove "é\x7Ba\x7D\x7B" 5 = .stop ∧
      ∃ before rest : String, "é\x7Ba\x7D\x7B" = before ++ rest ∧ 5 = before.utf8ByteSize ∧
        rest.toList.head? = some '\x7B' ∧ '\x7D' ∉ rest.toList ∧
        fieldsOf (segments before) = fieldsOf (segments "é\x7Ba\x7D\x7B") := by
  have found : byteMove "é\x7Ba\x7D\x7B" 2 = .found (.named "a") 5 := by decide +kernel
  have stops : byteMove "é\x7Ba\x7D\x7B" 5 = .stop := by decide +kernel
  obtain ⟨_, _, forward, _, early⟩ := field_scans_agree "é\x7Ba\x7D\x7B"
  exact ⟨found, forward 2 5 (by rw [found]; rfl), stops, early 5 stops⟩

end TextSchema.Schema
