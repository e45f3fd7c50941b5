import Mathlib.Logic.Basic
import TextSchema.Proofs.Decimal.IntegerText
import TextSchema.Value.Json

/-!
# What the JSON text of a value tells

The text of a value ends where the value says it does, so that the texts of several values
put together are told apart again. All that is lost in the text is whether a list was a
tuple. Floating-point numbers are left out: those that are not finite are written as null.
-/

set_option autoImplicit false

namespace TextSchema.Value

/-! ## Values without floating-point numbers -/

inductive FloatFree : Value → Prop where
  | null : FloatFree .null
  | bool {value : Bool} : FloatFree (.bool value)
  | int {value : Int} : FloatFree (.int value)
  | string {value : String} : FloatFree (.string value)
  | array {items : List Value} : (∀ item ∈ items, FloatFree item) → FloatFree (.array items)
  | tuple {items : List Value} : (∀ item ∈ items, FloatFree item) → FloatFree (.tuple items)
  | tagged {tag : String} {payload : Option Value} :
      (∀ value ∈ payload, FloatFree value) → FloatFree (.tagged tag payload)

theorem FloatFree.tagged_some {tag : String} {payload : Value} (free : payload.FloatFree) :
    (Value.tagged tag (some payload)).FloatFree := by
  refine .tagged ?_
  rintro _ ⟨⟩
  exact free

mutual

/-- The value with a list of the same items in place of every tuple. -/
def withoutTuples : Value → Value
  | .array items | .tuple items => .array (eachWithoutTuples items)
  | .tagged tag (some payload) => .tagged tag (some (withoutTuples payload))
  | value => value

def eachWithoutTuples : List Value → List Value
  | [] => []
  | item :: rest => withoutTuples item :: eachWithoutTuples rest

end

/-! ## Numbers -/

def isNumberSign (char : Char) : Bool :=
  char.isDigit || char == '-'

/-- A text in front of which a number ends. -/
def EndsNumber (rest : List Char) : Prop :=
  ∀ char ∈ rest.head?, isNumberSign char = false

theorem endsNumber_nil : EndsNumber [] := nofun

theorem endsNumber_cons {char : Char} {rest : List Char} (ends : isNumberSign char = false) :
    EndsNumber (char :: rest) := by
  rintro _ ⟨⟩
  exact ends

theorem isNumberSign_of_mem_nat {number : Nat} {char : Char} (member : char ∈ number.repr.toList) :
    isNumberSign char = true := by
  rw [Nat.toList_repr] at member
  exact Bool.or_eq_true_iff.mpr (.inl (Nat.isDigit_of_mem_toDigits (by decide) (by decide) member))

theorem isNumberSign_of_mem_int {number : Int} {char : Char}
    (member : char ∈ (toString number).toList) : isNumberSign char = true := by
  rw [Int.toString_eq_repr, Int.repr_eq_if] at member
  split at member
  · exact isNumberSign_of_mem_nat member
  · rw [String.toList_append, List.mem_append] at member
    rcases member with minus | digits
    · rw [List.mem_singleton.mp minus]
      rfl
    · exact isNumberSign_of_mem_nat digits

theorem exists_sign_int (number : Int) :
    ∃ char rest, (toString number).toList = char :: rest ∧ isNumberSign char = true := by
  cases text : (toString number).toList with
  | nil =>
      rw [Int.toString_eq_repr, Int.repr_eq_if] at text
      split at text
      · exact absurd (String.toList_eq_nil_iff.mp text) Nat.repr_ne_empty
      · cases (String.toList_append ▸ text : "-".toList ++ _ = [])
  | cons char rest =>
      have member : char ∈ (toString number).toList := text ▸ List.mem_cons_self
      exact ⟨char, rest, rfl, isNumberSign_of_mem_int member⟩

theorem int_append_inj {left right : Int} {rest further : List Char} (ends : EndsNumber rest)
    (endsOther : EndsNumber further)
    (same : (toString left).toList ++ rest = (toString right).toList ++ further) :
    left = right ∧ rest = further := by
  have upToEnd : ∀ (number : Int) {rest : List Char}, EndsNumber rest →
      ((toString number).toList ++ rest).takeWhile isNumberSign = (toString number).toList := by
    intro number rest ends
    rw [List.takeWhile_append_of_pos fun _ => isNumberSign_of_mem_int]
    cases rest with
    | nil => simp
    | cons char rest => simp [ends char rfl]
  have texts : (toString left).toList = (toString right).toList := by
    rw [← upToEnd left ends, same, upToEnd right endsOther]
  constructor
  · exact Decimal.toString_int_inj.mp (String.toList_inj.mp texts)
  · rw [texts] at same
    exact List.append_cancel_left same

/-! ## Strings -/

def hexValue (char : Char) : Nat :=
  if char.isDigit then char.toNat - 48 else char.toNat - 87

/-- The first character of a string that goes on as given, and the rest behind it. A quote
ends the string. -/
def firstOfString : List Char → Option (Char × List Char)
  | '\\' :: 'b' :: rest => some ('\x08', rest)
  | '\\' :: 'f' :: rest => some ('\x0C', rest)
  | '\\' :: 'n' :: rest => some ('\n', rest)
  | '\\' :: 'r' :: rest => some ('\r', rest)
  | '\\' :: 't' :: rest => some ('\t', rest)
  | '\\' :: 'u' :: '0' :: '0' :: high :: low :: rest =>
      some (Char.ofNat (16 * hexValue high + hexValue low), rest)
  | '\\' :: char :: rest => some (char, rest)
  | '"' :: _ => none
  | char :: rest => some (char, rest)
  | [] => none

theorem hexValue_control : ∀ code < 0x20,
    Char.ofNat (16 * hexValue (hexDigit (code / 16)) + hexValue (hexDigit code)) =
      Char.ofNat code := by decide

theorem firstOfString_plain {char : Char} (backslash : char ≠ '\\') (quote : char ≠ '"')
    (rest : List Char) : firstOfString (char :: rest) = some (char, rest) := by
  unfold firstOfString
  split
  all_goals simp_all

theorem firstOfString_jsonChar (char : Char) (rest : List Char) :
    firstOfString (jsonChar char ++ rest) = some (char, rest) := by
  unfold jsonChar
  split
  all_goals try rfl
  split
  · rename_i control
    have back := hexValue_control char.toNat control
    rw [Char.ofNat_toNat] at back
    simp [firstOfString, back]
  · rename_i quote backslash _ _ _ _ _ _
    exact firstOfString_plain backslash quote rest

theorem chars_append_inj {left right rest further : List Char}
    (same : left.flatMap jsonChar ++ '"' :: rest = right.flatMap jsonChar ++ '"' :: further) :
    left = right ∧ rest = further := by
  induction left generalizing right with
  | nil =>
      cases right with
      | nil => exact ⟨rfl, (List.cons.inj same).2⟩
      | cons char others =>
          have first := congrArg firstOfString same
          rw [List.flatMap_cons, List.append_assoc, firstOfString_jsonChar] at first
          cases first
  | cons char chars ih =>
      have first := congrArg firstOfString same
      rw [List.flatMap_cons, List.append_assoc, firstOfString_jsonChar] at first
      cases right with
      | nil => cases first
      | cons other others =>
          rw [List.flatMap_cons, List.append_assoc, firstOfString_jsonChar] at first
          obtain ⟨rfl, later⟩ := Prod.mk.inj (Option.some.inj first)
          obtain ⟨rfl, behind⟩ := ih later
          exact ⟨rfl, behind⟩

theorem jsonString_append_inj {left right : String} {rest further : List Char}
    (same : jsonString left ++ rest = jsonString right ++ further) :
    left = right ∧ rest = further := by
  simp only [jsonString, List.cons_append, List.append_assoc, List.nil_append] at same
  obtain ⟨texts, behind⟩ := chars_append_inj (List.cons.inj same).2
  exact ⟨String.toList_inj.mp texts, behind⟩

/-! ## Kinds -/

/-- What the first character of a text tells about its value. -/
inductive Kind where
  | null
  | bool (value : Bool)
  | number
  | string
  | list
  | object
deriving DecidableEq

def kind : Value → Kind
  | .null => .null
  | .bool value => .bool value
  | .int _ | .float _ => .number
  | .string _ => .string
  | .array _ | .tuple _ => .list
  | .tagged _ _ => .object

def kindOfSign? (char : Char) : Option Kind :=
  match char with
  | 'n' => some .null
  | 't' => some (.bool true)
  | 'f' => some (.bool false)
  | '"' => some .string
  | '[' => some .list
  | '\x7B' => some .object
  | _ => if isNumberSign char then some .number else none

theorem kindOfSign?_of_number {char : Char} (sign : isNumberSign char = true) :
    kindOfSign? char = some .number := by
  unfold kindOfSign?
  split
  case h_7 => exact if_pos sign
  all_goals exact absurd sign (by decide)

theorem FloatFree.exists_sign {value : Value} (free : value.FloatFree) :
    ∃ char rest, value.jsonChars = char :: rest ∧ kindOfSign? char = some value.kind := by
  cases free with
  | null => exact ⟨_, _, rfl, rfl⟩
  | @bool value => cases value <;> exact ⟨_, _, rfl, rfl⟩
  | @int value =>
      obtain ⟨char, rest, text, sign⟩ := exists_sign_int value
      exact ⟨char, rest, text, kindOfSign?_of_number sign⟩
  | string => exact ⟨_, _, rfl, rfl⟩
  | array => exact ⟨_, _, rfl, rfl⟩
  | tuple => exact ⟨_, _, rfl, rfl⟩
  | @tagged tag payload => cases payload <;> exact ⟨_, _, rfl, rfl⟩

theorem FloatFree.kind_eq {left right : Value} {rest further : List Char} (ofLeft : left.FloatFree)
    (ofRight : right.FloatFree) (same : left.jsonChars ++ rest = right.jsonChars ++ further) :
    left.kind = right.kind := by
  obtain ⟨char, chars, text, told⟩ := ofLeft.exists_sign
  obtain ⟨other, others, otherText, otherTold⟩ := ofRight.exists_sign
  rw [text, otherText] at same
  obtain rfl := (List.cons.inj same).1
  exact Option.some.inj (told.symm.trans otherTold)

/-- No value begins with a sign that stands behind one. -/
theorem FloatFree.jsonChars_append_ne {value : Value} {char : Char} {rest further : List Char}
    (free : value.FloatFree) (noSign : kindOfSign? char = none) :
    value.jsonChars ++ rest ≠ char :: further := by
  obtain ⟨first, chars, text, told⟩ := free.exists_sign
  intro same
  rw [text] at same
  obtain rfl := (List.cons.inj same).1
  cases noSign.symm.trans told

/-! ## Texts put together -/

/-- In front of a text that ends a number, the text of the value tells the value, up to
tuples, and where it ends. -/
def Delimited (value : Value) : Prop :=
  ∀ {other : Value} {rest further : List Char}, other.FloatFree → EndsNumber rest →
    EndsNumber further → value.jsonChars ++ rest = other.jsonChars ++ further →
    value.withoutTuples = other.withoutTuples ∧ rest = further

def furtherItems (items : List Value) : List Char :=
  items.flatMap fun item => ',' :: item.jsonChars

theorem jsonItems_cons (item : Value) (rest : List Value) :
    jsonItems (item :: rest) = item.jsonChars ++ furtherItems rest := by
  induction rest generalizing item with
  | nil => exact (List.append_nil _).symm
  | cons second rest ih => simp [jsonItems, furtherItems, ih]

theorem endsNumber_furtherItems (items : List Value) (rest : List Char) :
    EndsNumber (furtherItems items ++ ']' :: rest) := by
  cases items with
  | nil => exact endsNumber_cons rfl
  | cons item items => exact endsNumber_cons rfl

theorem furtherItems_append_inj {items others : List Value} {rest further : List Char}
    (each : ∀ item ∈ items, item.Delimited) (free : ∀ item ∈ others, item.FloatFree)
    (same : furtherItems items ++ ']' :: rest = furtherItems others ++ ']' :: further) :
    eachWithoutTuples items = eachWithoutTuples others ∧ rest = further := by
  induction items generalizing others with
  | nil =>
      cases others with
      | nil => exact ⟨rfl, (List.cons.inj same).2⟩
      | cons => cases (List.cons.inj same).1
  | cons item items ih =>
      cases others with
      | nil => cases (List.cons.inj same).1
      | cons other others =>
          obtain ⟨delimited, eachRest⟩ := List.forall_mem_cons.mp each
          obtain ⟨freeOther, freeRest⟩ := List.forall_mem_cons.mp free
          simp only [furtherItems, List.flatMap_cons, List.cons_append, List.append_assoc] at same
          obtain ⟨values, later⟩ := delimited freeOther (endsNumber_furtherItems items rest)
            (endsNumber_furtherItems others further) (List.cons.inj same).2
          obtain ⟨restValues, behind⟩ := ih eachRest freeRest later
          exact ⟨congrArg₂ List.cons values restValues, behind⟩

theorem jsonItems_append_inj {items others : List Value} {rest further : List Char}
    (ofItems : ∀ item ∈ items, item.FloatFree) (each : ∀ item ∈ items, item.Delimited)
    (free : ∀ item ∈ others, item.FloatFree)
    (same : jsonItems items ++ ']' :: rest = jsonItems others ++ ']' :: further) :
    eachWithoutTuples items = eachWithoutTuples others ∧ rest = further := by
  cases items with
  | nil =>
      cases others with
      | nil => exact ⟨rfl, (List.cons.inj same).2⟩
      | cons other others =>
          rw [jsonItems_cons, List.append_assoc] at same
          exact absurd same.symm ((free other (.head _)).jsonChars_append_ne rfl)
  | cons item items =>
      cases others with
      | nil =>
          rw [jsonItems_cons, List.append_assoc] at same
          exact absurd same ((ofItems item (.head _)).jsonChars_append_ne rfl)
      | cons other others =>
          obtain ⟨delimited, eachRest⟩ := List.forall_mem_cons.mp each
          obtain ⟨freeOther, freeRest⟩ := List.forall_mem_cons.mp free
          simp only [jsonItems_cons, List.append_assoc] at same
          obtain ⟨values, later⟩ := delimited freeOther (endsNumber_furtherItems items rest)
            (endsNumber_furtherItems others further) same
          obtain ⟨restValues, behind⟩ := furtherItems_append_inj eachRest freeRest later
          exact ⟨congrArg₂ List.cons values restValues, behind⟩

def payloadChars : Option Value → List Char
  | none => ['\x7D']
  | some payload => ',' :: jsonString "$data" ++ ':' :: payload.jsonChars ++ ['\x7D']

theorem jsonChars_tagged (tag : String) (payload : Option Value) :
    (Value.tagged tag payload).jsonChars =
      '\x7B' :: jsonString "$tag" ++ ':' :: jsonString tag ++ payloadChars payload := by
  cases payload with
  | none => rfl
  | some payload => simp [jsonChars, payloadChars]

theorem payloadChars_append_inj {payload other : Option Value} {rest further : List Char}
    (each : ∀ value ∈ payload, value.Delimited) (free : ∀ value ∈ other, value.FloatFree)
    (same : payloadChars payload ++ rest = payloadChars other ++ further) :
    payload.map withoutTuples = other.map withoutTuples ∧ rest = further := by
  cases payload with
  | none =>
      cases other with
      | none => exact ⟨rfl, (List.cons.inj same).2⟩
      | some => cases (List.cons.inj same).1
  | some payload =>
      cases other with
      | none => cases (List.cons.inj same).1
      | some other =>
          simp only [payloadChars, List.append_assoc, List.cons_append, List.cons.injEq, true_and,
            List.append_cancel_left_eq] at same
          obtain ⟨values, later⟩ := each payload rfl (free other rfl) (endsNumber_cons rfl)
            (endsNumber_cons rfl) same
          exact ⟨congrArg some values, (List.cons.inj later).2⟩

theorem withoutTuples_tagged (tag : String) (payload : Option Value) :
    (Value.tagged tag payload).withoutTuples = .tagged tag (payload.map withoutTuples) := by
  cases payload <;> rfl

/-- A value is told apart from all others if it is from those of its kind. -/
theorem delimited_of_kind {value : Value} (free : value.FloatFree)
    (alike : ∀ {other : Value} {rest further : List Char}, other.FloatFree →
      value.kind = other.kind → EndsNumber rest → EndsNumber further →
      value.jsonChars ++ rest = other.jsonChars ++ further →
      value.withoutTuples = other.withoutTuples ∧ rest = further) : value.Delimited :=
  fun ofOther ends endsOther same =>
    alike ofOther (free.kind_eq ofOther same) ends endsOther same

/-- A list or a tuple of items. -/
inductive Encloses (items : List Value) : Value → Prop where
  | array : Encloses items (.array items)
  | tuple : Encloses items (.tuple items)

theorem FloatFree.exists_items {value : Value} (free : value.FloatFree)
    (list : value.kind = .list) :
    ∃ items, Encloses items value ∧ ∀ item ∈ items, item.FloatFree := by
  cases free with
  | array ofItems => exact ⟨_, .array, ofItems⟩
  | tuple ofItems => exact ⟨_, .tuple, ofItems⟩
  | _ => cases list

section

variable {items : List Value} {value : Value}

theorem Encloses.kind_eq (encloses : Encloses items value) : value.kind = .list := by
  cases encloses <;> rfl

theorem Encloses.jsonChars_eq (encloses : Encloses items value) :
    value.jsonChars = '[' :: jsonItems items ++ [']'] := by
  cases encloses <;> rfl

theorem Encloses.withoutTuples_eq (encloses : Encloses items value) :
    value.withoutTuples = .array (eachWithoutTuples items) := by
  cases encloses <;> rfl

theorem Encloses.delimited (encloses : Encloses items value) (free : value.FloatFree)
    (ofItems : ∀ item ∈ items, item.FloatFree) (each : ∀ item ∈ items, item.Delimited) :
    value.Delimited := by
  refine delimited_of_kind free fun ofOther kinds _ _ same => ?_
  obtain ⟨others, enclosesOthers, ofOthers⟩ :=
    ofOther.exists_items (kinds.symm.trans encloses.kind_eq)
  rw [encloses.jsonChars_eq, enclosesOthers.jsonChars_eq, List.append_assoc,
    List.append_assoc] at same
  obtain ⟨values, behind⟩ :=
    jsonItems_append_inj ofItems each ofOthers (List.cons.inj same).2
  rw [encloses.withoutTuples_eq, enclosesOthers.withoutTuples_eq, values]
  exact ⟨rfl, behind⟩

end

theorem FloatFree.delimited {value : Value} (free : value.FloatFree) : value.Delimited := by
  induction free with
  | null =>
      refine delimited_of_kind .null fun ofOther kinds _ _ same => ?_
      cases ofOther with
      | null => exact ⟨rfl, List.append_cancel_left same⟩
      | _ => cases kinds
  | bool =>
      refine delimited_of_kind .bool fun ofOther kinds _ _ same => ?_
      cases ofOther with
      | bool =>
          obtain rfl := Kind.bool.inj kinds
          exact ⟨rfl, List.append_cancel_left same⟩
      | _ => cases kinds
  | int =>
      refine delimited_of_kind .int fun ofOther kinds ends endsOther same => ?_
      cases ofOther with
      | int => exact (int_append_inj ends endsOther same).imp_left (congrArg Value.int)
      | _ => cases kinds
  | string =>
      refine delimited_of_kind .string fun ofOther kinds _ _ same => ?_
      cases ofOther with
      | string => exact (jsonString_append_inj same).imp_left (congrArg Value.string)
      | _ => cases kinds
  | array ofItems ih => exact Encloses.array.delimited (.array ofItems) ofItems ih
  | tuple ofItems ih => exact Encloses.tuple.delimited (.tuple ofItems) ofItems ih
  | tagged ofPayload ih =>
      refine delimited_of_kind (.tagged ofPayload) fun ofOther kinds _ _ same => ?_
      cases ofOther with
      | tagged ofOther =>
          simp only [jsonChars_tagged, List.append_assoc, List.cons_append, List.cons.injEq,
            true_and, List.append_cancel_left_eq] at same
          obtain ⟨rfl, later⟩ := jsonString_append_inj same
          obtain ⟨payloads, behind⟩ := payloadChars_append_inj ih ofOther later
          simp only [withoutTuples_tagged, payloads]
          exact ⟨trivial, behind⟩
      | _ => cases kinds

/-! ## Whole texts -/

mutual

theorem jsonChars_withoutTuples : ∀ value : Value, value.withoutTuples.jsonChars = value.jsonChars
  | .null | .bool _ | .int _ | .float _ | .string _ | .tagged _ none => rfl
  | .array items | .tuple items => by
      simp only [withoutTuples, jsonChars, jsonItems_eachWithoutTuples items]
  | .tagged tag (some payload) => by
      simp only [withoutTuples, jsonChars, jsonChars_withoutTuples payload]

theorem jsonItems_eachWithoutTuples :
    ∀ items : List Value, jsonItems (eachWithoutTuples items) = jsonItems items
  | [] => rfl
  | [item] => jsonChars_withoutTuples item
  | item :: second :: rest => by
      have later := jsonItems_eachWithoutTuples (second :: rest)
      simp only [eachWithoutTuples, jsonItems, jsonChars_withoutTuples item] at later ⊢
      rw [later]

end

/-- Values without floating-point numbers have the same JSON text exactly if they are the
same but for tuples in place of lists. So a bare tag, a tag of a null value, a string and a
number have texts of their own. -/
theorem json_eq_iff :
    (∀ left right : Value, left.FloatFree → right.FloatFree →
      (left.json = right.json ↔ left.withoutTuples = right.withoutTuples)) ∧
    ∀ (tag other text : String) (number : Int),
      [(Value.tagged tag none).json, (Value.tagged other (some .null)).json,
        (Value.string text).json, (Value.int number).json].Nodup := by
  have texts : ∀ left right : Value, left.FloatFree → right.FloatFree →
      (left.json = right.json ↔ left.withoutTuples = right.withoutTuples) := by
    intro left right ofLeft ofRight
    constructor
    · intro same
      have chars : left.jsonChars ++ [] = right.jsonChars ++ [] :=
        congrArg (· ++ []) (String.ofList_inj.mp same)
      exact (ofLeft.delimited ofRight endsNumber_nil endsNumber_nil chars).1
    · intro same
      simp only [json, ← jsonChars_withoutTuples left, ← jsonChars_withoutTuples right, same]
  refine ⟨texts, fun tag other text number => ?_⟩
  have bare : (Value.tagged tag none).FloatFree := .tagged nofun
  have ofNull : (Value.tagged other (some .null)).FloatFree := .tagged_some .null
  have differ : ∀ {left right : Value}, left.FloatFree → right.FloatFree →
      left.withoutTuples ≠ right.withoutTuples → left.json ≠ right.json :=
    fun ofLeft ofRight apart => mt (texts _ _ ofLeft ofRight).mp apart
  simp only [List.nodup_cons, List.mem_cons, List.not_mem_nil, or_false, not_or, List.nodup_nil,
    not_false_iff, and_true]
  exact ⟨⟨differ bare ofNull nofun, differ bare .string nofun, differ bare .int nofun⟩,
    ⟨differ ofNull .string nofun, differ ofNull .int nofun⟩, differ .string .int nofun⟩

/-- A tuple inside a payload has the text of a list, a numeral has not that of its number. -/
theorem json_eq_of_inner_tuple :
    (tagged "t" (some (.tuple [.int 1, .string "1"]))).FloatFree ∧
      (tagged "t" (some (.array [.int 1, .string "1"]))).FloatFree ∧
      (tagged "t" (some (.array [.string "1", .int 1]))).FloatFree ∧
      (tagged "t" (some (.tuple [.int 1, .string "1"]))).json =
        (tagged "t" (some (.array [.int 1, .string "1"]))).json ∧
      (tagged "t" (some (.array [.string "1", .int 1]))).json ≠
        (tagged "t" (some (.array [.int 1, .string "1"]))).json := by
  have items : ∀ item ∈ [Value.int 1, .string "1"], item.FloatFree :=
    List.forall_mem_cons.mpr ⟨.int, List.forall_mem_singleton.mpr .string⟩
  have swapped : ∀ item ∈ [Value.string "1", .int 1], item.FloatFree :=
    List.forall_mem_cons.mpr ⟨.string, List.forall_mem_singleton.mpr .int⟩
  have pair : (tagged "t" (some (.tuple [.int 1, .string "1"]))).FloatFree :=
    .tagged_some (.tuple items)
  have list : (tagged "t" (some (.array [.int 1, .string "1"]))).FloatFree :=
    .tagged_some (.array items)
  have other : (tagged "t" (some (.array [.string "1", .int 1]))).FloatFree :=
    .tagged_some (.array swapped)
  refine ⟨pair, list, other, (json_eq_iff.1 _ _ pair list).mpr rfl, ?_⟩
  exact mt (json_eq_iff.1 _ _ other list).mp nofun

end TextSchema.Value
