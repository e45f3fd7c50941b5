import TextSchema.FieldType

/-!
# Choices

Types of texts from a list. A transform may normalise both the listed texts and
the text to be decoded. A strict choice refuses other texts, a mild one passes
them on.
-/

set_option autoImplicit false

namespace TextSchema

/-- What a choice may ask for on its own. -/
structure ChoiceSettings where
  transform : Option (String → String)
  strict : Option Bool

namespace ChoiceSettings

def none : ChoiceSettings := ⟨.none, .none⟩

/-- The options for diagnostics. Of the transform only its presence shows. -/
def inspect (options : ChoiceSettings) : String :=
  "ChoiceOptions \x7B transform: " ++ toString options.transform.isSome ++ ", strict: " ++
    (match options.strict with
      | .none => "None"
      | some strict => "Some(" ++ toString strict ++ ")") ++ " \x7D"

def normalise (options : ChoiceSettings) (text : String) : String :=
  match options.transform with
  | some transform => transform text
  | .none => text

end ChoiceSettings

def decodeChoice (choices : List String) (strict indexed : Bool) (text : String) :
    Decoding Value :=
  match choices.idxOf? text with
  | some index =>
      pure (if indexed then .tuple [.int index, .string text] else .string text)
  | none =>
      if strict then throw (.notAChoice text choices)
      else pure (if indexed then .tuple [.null, .string text] else .string text)

/-- The type of the listed texts. With `indexed`, a text decodes to its index and
itself; a text outside the list has no index. -/
def Settings.choiceType (settings : Settings) (choices : List String) (options : ChoiceSettings)
    (indexed : Bool) : FieldType :=
  let normalised := choices.map options.normalise
  let strict := options.strict.getD settings.strict
  { name := none
    pattern := some ("|".intercalate normalised)
    kind := .choice normalised indexed
    decoder := ⟨settings.origin, fun text =>
      decodeChoice normalised strict indexed (options.normalise text)⟩ }

end TextSchema
