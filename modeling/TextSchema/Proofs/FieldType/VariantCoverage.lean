import TextSchema.Proofs.FieldType.VariantDispatch
import TextSchema.Proofs.Pattern.Language

/-!
# The texts that a variant covers

The pattern of a variant takes exactly the texts that the patterns of its members take
alone. So a variant that is given a text of its own pattern never finds itself without a
member for it: it leaves the text to the first member that takes it or, if the text fits
only without regard to case, refuses it or makes it null.
-/

set_option autoImplicit false

namespace TextSchema

open Pattern

namespace Pattern

/-- A pattern that means in a group of a larger one what it means alone. -/
structure Composable (pattern : String) : Prop where
  counted : ∃ count, groupCount pattern = .ok count
  dense : skipsBlanks pattern = false

theorem exists_parts_of_composable {patterns : List String}
    (composable : ∀ pattern ∈ patterns, Composable pattern) :
    ∃ parts : List Part, parts.map (·.pattern) = patterns := by
  induction patterns with
  | nil => exact ⟨[], rfl⟩
  | cons pattern rest ih =>
      obtain ⟨⟨⟨count, counted⟩, dense⟩, others⟩ := List.forall_mem_cons.mp composable
      obtain ⟨part, rfl⟩ := Part.exists_of_groupCount counted dense
      obtain ⟨parts, rfl⟩ := ih others
      exact ⟨part :: parts, rfl⟩

/-- The pattern of alternatives takes the texts that one of them takes alone. -/
theorem accepts_alternatives_iff {caseless : Bool} {patterns : List String} {acceptor : Acceptor}
    (some_ : patterns ≠ []) (composable : ∀ pattern ∈ patterns, Composable pattern)
    (compiled : Acceptor.compile (alternativePatterns patterns) caseless = .ok acceptor)
    (text : String) :
    acceptor.accepts text = true ↔
      ∃ pattern ∈ patterns, takesWhole caseless pattern text = true := by
  obtain ⟨parts, rfl⟩ := exists_parts_of_composable composable
  cases parts with
  | nil => exact absurd rfl some_
  | cons part rest =>
      rw [Acceptor.accepts]
      rcases find?_alternatives compiled text with ⟨nothing, refuses⟩ |
        ⟨found, earlier, chosen, later, _, finds, members, takes, _⟩
      · rw [nothing]
        refine iff_of_false Bool.false_ne_true fun given => ?_
        obtain ⟨pattern, member, takes⟩ := given
        obtain ⟨other, inParts, rfl⟩ := List.mem_map.mp member
        rw [refuses other inParts] at takes
        cases takes
      · rw [finds]
        refine iff_of_true rfl ⟨chosen.pattern, List.mem_map_of_mem ?_, takes⟩
        rw [members]
        exact List.mem_append_right _ List.mem_cons_self

end Pattern

/-! ## The member for a text -/

/-- However its member is searched for, a text goes to the first one that takes it. -/
theorem memberFor?_eq_findIdx? {caseless compiled : Bool} {patterns : List String}
    {search : MemberSearch} (some_ : patterns ≠ [])
    (composable : ∀ pattern ∈ patterns, Composable pattern)
    (shown : compiled = true → ∀ pattern ∈ patterns, hidesGroup pattern = false)
    (searched : Settings.memberSearch caseless compiled patterns = .ok search) (text : String) :
    search.memberFor? text = patterns.findIdx? (takesWhole caseless · text) := by
  cases compiled with
  | false =>
      obtain ⟨acceptors, each, same⟩ := exists_of_bind_ok searched
      cases same
      exact memberFor?_each each text
  | true =>
      obtain ⟨numbers, counted, tail⟩ := exists_of_bind_ok searched
      obtain ⟨acceptor, combined, same⟩ := exists_of_bind_ok tail
      cases same
      obtain ⟨parts, rfl⟩ := exists_parts_of_composable composable
      cases parts with
      | nil => exact absurd rfl some_
      | cons part rest =>
          rcases memberFor?_combined counted combined text with ⟨nothing, refuses⟩ |
            ⟨earlier, chosen, later, members, takes, refuses, chosenIff⟩
          · rw [nothing, eq_comm, List.findIdx?_eq_none_iff]
            exact List.forall_mem_map.mpr refuses
          · rw [findIdx?_of_first members takes refuses, chosenIff]
            intro other before
            refine shown rfl _ (List.mem_map_of_mem ?_)
            rw [members]
            exact List.mem_append_left _ before

theorem any_accepts_of_compileAll {caseless : Bool} {patterns : List String}
    {acceptors : List Acceptor} (compiled : compileAll caseless patterns = .ok acceptors)
    (text : String) :
    acceptors.any (·.accepts text) = patterns.any (takesWhole caseless · text) := by
  rw [← List.findIdx?_isSome, ← List.findIdx?_isSome, ← memberFor?_each compiled]
  rfl

theorem Settings.pattern_of_variant {settings : Settings} {members : List FieldType}
    {options : VariantSettings} {type : FieldType}
    (built : (settings.variant members options).result = .ok type) (default : String) :
    type.patternOr default = alternativePatterns (members.map settings.memberPattern) := by
  unfold variant at built
  dsimp only at built
  split at built
  · cases built
  · split at built
    · cases built
    · simp only [Attempt.result_bind, Building.result_ofDecode] at built
      obtain ⟨_, _, built⟩ := exists_of_bind_ok built
      obtain ⟨_, _, built⟩ := exists_of_bind_ok built
      obtain ⟨_, _, built⟩ := exists_of_bind_ok built
      obtain rfl := Except.ok.inj built
      rfl

/-- A variant leaves a text to the first member whose pattern takes it. -/
def Settings.LeavesToFirst (settings : Settings) (members : List FieldType) (caseless : Bool)
    (type : FieldType) (text : String) : Prop :=
  ∃ index chosen, members[index]? = some chosen ∧
    takesWhole caseless (settings.memberPattern chosen) text = true ∧
    (∀ other ∈ members.take index,
      takesWhole caseless (settings.memberPattern other) text = false) ∧
    type.decode text =
      Attempt.note (.dispatched (describeMembers members) text index) >>= fun _ =>
        chosen.decode text

theorem VariantDecoder.decode_of_memberFor? {variant : VariantDecoder} {text : String}
    {index : Nat} {chosen : FieldType} (found : variant.search.memberFor? text = some index)
    (member : variant.members[index]? = some chosen) :
    variant.decode text =
      Attempt.note (.dispatched variant.description text index) >>= fun _ =>
        chosen.decode text := by
  rw [decode, found]
  dsimp only
  rw [member]

theorem VariantDecoder.decode_of_none {variant : VariantDecoder} {text : String}
    (none : variant.search.memberFor? text = .none)
    (folds : (variant.folded.getD []).any (·.accepts text) = true) :
    variant.decode text =
      if variant.strict then throw (.caseMismatch text variant.description) else pure .null := by
  rw [decode, none]
  dsimp only
  rw [if_pos folds]

section

variable {settings : Settings} {members : List FieldType} {caseless : Bool} {type : FieldType}
  {decoder : VariantDecoder} {text : String}

theorem leavesToFirst_of_memberFor? {index : Nat} (decodes : type.decode = decoder.decode)
    (same : decoder.members = members) (described : decoder.description = describeMembers members)
    (chooses : decoder.search.memberFor? text =
      (members.map settings.memberPattern).findIdx? (takesWhole caseless · text))
    (found : decoder.search.memberFor? text = some index) :
    settings.LeavesToFirst members caseless type text := by
  have first := chooses.symm.trans found
  rw [List.findIdx?_map, List.findIdx?_eq_some_iff_getElem] at first
  obtain ⟨within, takes, refuses⟩ := first
  have member : members[index]? = some members[index] := List.getElem?_eq_getElem within
  refine ⟨index, members[index], member, takes, ?_, ?_⟩
  · intro other before
    obtain ⟨place, bound, rfl⟩ := List.mem_take_iff_getElem.mp before
    exact Bool.eq_false_iff.mpr (refuses place (by omega))
  · rw [decodes, ← described]
    exact VariantDecoder.decode_of_memberFor? found (by rw [same, member])

end

/-- The pattern of a variant takes exactly the texts that the pattern of a member takes.
Given such a text with the case rule of the variant, the variant leaves it to the first
member that takes it. Given a text that fits without regard to case, it does so as well or,
if it has regard to case itself, refuses the text for its case or makes it null. -/
theorem Settings.variant_decode_of_accepted {settings : Settings} {members : List FieldType}
    {options : VariantSettings} {type : FieldType}
    (built : (settings.variant members options).result = .ok type)
    (composable : ∀ member ∈ members, Composable (settings.memberPattern member))
    (shown : options.compiled = true →
      ∀ member ∈ members, hidesGroup (settings.memberPattern member) = false)
    {caseless : Bool} {acceptor : Acceptor}
    (compiled : Acceptor.compile (type.patternOr settings.defaultPattern) caseless = .ok acceptor)
    (text : String) :
    (acceptor.accepts text = true ↔
      ∃ member ∈ members, takesWhole caseless (settings.memberPattern member) text = true) ∧
    (acceptor.accepts text = true → caseless = options.caseless.getD settings.caseless →
      settings.LeavesToFirst members caseless type text) ∧
    (acceptor.accepts text = true → caseless = true →
      settings.LeavesToFirst members (options.caseless.getD settings.caseless) type text ∨
        (options.caseless.getD settings.caseless = false ∧
          type.decode text =
            if options.strict.getD settings.strict then
              throw (.caseMismatch text (describeMembers members))
            else pure .null)) := by
  obtain ⟨search, folded, some_, searched, ofFolded, decodes⟩ := variant_ok built
  rw [pattern_of_variant built] at compiled
  have filled : members.map settings.memberPattern ≠ [] := by simpa using some_
  have usable : ∀ pattern ∈ members.map settings.memberPattern, Composable pattern :=
    List.forall_mem_map.mpr composable
  have visible : options.compiled = true →
      ∀ pattern ∈ members.map settings.memberPattern, hidesGroup pattern = false :=
    fun combined => List.forall_mem_map.mpr (shown combined)
  have chooses := memberFor?_eq_findIdx? filled usable visible searched text
  have covers := accepts_alternatives_iff filled usable compiled text
  have leaves : ∀ index, search.memberFor? text = some index →
      settings.LeavesToFirst members (options.caseless.getD settings.caseless) type text :=
    fun index found => leavesToFirst_of_memberFor? decodes rfl rfl chooses found
  have own : acceptor.accepts text = true → caseless = options.caseless.getD settings.caseless →
      settings.LeavesToFirst members (options.caseless.getD settings.caseless) type text := by
    intro accepted same
    rw [covers, same] at accepted
    obtain ⟨index, found⟩ : ∃ index, search.memberFor? text = some index := by
      rw [chooses, ← Option.isSome_iff_exists, List.findIdx?_isSome, List.any_eq_true]
      exact accepted
    exact leaves index found
  refine ⟨?_, fun accepted same => same ▸ own accepted same, ?_⟩
  · rw [covers]
    simp only [List.mem_map, exists_exists_and_eq_and]
  · intro accepted ignores
    cases respects : options.caseless.getD settings.caseless with
    | true => exact .inl (respects ▸ own accepted (ignores.trans respects.symm))
    | false =>
      rw [respects] at leaves ofFolded
      cases found : search.memberFor? text with
      | some index => exact .inl (leaves index found)
      | none =>
        refine .inr ⟨rfl, ?_⟩
        obtain ⟨acceptors, each, rfl⟩ := exists_of_map_ok ofFolded
        rw [decodes]
        refine VariantDecoder.decode_of_none found ?_
        rw [covers, ignores] at accepted
        exact (any_accepts_of_compileAll each text).trans (List.any_eq_true.mpr accepted)

/-- One acceptor for two members that has regard to case, and a text of the second member
in another case. -/
theorem variant_decode_of_other_case :
    ∃ (type : FieldType) (acceptor : Acceptor),
      (Settings.standard.variant [.ofText "b" "(a)+b", .ofText "c" "(?<n>c)"]
        ⟨some false, true, some true⟩).result = .ok type ∧
      (∀ pattern ∈ ["(a)+b", "(?<n>c)"], Composable pattern ∧ hidesGroup pattern = false) ∧
      Acceptor.compile (type.patternOr Settings.standard.defaultPattern) true = .ok acceptor ∧
      acceptor.accepts "C" = true ∧
      (type.decode "C").result = .error (.caseMismatch "C" "b|c") := by
  obtain ⟨type, acceptor, built, compiled, accepted⟩ :
      ∃ (type : FieldType) (acceptor : Acceptor),
        (Settings.standard.variant [.ofText "b" "(a)+b", .ofText "c" "(?<n>c)"]
          ⟨some false, true, some true⟩).result = .ok type ∧
        Acceptor.compile (type.patternOr Settings.standard.defaultPattern) true = .ok acceptor ∧
        acceptor.accepts "C" = true := ⟨_, _, rfl, rfl, by decide +kernel⟩
  have usable : ∀ pattern ∈ ["(a)+b", "(?<n>c)"],
      Composable pattern ∧ hidesGroup pattern = false := by
    have first : Composable "(a)+b" := ⟨⟨1, rfl⟩, by decide +kernel⟩
    have second : Composable "(?<n>c)" := ⟨⟨1, rfl⟩, by decide +kernel⟩
    simp only [List.forall_mem_cons]
    exact ⟨⟨first, by decide +kernel⟩, ⟨second, by decide +kernel⟩, List.forall_mem_nil _⟩
  have refused : ∀ pattern ∈ ["(a)+b", "(?<n>c)"], takesWhole false pattern "C" = false := by
    decide +kernel
  have inPatterns : ∀ chosen ∈ [FieldType.ofText "b" "(a)+b", .ofText "c" "(?<n>c)"],
      Settings.standard.memberPattern chosen ∈ ["(a)+b", "(?<n>c)"] := by
    decide +kernel
  have covered := (Settings.variant_decode_of_accepted built
    (fun chosen member => (usable _ (inPatterns chosen member)).1)
    (fun _ chosen member => (usable _ (inPatterns chosen member)).2) compiled "C").2.2 accepted rfl
  refine ⟨type, acceptor, built, usable, compiled, accepted, ?_⟩
  rcases covered with ⟨index, chosen, member, takes, _⟩ | ⟨_, decodes⟩
  · have absent := refused _ (inPatterns chosen (List.mem_of_getElem? member))
    exact Bool.noConfusion (takes.symm.trans absent)
  · rw [decodes]
    rfl

end TextSchema
