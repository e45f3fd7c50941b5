import TextSchema.Proofs.FieldType.VariantCoverage

/-!
# Variants among the members of variants

What a variant with an acceptor for each member makes of a text depends on the members
that take the text and on nothing else. A variant that is itself a member is, for the outer
one, a single pattern that takes the texts of all its own members. So a nested variant
decodes like the flat one that has those members in its place, and only the names in an
error of their own tell the two apart.
-/

set_option autoImplicit false

namespace TextSchema

open Pattern

/-! ## The outcome of a variant -/

/-- What a variant makes of a text that none of its members takes, one of them taking it
without regard to case or not. -/
def unmatchedOutcome (members : List FieldType) (strict folded : Bool) (text : String) :
    Except DecodeError Value :=
  if folded then
    if strict then .error (.caseMismatch text (describeMembers members)) else .ok .null
  else .error (.noVariantMatch text (describeMembers members))

namespace Settings

def takes (settings : Settings) (caseless : Bool) (text : String) (member : FieldType) : Bool :=
  takesWhole caseless (settings.memberPattern member) text

/-- What a variant makes of a text: what its first member that takes the text makes of it. -/
def variantOutcome (settings : Settings) (members : List FieldType) (caseless strict : Bool)
    (text : String) : Except DecodeError Value :=
  match members.find? (settings.takes caseless text) with
  | some chosen => (chosen.decode text).result
  | none =>
      unmatchedOutcome members strict (!caseless && members.any (settings.takes true text)) text

variable {settings : Settings} {members : List FieldType} {caseless : Bool} {text : String}

theorem any_accepts_of_foldedSearch {folded : Option (List Acceptor)}
    (success : foldedSearch caseless (members.map settings.memberPattern) = .ok folded) :
    (folded.getD []).any (·.accepts text) =
      (!caseless && members.any (settings.takes true text)) := by
  cases caseless with
  | true =>
      cases success
      rfl
  | false =>
      obtain ⟨acceptors, each, rfl⟩ := exists_of_map_ok success
      exact (any_accepts_of_compileAll each text).trans List.any_map

end Settings

theorem VariantDecoder.result_of_none {members : List FieldType} {search : MemberSearch}
    {folded : Option (List Acceptor)} {strict : Bool} {text : String}
    (nothing : search.memberFor? text = none) :
    (decode ⟨members, search, folded, strict, describeMembers members⟩ text).result =
      unmatchedOutcome members strict ((folded.getD []).any (·.accepts text)) text := by
  simp only [decode, nothing, unmatchedOutcome]
  split
  · split <;> rfl
  · rfl

namespace Settings

variable {settings : Settings} {members : List FieldType} {options : VariantSettings}
  {type : FieldType}

/-- With an acceptor for each member, the outcome of a variant is told by the patterns of
its members alone. -/
theorem result_decode_variant
    (built : (settings.variant members { options with compiled := false }).result = .ok type)
    (text : String) :
    (type.decode text).result =
      settings.variantOutcome members (options.caseless.getD settings.caseless)
        (options.strict.getD settings.strict) text := by
  obtain ⟨search, folded, _, searched, ofFolded, decodes⟩ := variant_ok built
  obtain ⟨acceptors, each, same⟩ := exists_of_bind_ok searched
  cases same
  have chooses : (MemberSearch.each acceptors).memberFor? text =
      members.findIdx? (settings.takes (options.caseless.getD settings.caseless) text) :=
    (memberFor?_each each text).trans List.findIdx?_map
  cases first : members.find? (settings.takes (options.caseless.getD settings.caseless) text) with
  | none =>
      have nothing : (MemberSearch.each acceptors).memberFor? text = none := by
        simpa only [chooses, List.findIdx?_eq_none_iff, List.find?_eq_none, Bool.not_eq_true]
          using first
      simp only [decodes, variantOutcome, first, VariantDecoder.result_of_none nothing,
        any_accepts_of_foldedSearch ofFolded]
  | some chosen =>
      obtain ⟨index, found, member⟩ :=
        Option.bind_eq_some_iff.mp (List.find?_eq_bind_findIdx?_getElem?.symm.trans first)
      simp only [decodes, variantOutcome, first]
      exact VariantDecoder.result_of_memberFor? (chooses.trans found) member

/-! ## A variant as a member -/

theorem exists_compiled_of_mem {caseless : Bool} {patterns : List String} {pattern : String}
    {acceptors : List Acceptor} (compiled : compileAll caseless patterns = .ok acceptors)
    (member : pattern ∈ patterns) :
    ∃ acceptor, Acceptor.compile pattern caseless = .ok acceptor := by
  induction patterns generalizing acceptors with
  | nil => cases member
  | cons first rest ih =>
      obtain ⟨acceptor, ofFirst, tail⟩ := exists_of_bind_ok compiled
      obtain ⟨others, ofRest, _⟩ := exists_of_bind_ok tail
      cases List.mem_cons.mp member with
      | inl same => exact ⟨acceptor, same ▸ ofFirst⟩
      | inr later => exact ih ofRest later

/-- The pattern of a variant takes a text exactly if one of its members does. -/
theorem takes_variant {caseless : Bool} {acceptor : Acceptor}
    (built : (settings.variant members options).result = .ok type)
    (composable : ∀ member ∈ members, Composable (settings.memberPattern member))
    (compiled : Acceptor.compile (settings.memberPattern type) caseless = .ok acceptor)
    (text : String) :
    settings.takes caseless text type = members.any (settings.takes caseless text) := by
  obtain ⟨_, _, some_, _⟩ := variant_ok built
  have pattern : settings.memberPattern type =
      alternativePatterns (members.map settings.memberPattern) := pattern_of_variant built _
  have covers := accepts_alternatives_iff (by simpa using some_)
    (List.forall_mem_map.mpr composable) (pattern ▸ compiled) text
  simp only [List.mem_map, exists_exists_and_eq_and] at covers
  have accepts : settings.takes caseless text type = acceptor.accepts text := by
    simp only [takes, takesWhole, compiled]
  exact accepts.trans (Bool.eq_iff_iff.mpr (covers.trans List.any_eq_true.symm))

/-- Two outcomes for a text that are the same, or the same kind of error of a variant that
has no member for the text, with the names of different members. -/
inductive AlikeUnderNames (text left right : String) :
    Except DecodeError Value → Except DecodeError Value → Prop where
  | same (outcome) : AlikeUnderNames text left right outcome outcome
  | noVariantMatch : AlikeUnderNames text left right
      (.error (.noVariantMatch text left)) (.error (.noVariantMatch text right))
  | caseMismatch : AlikeUnderNames text left right
      (.error (.caseMismatch text left)) (.error (.caseMismatch text right))

theorem alike_unmatchedOutcome {left right : List FieldType} {strict folded : Bool}
    {text : String} :
    AlikeUnderNames text (describeMembers left) (describeMembers right)
      (unmatchedOutcome left strict folded text) (unmatchedOutcome right strict folded text) := by
  cases folded with
  | false => exact .noVariantMatch
  | true =>
      cases strict with
      | false => exact .same _
      | true => exact .caseMismatch

/-- A member can be replaced by a list of members that takes the same texts and decodes
them alike. -/
theorem alike_variantOutcome {before after : List FieldType} {nested : FieldType}
    {caseless strict : Bool} {text : String}
    (covers : settings.takes caseless text nested = members.any (settings.takes caseless text))
    (folds : caseless = false →
      settings.takes true text nested = members.any (settings.takes true text))
    (decodes : ∀ chosen, members.find? (settings.takes caseless text) = some chosen →
      (nested.decode text).result = (chosen.decode text).result) :
    AlikeUnderNames text (describeMembers (before ++ nested :: after))
      (describeMembers (before ++ members ++ after))
      (settings.variantOutcome (before ++ nested :: after) caseless strict text)
      (settings.variantOutcome (before ++ members ++ after) caseless strict text) := by
  simp only [variantOutcome, List.find?_append, List.find?_cons, covers]
  -- Both look at the members before the nested type first and at those after it last.
  cases before.find? (settings.takes caseless text) with
  | some chosen => exact .same _
  | none =>
      cases own : members.find? (settings.takes caseless text) with
      | some chosen =>
          have taken : members.any (settings.takes caseless text) = true :=
            List.any_eq_true.mpr ⟨chosen, List.mem_of_find?_eq_some own, List.find?_some own⟩
          simp only [taken, Option.none_or, Option.some_or, decodes chosen own]
          exact .same _
      | none =>
          -- Where all its members refuse the text, the nested type is never asked to decode it.
          have refused : members.any (settings.takes caseless text) = false := by
            simpa only [List.find?_eq_none, Bool.not_eq_true, List.any_eq_false] using own
          simp only [refused, Option.none_or]
          cases after.find? (settings.takes caseless text) with
          | some chosen => exact .same _
          | none =>
              have folded : (!caseless &&
                  (before ++ nested :: after).any (settings.takes true text)) =
                    (!caseless && (before ++ members ++ after).any (settings.takes true text)) := by
                cases caseless with
                | true => rfl
                | false =>
                    simp only [List.any_append, List.any_cons, folds rfl, Bool.or_assoc]
              simp only [folded]
              exact alike_unmatchedOutcome

/-- A variant in the place of its members decodes every text as they do there: to the same
value or to the same error, but for the names in an error of the variant itself. -/
theorem nested_variant_decode {before after : List FieldType} {inner outer flat : FieldType}
    (composable : ∀ member ∈ members, Composable (settings.memberPattern member))
    (innerBuilt : (settings.variant members { options with compiled := false }).result = .ok inner)
    (outerBuilt : (settings.variant (before ++ inner :: after)
      { options with compiled := false }).result = .ok outer)
    (flatBuilt : (settings.variant (before ++ members ++ after)
      { options with compiled := false }).result = .ok flat) (text : String) :
    AlikeUnderNames text (describeMembers (before ++ inner :: after))
      (describeMembers (before ++ members ++ after))
      (outer.decode text).result (flat.decode text).result := by
  obtain ⟨_, _, _, searched, ofFolded, _⟩ := variant_ok outerBuilt
  obtain ⟨acceptors, each, _⟩ := exists_of_bind_ok searched
  have asMember : settings.memberPattern inner ∈
      (before ++ inner :: after).map settings.memberPattern :=
    List.mem_map_of_mem (List.mem_append_right _ List.mem_cons_self)
  obtain ⟨acceptor, compiled⟩ := exists_compiled_of_mem each asMember
  have covers := takes_variant innerBuilt composable compiled text
  simp only [result_decode_variant outerBuilt, result_decode_variant flatBuilt]
  refine alike_variantOutcome covers (fun respects => ?_) (fun chosen found => ?_)
  · simp only [respects] at ofFolded
    obtain ⟨others, ofOthers, _⟩ := exists_of_map_ok ofFolded
    obtain ⟨folded, compiledFolded⟩ := exists_compiled_of_mem ofOthers asMember
    exact takes_variant innerBuilt composable compiledFolded text
  · simp only [result_decode_variant innerBuilt, variantOutcome, found]

/-- A text that two of the nested members would take without regard to case. -/
theorem nested_variant_decode_of_other_case :
    ∃ inner outer flat : FieldType,
      (∀ pattern ∈ ["(x)+", "(?<n>y)|x"], Composable pattern) ∧
      (standard.variant [.ofText "x" "(x)+", .ofText "y" "(?<n>y)|x"]
        ⟨some false, false, some true⟩).result = .ok inner ∧
      (standard.variant [.ofText "b" "b", inner, .ofText "c" "c"]
        ⟨some false, false, some true⟩).result = .ok outer ∧
      (standard.variant [.ofText "b" "b", .ofText "x" "(x)+", .ofText "y" "(?<n>y)|x",
        .ofText "c" "c"] ⟨some false, false, some true⟩).result = .ok flat ∧
      AlikeUnderNames "X" "b|<unnamed>|c" "b|x|y|c"
        (outer.decode "X").result (flat.decode "X").result := by
  obtain ⟨inner, outer, flat, innerBuilt, outerBuilt, flatBuilt, described⟩ :
      ∃ inner outer flat : FieldType,
        (standard.variant [.ofText "x" "(x)+", .ofText "y" "(?<n>y)|x"]
          ⟨some false, false, some true⟩).result = .ok inner ∧
        (standard.variant [.ofText "b" "b", inner, .ofText "c" "c"]
          ⟨some false, false, some true⟩).result = .ok outer ∧
        (standard.variant [.ofText "b" "b", .ofText "x" "(x)+", .ofText "y" "(?<n>y)|x",
          .ofText "c" "c"] ⟨some false, false, some true⟩).result = .ok flat ∧
        describeMembers [.ofText "b" "b", inner, .ofText "c" "c"] = "b|<unnamed>|c" :=
    ⟨_, _, _, rfl, rfl, rfl, rfl⟩
  have usable : ∀ pattern ∈ ["(x)+", "(?<n>y)|x"], Composable pattern := by
    have first : Composable "(x)+" := ⟨⟨1, rfl⟩, by decide +kernel⟩
    have second : Composable "(?<n>y)|x" := ⟨⟨1, rfl⟩, by decide +kernel⟩
    simp only [List.forall_mem_cons]
    exact ⟨first, second, List.forall_mem_nil _⟩
  have composable : ∀ member ∈ [FieldType.ofText "x" "(x)+", .ofText "y" "(?<n>y)|x"],
      Composable (standard.memberPattern member) := List.forall_mem_map.mp usable
  refine ⟨inner, outer, flat, usable, innerBuilt, outerBuilt, flatBuilt, ?_⟩
  exact described ▸ @nested_variant_decode standard _ ⟨some false, false, some true⟩
    [.ofText "b" "b"] [.ofText "c" "c"] inner outer flat composable innerBuilt outerBuilt
    flatBuilt "X"

end Settings

end TextSchema
