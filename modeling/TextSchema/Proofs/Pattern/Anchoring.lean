import TextSchema.Proofs.Outcome
import TextSchema.Proofs.Pattern.Language

/-!
# Fragments between anchors

A fragment is compiled between anchors, inside a group that is meant to hold all of it. The
pattern is put together as text, so a closing parenthesis of the fragment can end this group
early, and what follows it is no longer anchored. As long as the group stays open over the
fragment, every match that is found is the whole text.
-/

set_option autoImplicit false

namespace TextSchema.Pattern

namespace Reader

variable {reader next : Reader} {char : Char}

/-! ## Open groups -/

theorem stack_actCounts {counts : Counts} (success : reader.actCounts counts char = .ok next) :
    next.stack = reader.stack := by
  rw [actCounts_eq] at success
  cases after : start.actCounts counts char with
  | error flaw =>
      rw [after] at success
      cases success
  | ok changed =>
      rw [after] at success
      obtain rfl := Except.ok.inj success
      rfl

/-- A reader with the same open groups. -/
private theorem suffix_of_ok {after : Reader} (success : Except.ok after = (.ok next : Except Flaw Reader))
    (same : after.stack = reader.stack) : reader.stack <:+ next.stack := by
  obtain rfl := Except.ok.inj success
  exact same ▸ List.suffix_rfl

theorem suffix_actName {reversed : List Char} (success : reader.actName reversed char = .ok next) :
    reader.stack <:+ next.stack := by
  unfold actName at success
  dsimp only at success
  split at success
  · split at success
    · cases success
    · split at success
      · cases success
      · obtain rfl := Except.ok.inj success
        exact List.suffix_cons _ _
  · split at success
    · exact suffix_of_ok success rfl
    · cases success

theorem suffix_actFlags {flags : FlagReader} (success : reader.actFlags flags char = .ok next) :
    reader.stack <:+ next.stack := by
  unfold actFlags at success
  dsimp only at success
  split at success
  · split at success
    · cases success
    · obtain rfl := Except.ok.inj success
      exact List.suffix_cons _ _
  · split at success
    · cases success
    · exact suffix_of_ok success rfl
  · split at success
    · cases success
    · exact suffix_of_ok success rfl
  · split at success
    · split at success
      · cases success
      · exact suffix_of_ok success rfl
    · cases success

private theorem stack_quantify {mode : Mode}
    (success : (do reader.checkOperand; return { reader with mode := mode }) = Except.ok next) :
    next.stack = reader.stack := by
  cases operand : reader.checkOperand with
  | error flaw =>
      rw [operand] at success
      cases success
  | ok checked =>
      rw [operand] at success
      obtain rfl := Except.ok.inj success
      rfl

theorem stack_actItem (success : reader.actItem char = .ok next) :
    next.stack = reader.stack ∨ char = ')' ∧ reader.closeGroup = .ok next := by
  unfold actItem at success
  dsimp only at success
  split at success
  · obtain rfl := Except.ok.inj success
    exact .inl rfl
  · exact .inr ⟨rfl, success⟩
  · obtain rfl := Except.ok.inj success
    exact .inl rfl
  · obtain rfl := Except.ok.inj success
    exact .inl rfl
  · exact .inl (stack_quantify success)
  · exact .inl (stack_quantify success)
  · exact .inl (stack_quantify success)
  · exact .inl (stack_quantify success)
  all_goals
    obtain rfl := Except.ok.inj success
    exact .inl rfl

/-- A character right after an opening parenthesis closes no other group. -/
theorem suffix_groupStart (success : reader.openNumbered.actItem char = .ok next) :
    reader.stack <:+ next.stack := by
  obtain same | ⟨_, closed⟩ := stack_actItem success
  · rw [same]
    exact List.suffix_cons _ _
  · obtain ⟨group, stack, opened, rfl⟩ := closeGroup_ok closed
    obtain rfl := (List.cons.inj opened).2
    exact List.suffix_rfl

theorem suffix_act (success : reader.act char = .ok next) :
    reader.stack <:+ next.stack ∨
      reader.mode = .item ∧ char = ')' ∧ reader.closeGroup = .ok next := by
  unfold act at success
  split at success
  · rename_i item
    obtain same | ⟨sign, closed⟩ := stack_actItem success
    · exact .inl (same ▸ List.suffix_rfl)
    · exact .inr ⟨item, sign, closed⟩
  · rename_i escape _
    left
    cases outcome : escape.step char with
    | error flaw =>
        rw [outcome] at success
        cases success
    | ok escaped =>
        rw [outcome] at success
        cases escaped with
        | inl more =>
          exact suffix_of_ok success rfl
        | inr part =>
          rcases part with literal | ⟨kind, negated⟩ | kind
          · exact suffix_of_ok success rfl
          · exact suffix_of_ok success rfl
          · cases kind <;> exact suffix_of_ok success rfl
  · left
    split at success
    · exact suffix_of_ok success rfl
    · split at success
      · split at success
        · exact suffix_of_ok success rfl
        · cases success
      · cases success
  · exact .inl (stack_actCounts success ▸ List.suffix_rfl)
  · left
    split at success
    · exact suffix_of_ok success rfl
    · exact suffix_groupStart success
  · left
    split at success
    · cases success
    · cases success
    · exact suffix_of_ok success rfl
    · exact suffix_of_ok success rfl
    · exact suffix_actFlags success
  · left
    split at success
    · exact suffix_of_ok success rfl
    · cases success
  · left
    split at success
    · cases success
    · exact suffix_actName success
  · exact .inl (suffix_actName success)
  · exact .inl (suffix_actFlags success)
  · rename_i classReader _
    left
    cases outcome : classReader.step reader.spaced char with
    | error flaw =>
        rw [outcome] at success
        cases success
    | ok read =>
        rw [outcome] at success
        rcases read with more | ⟨negated, classBody⟩
        · exact suffix_of_ok success rfl
        · exact suffix_of_ok success rfl
  · cases success
  · cases success

theorem stack_settle (reader : Reader) (char : Char) :
    (reader.settle char).1.stack = reader.stack := by
  have repeated : ∀ least most greedy,
      (reader.repeatLast least most greedy).stack = reader.stack := by
    intro least most greedy
    obtain ⟨_, same⟩ := reader.repeatLast_eq least most greedy
    rw [same]
  unfold settle
  split
  · split <;> rfl
  · split <;> rfl
  · split
    · exact repeated _ _ _
    · split
      · rfl
      · exact repeated _ _ _
  · rfl

/-- Where an item may come next, nothing is waited for any more. -/
theorem eq_complete_of_settle {settled : Reader} (decided : reader.settle char = (settled, false))
    (item : settled.mode = .item) : settled = reader.complete := by
  unfold settle at decided
  unfold complete
  cases mode : reader.mode with
  | boundary =>
      rw [mode] at decided
      dsimp only at decided ⊢
      split at decided
      · cases decided
      · cases decided
        rfl
  | boundaryName reversed =>
      cases reversed with
      | nil =>
          rw [mode] at decided
          dsimp only at decided ⊢
          split at decided
          · cases decided
            rfl
          · cases decided
            cases item
      | cons letter reversed =>
          rw [mode] at decided
          cases decided
          rfl
  | quantified least most gap =>
      rw [mode] at decided
      dsimp only at decided ⊢
      split at decided
      · cases decided
      · split at decided
        · cases decided
          rw [mode] at item
          cases item
        · cases decided
          rfl
  | _ =>
      rw [mode] at decided
      cases decided
      rfl

/-- A character closes no group that is open, unless it is a closing parenthesis between
two items. -/
theorem suffix_step (success : reader.step char = .ok next) :
    reader.stack <:+ next.stack ∨
      char = ')' ∧ reader.comment = false ∧ reader.complete.mode = .item ∧
        reader.complete.closeGroup = .ok next := by
  unfold step at success
  split at success
  · exact .inl (suffix_of_ok success rfl)
  · rename_i quiet
    have before := stack_settle reader char
    have complete := @eq_complete_of_settle reader char
    revert success before complete
    generalize reader.settle char = outcome
    obtain ⟨settled, consumed⟩ := outcome
    intro success before complete
    dsimp only at success before
    rw [← before]
    split at success
    · exact .inl (suffix_of_ok success rfl)
    · split at success
      · exact .inl (suffix_of_ok success rfl)
      · split at success
        · exact .inl (suffix_of_ok success rfl)
        · obtain kept | ⟨item, sign, closed⟩ := suffix_act success
          · exact .inl kept
          · rename_i undecided _ _
            obtain rfl : consumed = false := by simpa using undecided
            obtain rfl := complete rfl item
            exact .inr ⟨sign, by simpa using quiet, item, closed⟩

/-- A group that is open stays so unless at some place no group is open at all. -/
theorem suffix_feed {group : OpenGroup} {text : List Char} (opened : [group] <:+ reader.stack)
    (fed : reader.feed text = .ok next)
    (never : ∀ before after middle, text = before ++ after → reader.feed before = .ok middle →
      middle.stack ≠ []) : [group] <:+ next.stack := by
  induction text generalizing reader with
  | nil =>
      obtain rfl := Except.ok.inj fed
      exact opened
  | cons char rest ih =>
      rw [feed_cons] at fed
      obtain ⟨middle, first, later⟩ := exists_of_bind_ok fed
      have onward : ∀ before, reader.feed (char :: before) = middle.feed before := by
        intro before
        rw [feed_cons, first]
        rfl
      have nonempty : middle.stack ≠ [] := by
        apply never [char] rest middle rfl
        rw [onward]
        rfl
      refine ih ?_ later fun before after other split read =>
        never (char :: before) after other (by rw [split]; rfl) (by rw [onward, read])
      obtain kept | ⟨_, _, _, closed⟩ := suffix_step first
      · exact opened.trans kept
      · obtain ⟨last, stack, stood, rfl⟩ := closeGroup_ok closed
        rw [← complete_stack, stood, List.suffix_cons_iff] at opened
        obtain same | inside := opened
        · exact absurd (List.cons.inj same).2.symm nonempty
        · exact inside

end Reader

/-! ## The group between the anchors -/

/-- Some beginning of the fragment closes the group between the anchors. -/
def ClosesAnchors (fragment : String) : Prop :=
  ∃ before after reader, fragment.toList = before ++ after ∧
    Reader.wholeStart.feed before = .ok reader ∧ reader.stack = []

namespace Reader

theorem readOn_end_ok {reader : Reader} {result : Tree}
    (opened : wholeStart.stack <:+ reader.stack)
    (success : reader.readOn [')', '$'] = .ok result) :
    result = wholeTree reader.complete.body := by
  obtain ⟨last, fed, finished⟩ := exists_of_bind_ok success
  rw [feed_cons] at fed
  obtain ⟨middle, closing, ending⟩ := exists_of_bind_ok fed
  have one : middle.step '$' = .ok last := by
    rw [feed_cons] at ending
    obtain ⟨_, ending, same⟩ := exists_of_bind_ok ending
    rw [ending, ← Except.ok.inj same]
  have top : last.stack = [] := by
    rw [← complete_stack]
    exact (complete_of_finish finished).2.1
  have emptied : middle.stack = [] := by
    obtain kept | ⟨sign, _⟩ := suffix_step one
    · rwa [top, List.suffix_nil] at kept
    · cases sign
  obtain kept | ⟨_, quiet, item, closed⟩ := suffix_step closing
  · rw [emptied, List.suffix_nil] at kept
    rw [kept, List.suffix_nil] at opened
    cases opened
  · obtain ⟨group, stack, stood, rfl⟩ := closeGroup_ok closed
    obtain rfl : stack = [] := emptied
    have only : reader.complete.stack = wholeStart.stack := by
      rw [← complete_stack reader, stood] at opened
      rw [stood, opened.eq_of_length rfl]
    exact Except.ok.inj (success.symm.trans (readOn_end item quiet only))

theorem exists_body_of_readOn {fragment : String} {result : Tree}
    (anchored : ¬ ClosesAnchors fragment)
    (success : wholeStart.readOn (fragment.toList ++ [')', '$']) = .ok result) :
    ∃ body, result = wholeTree body := by
  rw [readOn, feed_append] at success
  obtain ⟨last, fed, finished⟩ := exists_of_bind_ok success
  obtain ⟨reader, inside, ending⟩ := exists_of_bind_ok fed
  have opened : wholeStart.stack <:+ reader.stack := by
    refine suffix_feed List.suffix_rfl inside fun before after middle split read top => ?_
    exact anchored ⟨before, after, middle, split, read, top⟩
  refine ⟨_, readOn_end_ok opened ?_⟩
  rw [readOn, ending]
  exact finished

end Reader

/-- A fragment that is a pattern of its own leaves the group around it open. -/
theorem not_closesAnchors_of_groupCount {fragment : String} {count : Nat}
    (counted : groupCount fragment = .ok count) : ¬ ClosesAnchors fragment := by
  intro closes
  obtain ⟨before, after, reader, split, fed, top⟩ := closes
  obtain ⟨tree, alone, _⟩ := exists_tree_of_groupCount counted
  obtain ⟨whole, reading, _⟩ := Reader.Tree.read_ok alone
  rw [split, Reader.feed_append] at reading
  obtain ⟨inner, first, _⟩ := exists_of_bind_ok reading
  obtain inside | ⟨_, taken⟩ := Reader.follows_feed Reader.wholeStart _ inner first
  · change Reader.wholeStart.feed before = _ at inside
    obtain rfl := Except.ok.inj (fed.symm.trans inside)
    exact List.append_ne_nil_of_right_ne_nil _ (List.cons_ne_nil _ _) top
  · exact absurd rfl taken

/-! ## Matches -/

theorem Expr.TakesAll.ends {body : Expr} {text : List Char} {marks : Marks} {stop : Place}
    (takes : body.Takes (.first text) marks stop) (ended : stop.rest = []) :
    stop.index = text.length := by
  obtain ⟨word, _, spans⟩ := takes.mem_language
  have whole : text = word := by
    have split := spans.1
    rwa [ended, List.append_nil] at split
  rw [spans.index_eq, whole]
  exact Nat.zero_add _

/-- A match between anchors starts and ends with the text. -/
theorem Expr.ends_of_search {body : Expr} {text : List Char} {found : Match}
    (success : body.anchored.search text = some found) :
    found.start = 0 ∧ found.stop = text.length := by
  rw [search_anchored] at success
  obtain ⟨stop, takes, starts, stops⟩ := takes_of_matchAt success
  obtain ⟨_, inside, ended⟩ := takes_anchored.mp takes
  exact ⟨starts, stops.trans (TakesAll.ends inside ended)⟩

theorem foldl_utf8Size (text : List Char) (start : Nat) :
    text.foldl (fun bytes char => bytes + char.utf8Size) start =
      start + (String.ofList text).utf8ByteSize := by
  induction text generalizing start with
  | nil => rfl
  | cons char rest ih =>
      have split : String.ofList (char :: rest) = String.singleton char ++ String.ofList rest := by
        rw [String.singleton_eq_ofList, ← String.ofList_append, List.singleton_append]
      rw [List.foldl_cons, ih, split, String.utf8ByteSize_append, String.utf8ByteSize_singleton,
        Nat.add_assoc]

theorem byteOffset_length (text : String) :
    byteOffset text.toList text.toList.length = text.utf8ByteSize := by
  rw [byteOffset, List.take_length, foldl_utf8Size, String.ofList_toList, Nat.zero_add]

namespace Acceptor

variable {fragment : String} {caseless : Bool} {acceptor : Acceptor}

theorem accepts_iff (acceptor : Acceptor) (text : String) :
    acceptor.accepts text = true ↔ ∃ groups, acceptor.groups? text = some groups := by
  rw [accepts, groups?, ← Option.isSome_iff_exists, Option.isSome_map]

theorem head?_groups {text : String} {groups : List (Option (Nat × Nat))}
    (success : acceptor.groups? text = some groups) :
    ∃ found, acceptor.find? text = some found ∧
      groups.head? = some (some (found.start, found.stop)) := by
  obtain ⟨found, search, rfl⟩ := Option.map_eq_some_iff.mp success
  refine ⟨found, search, ?_⟩
  rw [List.range_succ_eq_map]
  rfl

/-- A fragment that does not close the group between the anchors matches whole texts only:
the first group of a match goes from the first byte of the text to the last. A fragment that is
a pattern of its own is of this kind. A text is accepted exactly if it has groups. -/
theorem groups_whole_of_compile (compiled : compile fragment caseless = .ok acceptor) :
    (∀ text, acceptor.accepts text = true ↔ ∃ groups, acceptor.groups? text = some groups) ∧
      (¬ ClosesAnchors fragment → ∀ text groups, acceptor.groups? text = some groups →
        ∃ stop, groups.head? = some (some (0, stop)) ∧ stop = text.toList.length ∧
          byteOffset text.toList stop = text.utf8ByteSize) ∧
      ∀ count, groupCount fragment = .ok count → ¬ ClosesAnchors fragment := by
  refine ⟨acceptor.accepts_iff, ?_, fun count => not_closesAnchors_of_groupCount⟩
  intro anchored text groups success
  obtain ⟨whole, read, lowered⟩ := compile_ok compiled
  rw [Reader.read_wholeText] at read
  obtain ⟨tree, readOn, shallow⟩ := exists_of_bind_ok read
  obtain ⟨body, rfl⟩ := Reader.exists_body_of_readOn anchored readOn
  obtain ⟨_, branches, _, _, same⟩ := compile_body compiled fun result reading =>
    Except.ok.inj (reading.symm.trans readOn)
  obtain ⟨found, search, first⟩ := head?_groups success
  rw [find?, same] at search
  obtain ⟨starts, stops⟩ := Expr.ends_of_search search
  rw [starts, stops] at first
  exact ⟨_, first, rfl, byteOffset_length text⟩

theorem groups_whole_of_letters :
    ∃ acceptor, compile "(é)|ß(?m)$" true = .ok acceptor ∧
      acceptor.groups? "É" = some [some (0, 1), some (0, 1)] ∧
      ¬ ClosesAnchors "(é)|ß(?m)$" ∧
      ∃ stop, [some (0, 1), some (0, 1)].head? = some (some (0, stop)) ∧
        stop = "É".toList.length ∧ byteOffset "É".toList stop = "É".utf8ByteSize := by
  have matched : (compile "(é)|ß(?m)$" true).map (·.groups? "É") =
      .ok (some [some (0, 1), some (0, 1)]) := by decide +kernel
  have counted : groupCount "(é)|ß(?m)$" = .ok 1 := by decide +kernel
  obtain ⟨acceptor, compiled, groups⟩ := exists_of_map_ok matched
  obtain ⟨_, whole, kept⟩ := groups_whole_of_compile compiled
  exact ⟨acceptor, compiled, groups, kept 1 counted, whole (kept 1 counted) "É" _ groups⟩

/-- The first parenthesis of this fragment closes the group between the anchors, and the bar
behind it leaves the start of a text without an end. -/
theorem not_groups_whole_of_split :
    ¬ ∀ (fragment : String) (caseless : Bool) (acceptor : Acceptor),
      compile fragment caseless = .ok acceptor → ∀ text groups,
        acceptor.groups? text = some groups →
          groups.head? = some (some (0, text.toList.length)) := by
  intro always
  have matched : (compile "a)|(?:b" true).map (·.groups? "ax") = .ok (some [some (0, 1)]) := by
    decide +kernel
  obtain ⟨acceptor, compiled, groups⟩ := exists_of_map_ok matched
  have whole := always "a)|(?:b" true acceptor compiled "ax" _ groups
  revert whole
  decide +kernel

end Acceptor

end TextSchema.Pattern
