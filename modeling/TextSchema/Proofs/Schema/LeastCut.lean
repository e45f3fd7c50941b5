import Mathlib.Data.List.Lex
import TextSchema.Proofs.Pattern.FirstPath
import TextSchema.Proofs.Schema.FieldScan
import TextSchema.Proofs.Schema.Tiling

/-!
# The cut that is found

A text can be cut in several ways where fields take any text. The first path through the
pattern of such a schema is the cut with the least lengths: each field lazily takes one
character more only if the segments after it cannot take the rest of the text.
-/

set_option autoImplicit false

namespace TextSchema.Schema

open Pattern
open List (Forall₂)

/-- Segments cut a text and leave these pieces for their fields: a literal segment takes
the same letters, a field at least one character and no line break. -/
inductive Cuts : List Segment → List (List Char) → List Char → Prop where
  | done : Cuts [] [] []
  | literal {written segments pieces word rest} :
      Forall₂ SameLetter written.toList word → Cuts segments pieces rest →
      Cuts (.literal written :: segments) pieces (word ++ rest)
  | field {slot segments piece pieces rest} :
      piece ≠ [] → '\n' ∉ piece → Cuts segments pieces rest →
      Cuts (.field slot :: segments) (piece :: pieces) (piece ++ rest)

/-- A cut whose lengths no other cut comes before, compared field by field from the left. -/
structure LeastCut (segments : List Segment) (pieces : List (List Char)) (text : List Char) :
    Prop where
  cuts : Cuts segments pieces text
  least : ∀ others, Cuts segments others text →
    ¬ List.Lex (· < ·) (others.map List.length) (pieces.map List.length)

theorem Cuts.length_eq {segments : List Segment} {pieces : List (List Char)} {text : List Char}
    (cuts : Cuts segments pieces text) : pieces.length = (fieldsOf segments).length := by
  induction cuts with
  | done => rfl
  | literal _ _ ih => exact ih
  | field _ _ _ ih => exact congrArg (· + 1) ih

theorem Cuts.eq_of_lengths {segments : List Segment} {pieces others : List (List Char)}
    {text : List Char} (cuts : Cuts segments pieces text) (given : Cuts segments others text)
    (lengths : others.map List.length = pieces.map List.length) : others = pieces := by
  induction cuts generalizing others with
  | done =>
      cases given
      rfl
  | @literal written segments pieces word rest same _ ih =>
      generalize whole : word ++ rest = chars at given
      cases given with
      | literal sameOther further =>
          obtain ⟨rfl, rfl⟩ :=
            List.append_inj whole (same.length_eq.symm.trans sameOther.length_eq)
          exact ih further lengths
  | @field slot segments piece pieces rest _ _ _ ih =>
      generalize whole : piece ++ rest = chars at given
      cases given with
      | field _ _ further =>
          obtain ⟨here, later⟩ := List.cons.inj lengths
          obtain ⟨rfl, rfl⟩ := List.append_inj whole here.symm
          rw [ih further later]

/-- There is at most one least cut. -/
theorem LeastCut.unique {segments : List Segment} {pieces others : List (List Char)}
    {text : List Char} (first : LeastCut segments pieces text)
    (second : LeastCut segments others text) : others = pieces :=
  first.cuts.eq_of_lengths second.cuts
    (Std.Trichotomous.trichotomous _ _ (first.least others second.cuts)
      (second.least pieces first.cuts))

theorem LeastCut.done : LeastCut [] [] [] := by
  refine ⟨.done, fun others given => ?_⟩
  cases given
  exact List.not_lex_nil

theorem LeastCut.literal {segments : List Segment} {pieces : List (List Char)} {written : String}
    {word rest : List Char} (least : LeastCut segments pieces rest)
    (same : Forall₂ SameLetter written.toList word) :
    LeastCut (.literal written :: segments) pieces (word ++ rest) := by
  refine ⟨.literal same least.cuts, fun others given => ?_⟩
  generalize whole : word ++ rest = chars at given
  cases given with
  | literal sameOther further =>
      obtain ⟨rfl, rfl⟩ := List.append_inj whole (same.length_eq.symm.trans sameOther.length_eq)
      exact least.least others further

/-- A cut is least if its first piece is the shortest and the cut of the rest is least. -/
theorem LeastCut.field {slot : Field} {segments : List Segment} {pieces : List (List Char)}
    {piece rest : List Char} (least : LeastCut segments pieces rest) (filled : piece ≠ [])
    (line : '\n' ∉ piece)
    (shortest : ∀ other others behind, piece ++ rest = other ++ behind → other ≠ [] →
      Cuts segments others behind → piece.length ≤ other.length) :
    LeastCut (.field slot :: segments) (piece :: pieces) (piece ++ rest) := by
  refine ⟨.field filled line least.cuts, fun others given => ?_⟩
  generalize whole : piece ++ rest = chars at given
  cases given with
  | field filledOther _ further =>
      rw [List.map_cons, List.map_cons, List.cons_lex_cons_iff, not_or, not_and]
      refine ⟨Nat.not_lt.mpr (shortest _ _ _ whole filledOther further), fun same => ?_⟩
      obtain ⟨rfl, rfl⟩ := List.append_inj whole same.symm
      exact least.least _ further

/-! ## The expression of a schema without types -/

def lineChar : CharSet := .compl (.single '\n')

def anyText : Expr := .repeated 1 none false (.set lineChar)

/-- The expressions for segments whose fields take any text, so many groups having been
opened before them. -/
def slotExprs : Nat → List Segment → List Expr
  | _, [] => []
  | opened, .literal written :: rest => written.toList.map letter ++ slotExprs opened rest
  | opened, .field _ :: rest => .group (opened + 1) anyText :: slotExprs (opened + 1) rest

/-- The expression for the rest of a schema and of the text. -/
def untilEnd (opened : Nat) (segments : List Segment) : Expr :=
  .ofItems (slotExprs opened segments ++ [.look .textEnd])

theorem append_end_ne_nil (exprs : List Expr) : exprs ++ [.look .textEnd] ≠ [] :=
  List.append_ne_nil_of_right_ne_nil _ (List.cons_ne_nil _ _)

theorem untilEnd_literal (opened : Nat) (written : String) (rest : List Segment) :
    untilEnd opened (.literal written :: rest) =
      .ofItems (written.toList.map letter ++ (slotExprs opened rest ++ [.look .textEnd])) := by
  rw [untilEnd, slotExprs, List.append_assoc]

theorem untilEnd_field (opened : Nat) (slot : Field) (rest : List Segment) :
    untilEnd opened (.field slot :: rest) =
      .cat (.group (opened + 1) anyText) (untilEnd (opened + 1) rest) :=
  Expr.ofItems_cons (append_end_ne_nil _)

theorem mem_letter {char other : Char} :
    (CharSet.ofList (char :: Text.caseVariants char)).mem other = true ↔ SameLetter char other := by
  simp [SameLetter]

theorem mem_lineChar {char : Char} : lineChar.mem char = true ↔ char ≠ '\n' := by
  simp [lineChar, CharSet.mem]

/-! ## From cuts to paths -/

theorem takes_letters_append {letters word rest : List Char} {more : List Expr} {place : Place}
    (same : Forall₂ SameLetter letters word) (text : place.rest = word ++ rest) (further : more ≠ [])
    (onward : ∃ marks stop, (Expr.ofItems more).Takes (place.skip word.length) marks stop) :
    ∃ marks stop, (Expr.ofItems (letters.map letter ++ more)).Takes place marks stop := by
  induction same generalizing place with
  | nil => exact onward
  | @cons char other letters word here _ ih =>
      have behind : place.next.rest = word ++ rest := by
        rw [Place.rest_next, text]
        rfl
      obtain ⟨marks, stop, takes⟩ := ih behind onward
      rw [List.map_cons, List.cons_append,
        Expr.ofItems_cons (List.append_ne_nil_of_right_ne_nil _ further)]
      exact ⟨_, stop, place.next, [], marks,
        ⟨⟨other, _, text, mem_letter.mpr here⟩, rfl, rfl⟩, takes, rfl⟩

theorem passes_line {word rest : List Char} {place : Place} {least : Nat}
    (text : place.rest = word ++ rest) (owed : least ≤ word.length) (line : '\n' ∉ word) :
    Passes (Expr.set lineChar).Takes least none place [] (place.skip word.length) := by
  induction word generalizing place least with
  | nil =>
      obtain rfl : least = 0 := Nat.le_zero.mp owed
      exact .done
  | cons char word ih =>
      obtain ⟨other, line⟩ := not_or.mp (List.mem_cons.not.mp line)
      have pass : (Expr.set lineChar).Takes place [] place.next :=
        ⟨⟨char, _, text, mem_lineChar.mpr (Ne.symm other)⟩, rfl, rfl⟩
      have behind : place.next.rest = word ++ rest := by
        rw [Place.rest_next, text]
        rfl
      have less : least - 1 ≤ word.length := Nat.sub_le_of_le_add owed
      exact @Passes.more _ least none _ _ _ _ _ (.inr (by simp)) pass (ih behind less line)

/-- The expression takes every text that can be cut. -/
theorem Cuts.takes {segments : List Segment} {pieces : List (List Char)} {place : Place}
    {text : List Char} (cuts : Cuts segments pieces text) (here : place.rest = text) (opened : Nat) :
    ∃ marks stop, (untilEnd opened segments).Takes place marks stop := by
  induction cuts generalizing place opened with
  | done => exact ⟨[], place, by simp [Look.holds, here], rfl, rfl⟩
  | @literal written segments pieces word rest same _ ih =>
      have behind : (place.skip word.length).rest = rest := by
        rw [Place.rest_skip, here, List.drop_left]
      rw [untilEnd_literal]
      exact takes_letters_append same here (append_end_ne_nil _) (ih behind opened)
  | @field slot segments piece pieces rest filled line _ ih =>
      have behind : (place.skip piece.length).rest = rest := by
        rw [Place.rest_skip, here, List.drop_left]
      obtain ⟨marks, stop, takes⟩ := ih behind (opened + 1)
      have passes := passes_line here (List.length_pos_iff.mpr filled) line
      rw [untilEnd_field]
      exact ⟨_, stop, place.skip piece.length, _, marks, ⟨[], passes, rfl⟩, takes, rfl⟩

/-- Where the segments after a field can cut the text, there is a path. -/
theorem Cuts.alive {segments : List Segment} {pieces : List (List Char)} {place : Place}
    (cuts : Cuts segments pieces place.rest) (opened index : Nat) :
    Alive .none place [.close index, .run (untilEnd opened segments)] := by
  obtain ⟨marks, stop, takes⟩ := cuts.takes rfl opened
  have ended : Leads .none stop [] (marks ++ [(.closed index, place.index)]) _ := .accept id rfl
  exact ⟨[], _, .step id (.mark rfl) (takes.leads (Nodes.clearBefore_none _) ended)⟩

/-! ## From the first path to a cut -/

theorem first_letters {letters : List Char} {more : List Expr} {place : Place} {marks : Marks}
    {ending : Ending} (further : more ≠ [])
    (first : First place [.run (.ofItems (letters.map letter ++ more))] marks ending) :
    ∃ word rest, place.rest = word ++ rest ∧ Forall₂ SameLetter letters word ∧
      First (place.skip word.length) [.run (.ofItems more)] marks ending := by
  induction letters generalizing place with
  | nil => exact ⟨[], place.rest, rfl, .nil, first⟩
  | cons char letters ih =>
      rw [List.map_cons, List.cons_append,
        Expr.ofItems_cons (List.append_ne_nil_of_right_ne_nil _ further)] at first
      obtain ⟨other, rest, text, member, onward⟩ := (first.of_go rfl).of_set
      obtain ⟨word, behind, more, same, first⟩ := ih onward
      rw [Place.rest_next, text, List.tail_cons] at more
      subst more
      exact ⟨other :: word, behind, text, .cons (mem_letter.mp member) same, first⟩

/-- A lazy repetition takes as little as the frames after it allow. -/
theorem first_again {tail : Continuation} {place : Place} {marks : Marks} {ending : Ending}
    (first : First place (.again false (.set lineChar) :: tail) marks ending) :
    ∃ word rest, place.rest = word ++ rest ∧ '\n' ∉ word ∧
      First (place.skip word.length) tail marks ending ∧
      ∀ fewer < word.length, ¬ Alive .none (place.skip fewer) tail := by
  generalize text : place.rest = chars
  induction chars generalizing place with
  | nil =>
      rcases first.of_fork rfl with leaves | ⟨_, goesOn⟩
      · exact ⟨[], [], rfl, List.not_mem_nil, leaves, fun _ none => absurd none (Nat.not_lt_zero _)⟩
      · obtain ⟨char, rest, more, _⟩ := goesOn.of_set
        rw [text] at more
        cases more
  | cons char chars ih =>
      rcases first.of_fork rfl with leaves | ⟨dead, goesOn⟩
      · exact ⟨[], _, rfl, List.not_mem_nil, leaves, fun _ none => absurd none (Nat.not_lt_zero _)⟩
      · -- Nothing leads on from here, so the pass begins with the next character.
        obtain ⟨_, _, same, member, onward⟩ := goesOn.of_set
        rw [text] at same
        cases same
        obtain ⟨word, rest, rfl, line, first, deadLater⟩ := ih onward (by rw [Place.rest_next, text]; rfl)
        refine ⟨char :: word, rest, rfl, ?_, first, ?_⟩
        · rw [List.mem_cons, not_or]
          exact ⟨(mem_lineChar.mp member).symm, line⟩
        · intro fewer less
          cases fewer with
          | zero => exact dead
          | succ fewer => exact deadLater fewer (Nat.lt_of_succ_lt_succ less)

/-- The first path through the group of a field takes the shortest piece after which the
segments that follow can cut the text. -/
theorem first_field {slot : Field} {segments : List Segment} {opened : Nat} {place : Place}
    {marks : Marks} {ending : Ending}
    (first : First place [.run (untilEnd opened (.field slot :: segments))] marks ending) :
    ∃ piece rest, place.rest = piece ++ rest ∧ piece ≠ [] ∧ '\n' ∉ piece ∧
      First (place.skip piece.length) [.run (untilEnd (opened + 1) segments)]
        ((.closed (opened + 1), place.index + piece.length) ::
          (.opened (opened + 1), place.index) :: marks) ending ∧
      ∀ other others behind, piece ++ rest = other ++ behind → other ≠ [] →
        Cuts segments others behind → piece.length ≤ other.length := by
  rw [untilEnd_field] at first
  have inside := ((first.of_go rfl).of_mark rfl).of_go rfl
  obtain ⟨char, chars, start, member, loop⟩ := inside.of_set
  obtain ⟨word, rest, more, line, closing, dead⟩ := first_again loop
  rw [Place.rest_next, start, List.tail_cons] at more
  subst more
  have index : (place.skip (char :: word).length).index = place.index + (char :: word).length :=
    (Place.spans_skip start).index_eq
  refine ⟨char :: word, rest, start, List.cons_ne_nil _ _, ?_, ?_, ?_⟩
  · rw [List.mem_cons, not_or]
    exact ⟨(mem_lineChar.mp member).symm, line⟩
  · rw [← index]
    exact closing.of_mark rfl
  · intro other others behind whole filled further
    obtain ⟨head, tail, rfl⟩ := List.exists_cons_of_ne_nil filled
    have after : (place.next.skip tail.length).rest = behind := by
      have split := (Place.spans_skip (start.trans whole)).1
      exact (List.append_cancel_left ((start.trans whole).symm.trans split)).symm
    -- A shorter piece would end where the loop went on because nothing led out of it.
    by_contra shorter
    exact dead tail.length (Nat.lt_of_succ_lt_succ (Nat.lt_of_not_le shorter))
      (Cuts.alive (after ▸ further) _ _)

/-! ## Marks -/

/-- The marks that a path leaves which starts at an index and leaves these pieces. -/
def slotMarks : Nat → List Segment → List (List Char) → Nat → Marks
  | opened, .literal written :: rest, pieces, index =>
      slotMarks opened rest pieces (index + written.toList.length)
  | opened, .field _ :: rest, piece :: pieces, index =>
      slotMarks (opened + 1) rest pieces (index + piece.length) ++
        [(.closed (opened + 1), index + piece.length), (.opened (opened + 1), index)]
  | _, _, _, _ => []

/-- The first path is the least cut. -/
theorem leastCut_of_first {segments : List Segment} {opened : Nat} {place : Place} {marks : Marks}
    {ending : Ending} (first : First place [.run (untilEnd opened segments)] marks ending) :
    ∃ pieces, LeastCut segments pieces place.rest ∧
      ending.marks = slotMarks opened segments pieces place.index ++ marks := by
  induction segments generalizing opened place marks with
  | nil =>
      obtain ⟨atEnd, ended⟩ := First.of_look first
      have nothing : place.rest = [] := by simpa [Look.holds] using atEnd
      rw [nothing, ended.of_accept]
      exact ⟨[], .done, rfl⟩
  | cons segment segments ih =>
      cases segment with
      | literal written =>
          rw [untilEnd_literal] at first
          obtain ⟨word, rest, text, same, onward⟩ := first_letters (append_end_ne_nil _) first
          obtain ⟨pieces, least, left⟩ := ih onward
          rw [Place.rest_skip, text, List.drop_left] at least
          rw [(Place.spans_skip text).index_eq, ← same.length_eq] at left
          rw [text]
          exact ⟨pieces, least.literal same, left⟩
      | field slot =>
          obtain ⟨piece, rest, text, filled, line, onward, shortest⟩ := first_field first
          obtain ⟨pieces, least, left⟩ := ih onward
          rw [Place.rest_skip, text, List.drop_left] at least
          rw [(Place.spans_skip text).index_eq] at left
          rw [text]
          refine ⟨piece :: pieces, least.field filled line shortest, ?_⟩
          rw [left, slotMarks, List.append_assoc]
          rfl

theorem lt_group_of_mem_slotMarks {segments : List Segment} {pieces : List (List Char)}
    {opened index : Nat} : ∀ mark ∈ slotMarks opened segments pieces index, opened < mark.1.group := by
  fun_induction slotMarks opened segments pieces index with
  | case1 opened index written rest pieces ih => exact ih
  | case2 opened index slot rest piece pieces ih =>
      intro mark member
      cases List.mem_append.mp member with
      | inl later => exact Nat.lt_of_succ_lt (ih mark later)
      | inr own =>
          simp only [List.mem_cons, List.not_mem_nil, or_false] at own
          rcases own with rfl | rfl <;> exact Nat.lt_succ_self _
  | case3 => exact List.forall_mem_nil _

/-- What the groups of the fields matched are the pieces. -/
theorem captured_of_cuts {segments : List Segment} {pieces : List (List Char)}
    {consumed rest : List Char} {text : String} {found : Match} {before : Marks} {opened : Nat}
    (cuts : Cuts segments pieces rest) (whole : text.toList = consumed ++ rest)
    (all : found.marks = slotMarks opened segments pieces consumed.length ++ before) :
    (List.range' (opened + 1) pieces.length).map (captured text found) =
      pieces.map String.ofList := by
  induction cuts generalizing opened consumed before with
  | done => rfl
  | @literal written segments pieces word rest same _ ih =>
      rw [slotMarks, same.length_eq, ← List.length_append] at all
      exact ih (by rw [whole, List.append_assoc]) all
  | @field slot segments piece pieces rest _ _ _ ih =>
      rw [slotMarks, ← List.length_append, List.append_assoc] at all
      have skipped : ∀ mark : Mark, mark.group = opened + 1 →
          List.lookup mark (slotMarks (opened + 1) segments pieces (consumed ++ piece).length) =
            none := by
        intro mark same
        apply lookup_of_other
        intro entry member
        have above := lt_group_of_mem_slotMarks entry member
        omega
      have place : found.group? (opened + 1) = some (consumed.length, (consumed ++ piece).length) := by
        have other : (Mark.opened (opened + 1) == Mark.closed (opened + 1)) = false := rfl
        refine Match.group?_of_lookup (Nat.succ_ne_zero opened) ?_ ?_
        · rw [all, List.lookup_append, skipped (.opened (opened + 1)) rfl]
          simp [List.lookup_cons, other]
        · rw [all, List.lookup_append, skipped (.closed (opened + 1)) rfl]
          simp
      have own : captured text found (opened + 1) = String.ofList piece := by
        rw [captured, place, List.length_append]
        exact slice_append consumed piece rest whole
      rw [List.length_cons, List.range'_succ, List.map_cons, List.map_cons, own]
      exact congrArg (String.ofList piece :: ·) (ih (by rw [whole, List.append_assoc]) all)

end TextSchema.Schema
