import Mathlib.Data.List.TakeWhile
import TextSchema.Text.Blank
import TextSchema.Text.Pieces

/-!
# Cutting and trimming

What cutting a text at a separator does to a text that is put together, and that blanks
at the ends of a text make no difference to its trimmed pieces. The separator has a
character, and where blanks are trimmed none at its ends.
-/

set_option autoImplicit false

namespace TextSchema.Text

/-! ## Trimming -/

def AllBlank (text : List Char) : Prop :=
  ∀ char ∈ text, isBlank char = true

def Unpadded (text : List Char) : Prop :=
  ∀ char, text.head? = some char ∨ text.getLast? = some char → isBlank char = false

theorem AllBlank.not_mem {blanks : List Char} (all : AllBlank blanks) {sign : Char}
    (visible : isBlank sign = false) : sign ∉ blanks := by
  intro member
  have blank := all sign member
  rw [visible] at blank
  cases blank

theorem dropWhile_blanks {blanks text : List Char} (all : AllBlank blanks) :
    (blanks ++ text).dropWhile isBlank = text.dropWhile isBlank :=
  List.dropWhile_append_of_pos all

theorem dropWhile_of_head {text : List Char}
    (head : ∀ char, text.head? = some char → isBlank char = false) :
    text.dropWhile isBlank = text := by
  cases text with
  | nil => rfl
  | cons char rest => rw [List.dropWhile_cons, if_neg (by simp [head char rfl])]

theorem trimBlanks_blanks_append {blanks text : List Char} (all : AllBlank blanks) :
    trimBlanks (blanks ++ text) = trimBlanks text := by
  rw [trimBlanks, dropWhile_blanks all]
  rfl

theorem trimBlanks_append_blanks {blanks text : List Char} (all : AllBlank blanks) :
    trimBlanks (text ++ blanks) = trimBlanks text := by
  have reversed : AllBlank blanks.reverse := fun char member => all char (List.mem_reverse.mp member)
  have nothing : blanks.dropWhile isBlank = [] := by
    have same := @dropWhile_blanks _ [] all
    rwa [List.append_nil] at same
  unfold trimBlanks
  rw [List.dropWhile_append]
  split
  · rename_i empty
    rw [List.isEmpty_iff] at empty
    rw [nothing, empty]
  · rw [List.reverse_append, dropWhile_blanks reversed]

theorem Unpadded.trimBlanks_eq {text : List Char} (unpadded : Unpadded text) :
    trimBlanks text = text := by
  have head := dropWhile_of_head fun char same => unpadded char (.inl same)
  have last : text.reverse.dropWhile isBlank = text.reverse :=
    dropWhile_of_head fun char same => unpadded char (.inr (by rwa [List.head?_reverse] at same))
  rw [trimBlanks, head, last, List.reverse_reverse]

theorem exists_trimBlanks (text : List Char) :
    ∃ left right, AllBlank left ∧ AllBlank right ∧ text = left ++ (trimBlanks text ++ right) := by
  have blanks : ∀ other : List Char, AllBlank (other.takeWhile isBlank) :=
    fun other char member => List.mem_takeWhile_imp member
  refine ⟨text.takeWhile isBlank,
    ((text.dropWhile isBlank).reverse.takeWhile isBlank).reverse, blanks text, ?_, ?_⟩
  · exact fun char member => blanks _ char (List.mem_reverse.mp member)
  · rw [trimBlanks, ← List.reverse_append, List.takeWhile_append_dropWhile, List.reverse_reverse,
      List.takeWhile_append_dropWhile]

theorem length_trimBlanks_le (text : List Char) : (trimBlanks text).length ≤ text.length := by
  obtain ⟨left, right, _, _, same⟩ := exists_trimBlanks text
  have lengths := congrArg List.length same
  rw [List.length_append, List.length_append] at lengths
  omega

theorem eq_of_length_trimBlanks {text : List Char}
    (untouched : (trimBlanks text).length = text.length) : trimBlanks text = text := by
  obtain ⟨left, right, _, _, same⟩ := exists_trimBlanks text
  have lengths := congrArg List.length same
  rw [List.length_append, List.length_append, untouched] at lengths
  have noLeft : left = [] := List.length_eq_zero_iff.mp (by omega)
  have noRight : right = [] := List.length_eq_zero_iff.mp (by omega)
  rw [noLeft, noRight, List.append_nil, List.nil_append] at same
  exact same.symm

theorem isBlank_of_head?_dropWhile {text : List Char} {char : Char}
    (head : (text.dropWhile isBlank).head? = some char) : isBlank char = false := by
  have shown := List.head?_dropWhile_not isBlank text
  rwa [head] at shown

theorem unpadded_trimBlanks (text : List Char) : Unpadded (trimBlanks text) := by
  intro char atEnd
  cases atEnd with
  | inl head =>
      have ends := (text.dropWhile isBlank).reverse.dropWhile_suffix isBlank
      obtain ⟨rest, whole⟩ := List.reverse_prefix.mpr ends
      rw [List.reverse_reverse, ← trimBlanks] at whole
      apply @isBlank_of_head?_dropWhile text
      rw [← whole, List.head?_append, head]
      rfl
  | inr last =>
      rw [trimBlanks, List.getLast?_reverse] at last
      exact isBlank_of_head?_dropWhile last

theorem allBlank_of_trimBlanks {text : List Char} (nothing : trimBlanks text = []) :
    AllBlank text := by
  obtain ⟨left, right, ofLeft, ofRight, same⟩ := exists_trimBlanks text
  rw [nothing, List.nil_append] at same
  intro char member
  rw [same] at member
  cases List.mem_append.mp member with
  | inl inLeft => exact ofLeft char inLeft
  | inr inRight => exact ofRight char inRight

theorem Unpadded.eq_nil {text : List Char} (unpadded : Unpadded text) (all : AllBlank text) :
    text = [] := by
  cases text with
  | nil => rfl
  | cons char rest =>
      have blank := all char List.mem_cons_self
      rw [unpadded char (.inl rfl)] at blank
      cases blank

theorem unpadded_nil : Unpadded [] := by
  intro char same
  cases same with
  | inl head => cases head
  | inr last => cases last

theorem unpadded_of_unblank {text : List Char} (unblank : ∀ char ∈ text, isBlank char = false) :
    Unpadded text := by
  intro char atEnd
  exact unblank char (atEnd.elim List.mem_of_mem_head? List.mem_of_mem_getLast?)

theorem Unpadded.append {first between last : List Char} (ofFirst : Unpadded first)
    (someFirst : first ≠ []) (ofLast : Unpadded last) (someLast : last ≠ []) :
    Unpadded (first ++ (between ++ last)) := by
  intro char atEnd
  cases atEnd with
  | inl head =>
      obtain ⟨start, rest, rfl⟩ := List.exists_cons_of_ne_nil someFirst
      exact ofFirst char (.inl head)
  | inr tail =>
      have same := List.getLast?_eq_some_getLast someLast
      rw [← List.append_assoc, List.getLast?_append, same] at tail
      exact ofLast char (.inr (same.trans tail))

/-! ## Pieces -/

section

variable {separator : List Char}

theorem pieces_eq (nonempty : separator ≠ []) (text : List Char) :
    pieces separator text = piecesFrom separator 0 text := by
  cases separator with
  | nil => exact absurd rfl nonempty
  | cons => rfl

theorem piecesFrom_ne_nil (skip : Nat) (text : List Char) : piecesFrom separator skip text ≠ [] := by
  induction text generalizing skip with
  | nil => cases skip <;> exact List.cons_ne_nil _ _
  | cons char rest ih =>
      cases skip with
      | succ skip => exact ih skip
      | zero =>
          rw [piecesFrom]
          split
          · exact List.cons_ne_nil _ _
          · cases piecesFrom separator 0 rest <;> exact List.cons_ne_nil _ _

/-- Text in which no separator begins stays in front of the first piece. -/
theorem pieces_append {text rest : List Char} (nonempty : separator ≠ [])
    (clear : ∀ later, later ≠ [] → later <:+ text → ¬ separator <+: later ++ rest) :
    ∃ first others, pieces separator rest = first :: others ∧
      pieces separator (text ++ rest) = (text ++ first) :: others := by
  simp only [pieces_eq nonempty]
  induction text with
  | nil =>
      obtain ⟨first, others, same⟩ := List.exists_cons_of_ne_nil (piecesFrom_ne_nil 0 rest)
      exact ⟨first, others, same, same⟩
  | cons char tail ih =>
      obtain ⟨first, others, ofRest, ofTail⟩ := ih fun later some_ ends =>
        clear later some_ (ends.trans (List.suffix_cons char tail))
      have other : ¬ separator.isPrefixOf (char :: (tail ++ rest)) = true := by
        rw [List.isPrefixOf_iff_prefix]
        exact clear (char :: tail) (List.cons_ne_nil _ _) (List.suffix_refl _)
      refine ⟨first, others, ofRest, ?_⟩
      rw [List.cons_append, piecesFrom, if_neg other, ofTail]
      rfl

theorem piecesFrom_length_append (text rest : List Char) :
    piecesFrom separator text.length (text ++ rest) = piecesFrom separator 0 rest := by
  induction text with
  | nil => rfl
  | cons char tail ih => exact ih

theorem pieces_separator_append (nonempty : separator ≠ []) (rest : List Char) :
    pieces separator (separator ++ rest) = [] :: pieces separator rest := by
  rw [pieces_eq nonempty, pieces_eq nonempty]
  cases separator with
  | nil => exact absurd rfl nonempty
  | cons head more =>
      have found : (head :: more).isPrefixOf (head :: (more ++ rest)) = true := by simp
      rw [List.cons_append, piecesFrom, if_pos found]
      exact congrArg ([] :: ·) (piecesFrom_length_append more rest)

theorem pieces_of_absent {sign : Char} {text : List Char} (member : sign ∈ separator)
    (absent : sign ∉ text) : pieces separator text = [text] := by
  have nonempty := List.ne_nil_of_mem member
  obtain ⟨first, others, ofNil, same⟩ := @pieces_append _ text [] nonempty (by
    intro later _ ends starts
    rw [List.append_nil] at starts
    exact absent (ends.subset (starts.subset member)))
  rw [pieces_eq nonempty] at ofNil
  cases ofNil
  simpa using same

theorem ne_of_absent {sign : Char} {text : List Char} (absent : sign ∉ text) :
    ∀ char ∈ text, (char != sign) = true := by
  intro char member
  exact bne_iff_ne.mpr fun same => absent (same ▸ member)

/-- What stands before a character of the separator does not depend on what follows. -/
theorem takeWhile_separator {sign : Char} (member : sign ∈ separator) (rest : List Char) :
    (separator ++ rest).takeWhile (· != sign) = separator.takeWhile (· != sign) := by
  obtain ⟨front, back, rfl, absent⟩ := List.eq_append_cons_of_mem member
  rw [List.append_assoc, List.takeWhile_append_of_pos (ne_of_absent absent),
    List.takeWhile_append_of_pos (ne_of_absent absent)]
  simp

/-- A separator is found where it was put, if a character of it is not there before. -/
theorem pieces_append_separator {sign : Char} {before : List Char} (member : sign ∈ separator)
    (absent : sign ∉ before) (rest : List Char) :
    pieces separator (before ++ (separator ++ rest)) = before :: pieces separator rest := by
  have nonempty := List.ne_nil_of_mem member
  obtain ⟨first, others, cut, same⟩ := @pieces_append _ before (separator ++ rest) nonempty (by
    intro later some_ ends starts
    have notLater : sign ∉ later := fun inLater => absent (ends.subset inLater)
    obtain ⟨beyond, same⟩ := starts
    have fronts := congrArg (List.takeWhile (· != sign)) same
    rw [takeWhile_separator member beyond, List.takeWhile_append_of_pos (ne_of_absent notLater),
      takeWhile_separator member rest] at fronts
    have lengths := congrArg List.length fronts
    rw [List.length_append] at lengths
    exact some_ (List.length_eq_zero_iff.mp (by omega)))
  rw [pieces_separator_append nonempty] at cut
  obtain ⟨rfl, rfl⟩ := List.cons.inj cut
  rw [same, List.append_nil]

theorem mem_intercalate {char : Char} {parts : List (List Char)}
    (member : char ∈ separator.intercalate parts) :
    char ∈ separator ∨ ∃ part ∈ parts, char ∈ part := by
  induction parts with
  | nil => cases member
  | cons part rest ih =>
      cases rest with
      | nil => exact .inr ⟨part, .head _, by simpa using member⟩
      | cons next more =>
          rw [List.intercalate_cons_cons, List.mem_append, List.mem_append] at member
          rcases member with (here | inSeparator) | later
          · exact .inr ⟨part, .head _, here⟩
          · exact .inl inSeparator
          · refine (ih later).imp_right ?_
            rintro ⟨other, inRest, inOther⟩
            exact ⟨other, .tail _ inRest, inOther⟩

/-- Parts joined with a separator are the pieces again, if a character of the separator is
in none of them. -/
theorem pieces_intercalate {sign : Char} {parts : List (List Char)} (member : sign ∈ separator)
    (some_ : parts ≠ []) (absent : ∀ part ∈ parts, sign ∉ part) :
    pieces separator (separator.intercalate parts) = parts := by
  induction parts with
  | nil => exact absurd rfl some_
  | cons part rest ih =>
      obtain ⟨here, later⟩ := List.forall_mem_cons.mp absent
      cases rest with
      | nil => simpa using pieces_of_absent member here
      | cons next more =>
          rw [List.intercalate_cons_cons, List.append_assoc, pieces_append_separator member here,
            ih (List.cons_ne_nil _ _) later]

theorem exists_sign (nonempty : separator ≠ []) (unpadded : Unpadded separator) :
    ∃ sign ∈ separator, isBlank sign = false := by
  obtain ⟨head, rest, rfl⟩ := List.exists_cons_of_ne_nil nonempty
  exact ⟨head, .head _, unpadded head (.inl rfl)⟩

theorem isPrefixOf_append_blanks (unpadded : Unpadded separator)
    {blanks text : List Char} (all : AllBlank blanks) :
    separator.isPrefixOf (text ++ blanks) = separator.isPrefixOf text := by
  apply Bool.eq_iff_iff.mpr
  rw [List.isPrefixOf_iff_prefix, List.isPrefixOf_iff_prefix]
  constructor
  · intro found
    cases List.prefix_or_prefix_of_prefix found (List.prefix_append text blanks) with
    | inl here => exact here
    | inr beyond =>
      obtain ⟨behind, rfl⟩ := beyond
      rw [List.prefix_append_right_inj] at found
      cases same : behind.getLast? with
      | none =>
          simp [List.getLast?_eq_none_iff.mp same]
      | some last =>
          have blank := all last (found.subset (List.mem_of_getLast? same))
          rw [unpadded last (.inr (by rw [List.getLast?_append, same]; rfl))] at blank
          cases blank
  · intro found
    exact found.trans (List.prefix_append text blanks)

theorem piecesFrom_append_blanks (nonempty : separator ≠ []) (unpadded : Unpadded separator)
    {blanks : List Char}
    (all : AllBlank blanks) {skip : Nat} {text : List Char} (within : skip ≤ text.length) :
    ∃ others last, piecesFrom separator skip text = others ++ [last] ∧
      piecesFrom separator skip (text ++ blanks) = others ++ [last ++ blanks] := by
  induction text generalizing skip with
  | nil =>
      obtain rfl : skip = 0 := Nat.le_zero.mp within
      obtain ⟨sign, member, visible⟩ := exists_sign nonempty unpadded
      have only := pieces_of_absent member (all.not_mem visible)
      rw [pieces_eq nonempty] at only
      exact ⟨[], [], rfl, only⟩
  | cons char rest ih =>
      cases skip with
      | succ skip => exact ih (Nat.le_of_succ_le_succ within)
      | zero =>
          have same := @isPrefixOf_append_blanks _ unpadded _ (char :: rest) all
          rw [List.cons_append] at same
          rw [List.cons_append, piecesFrom, piecesFrom, same]
          cases found : separator.isPrefixOf (char :: rest) with
          | true =>
              have length := (List.isPrefixOf_iff_prefix.mp found).length_le
              rw [List.length_cons] at length
              obtain ⟨others, last, ofRest, ofBoth⟩ := @ih (separator.length - 1) (by omega)
              rw [if_pos rfl, if_pos rfl, ofRest, ofBoth]
              exact ⟨[] :: others, last, rfl, rfl⟩
          | false =>
              obtain ⟨others, last, ofRest, ofBoth⟩ := @ih 0 (Nat.zero_le _)
              rw [if_neg Bool.false_ne_true, if_neg Bool.false_ne_true, ofRest, ofBoth]
              cases others with
              | nil => exact ⟨[], char :: last, rfl, rfl⟩
              | cons first more => exact ⟨(char :: first) :: more, last, rfl, rfl⟩

theorem trimmed_pieces_blanks_append (nonempty : separator ≠ []) (unpadded : Unpadded separator)
    {blanks : List Char} (all : AllBlank blanks) (text : List Char) :
    (pieces separator (blanks ++ text)).map trimBlanks = (pieces separator text).map trimBlanks := by
  obtain ⟨first, others, ofText, ofBoth⟩ := @pieces_append _ blanks text nonempty (by
    intro later some_ ends starts
    obtain ⟨head, rest, rfl⟩ := List.exists_cons_of_ne_nil nonempty
    obtain ⟨char, tail, rfl⟩ := List.exists_cons_of_ne_nil some_
    obtain rfl : head = char := (List.cons_prefix_cons.mp starts).1
    exact all.not_mem (unpadded head (.inl rfl)) (ends.subset (.head _)))
  rw [ofText, ofBoth, List.map_cons, List.map_cons, trimBlanks_blanks_append all]

/-- Blanks at the ends of a text do not show in its trimmed pieces. -/
theorem trimmed_pieces_trimBlanks (nonempty : separator ≠ []) (unpadded : Unpadded separator)
    (text : List Char) :
    (pieces separator (trimBlanks text)).map trimBlanks = (pieces separator text).map trimBlanks := by
  obtain ⟨left, right, ofLeft, ofRight, same⟩ := exists_trimBlanks text
  obtain ⟨others, last, ofText, ofBoth⟩ :=
    piecesFrom_append_blanks nonempty unpadded ofRight (Nat.zero_le (trimBlanks text).length)
  have whole := trimmed_pieces_blanks_append nonempty unpadded ofLeft (trimBlanks text ++ right)
  rw [← same, pieces_eq nonempty, pieces_eq nonempty, ofBoth] at whole
  rw [pieces_eq nonempty, pieces_eq nonempty, whole, ofText, List.map_append, List.map_append,
    List.map_singleton, List.map_singleton, trimBlanks_append_blanks ofRight]

theorem intercalate_consFirst (char : Char) (parts : List (List Char)) :
    separator.intercalate (consFirst char parts) = char :: separator.intercalate parts := by
  match parts with
  | [] => simp [consFirst]
  | [piece] => simp [consFirst]
  | piece :: second :: more => simp [consFirst, List.intercalate_cons_cons]

/-- Put together again with the separator between them, the pieces are the text. -/
theorem intercalate_pieces (nonempty : separator ≠ []) (text : List Char) :
    separator.intercalate (pieces separator text) = text := by
  have onward : ∀ skip : Nat, skip ≤ text.length →
      separator.intercalate (piecesFrom separator skip text) = text.drop skip := by
    induction text with
    | nil =>
        intro skip _
        cases skip <;> rfl
    | cons char rest ih =>
        intro skip within
        cases skip with
        | succ skip => exact ih skip (Nat.le_of_succ_le_succ within)
        | zero =>
            rw [piecesFrom]
            split
            · rename_i found
              have starts := List.isPrefixOf_iff_prefix.mp found
              have length := starts.length_le
              rw [List.length_cons] at length
              rw [List.intercalate_cons_of_ne_nil (piecesFrom_ne_nil _ _), ih _ (by omega),
                List.nil_append]
              obtain ⟨head, more, rfl⟩ := List.exists_cons_of_ne_nil nonempty
              obtain ⟨beyond, whole⟩ := starts
              obtain ⟨rfl, rfl⟩ := List.cons.inj whole
              simp
            · rw [intercalate_consFirst, ih 0 (Nat.zero_le _)]
              rfl
  exact pieces_eq nonempty text ▸ onward 0 (Nat.zero_le _)

end

end TextSchema.Text
