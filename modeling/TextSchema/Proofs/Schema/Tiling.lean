import TextSchema.FieldType.Enumeration
import TextSchema.Schema
import TextSchema.Proofs.Pattern.Language

/-!
# Schemas cut texts

A text that a compiled schema accepts is cut into the literal parts of the schema
and the texts of its fields, without gaps and in order. It takes two things: each
field has the number of the group around its pattern, and what a pattern says stays
inside that group.
-/

set_option autoImplicit false

namespace TextSchema.Schema

open Pattern
open List (Forall₂)

/-- The characters are the same up to case. -/
def SameLetter (written char : Char) : Prop :=
  char = written ∨ char ∈ Text.caseVariants written

/-- Segments cut what is left of a text from a place on: a literal segment takes the
same letters, a field what its group matched, and nothing is left behind the last. -/
inductive Tiles (found : Match) : List Segment → List BoundField → Nat → List Char → Prop where
  | done {index} : Tiles found [] [] index []
  | literal {written word segments fields index rest} :
      Forall₂ SameLetter written.toList word →
      Tiles found segments fields (index + word.length) rest →
      Tiles found (.literal written :: segments) fields index (word ++ rest)
  | field {slot field word segments fields index rest} :
      found.group? field.group = some (index, index + word.length) →
      Tiles found segments fields (index + word.length) rest →
      Tiles found (.field slot :: segments) (field :: fields) index (word ++ rest)

/-! ## The pattern of a schema -/

/-- The pattern of segments as text and as items, so many groups having been opened
before them. -/
inductive Laid : Nat → List Segment → List BoundField → List Char → List Tree → Prop where
  | nil {opened} : Laid opened [] [] [] []
  | literal {opened written segments fields pattern trees} :
      Laid opened segments fields pattern trees →
      Laid opened (.literal written :: segments) fields ((escape written).toList ++ pattern)
        (written.toList.map Reader.plain ++ trees)
  | field {opened slot field segments fields pattern trees} {part : Part} :
      field.group = opened + 1 → part.pattern = groupPattern field.type →
      Laid (opened + 1 + part.groups) segments fields pattern trees →
      Laid opened (.field slot :: segments) (field :: fields)
        ('(' :: (part.pattern.toList ++ ')' :: pattern)) (part.group opened :: trees)

theorem Laid.closed {opened : Nat} {segments : List Segment} {fields : List BoundField}
    {pattern : List Char} {trees : List Tree} (laid : Laid opened segments fields pattern trees) :
    ∀ tree ∈ trees, tree.isClosed = true := by
  induction laid with
  | nil => exact List.forall_mem_nil _
  | literal _ ih =>
      intro tree member
      cases List.mem_append.mp member with
      | inl here => exact Tree.isClosed_of_mem_plain here
      | inr later => exact ih tree later
  | field _ _ _ ih => exact List.forall_mem_cons.mpr ⟨rfl, ih⟩

theorem Draft.add_field_ok {types : TypeTable} {draft next : Draft} {slot : Field}
    (success : draft.add types (.field slot) = .ok next) :
    ∃ field count, groupCount (groupPattern field.type) = .ok count ∧
      field.group = draft.nextGroup ∧
      next = ⟨draft.pattern ++ ("(" ++ groupPattern field.type ++ ")"),
        draft.boundFields ++ [field], draft.nextGroup + 1 + count⟩ := by
  obtain ⟨type, _, counting⟩ := exists_of_bind_ok success
  obtain ⟨count, counted, same⟩ := exists_of_bind_ok counting
  cases same
  exact ⟨⟨_, draft.nextGroup, type⟩, count, eq_ok_of_mapError counted, rfl, rfl⟩

theorem laid_of_foldlM {types : TypeTable} {segments : List Segment} {draft result : Draft}
    {opened : Nat} (success : segments.foldlM (Draft.add types) draft = .ok result)
    (next : draft.nextGroup = opened + 1)
    (apart : ∀ field ∈ result.boundFields, skipsBlanks (groupPattern field.type) = false ∧
      hidesGroup (groupPattern field.type) = false) :
    ∃ fields pattern trees, result.boundFields = draft.boundFields ++ fields ∧
      result.pattern.toList = draft.pattern.toList ++ pattern ∧
      Laid opened segments fields pattern trees := by
  induction segments generalizing draft opened with
  | nil =>
      cases success
      exact ⟨[], [], [], (List.append_nil _).symm, (List.append_nil _).symm, .nil⟩
  | cons segment rest ih =>
      rw [List.foldlM_cons] at success
      obtain ⟨between, added, further⟩ := exists_of_bind_ok success
      cases segment with
      | literal written =>
          cases added
          obtain ⟨fields, pattern, trees, sameFields, samePattern, laid⟩ := ih further next
          refine ⟨fields, _, _, sameFields, ?_, .literal laid⟩
          rw [samePattern, String.toList_append, List.append_assoc]
      | field slot =>
          obtain ⟨field, count, counted, numbered, rfl⟩ := Draft.add_field_ok added
          have after : draft.nextGroup + 1 + count = (opened + 1 + count) + 1 := by omega
          obtain ⟨fields, pattern, trees, sameFields, samePattern, laid⟩ := ih further after
          obtain ⟨dense, shown⟩ := apart field (by simp [sameFields])
          obtain ⟨part, same⟩ := Part.exists_of_groupCount counted dense
          rw [← same] at counted shown
          obtain rfl : count = part.groups :=
            (Part.groupCount_le counted).2.mpr (part.hidesGroup_eq ▸ shown)
          refine ⟨field :: fields, _, _, ?_, ?_, .field (numbered.trans next) same laid⟩
          · rw [sameFields, List.append_assoc, List.singleton_append]
          · rw [samePattern, same]
            simp

theorem readOn_laid {opened : Nat} {segments : List Segment} {fields : List BoundField}
    {pattern rest : List Char} {trees : List Tree} {result : Tree} {reader : Reader}
    (laid : Laid opened segments fields pattern trees) (ready : reader.Ready)
    (count : reader.groups = opened) (success : reader.readOn (pattern ++ rest) = .ok result) :
    ∃ after : Reader, after.Ready ∧ after.stack = reader.stack ∧
      after.branches = reader.branches ∧ after.items = trees.reverse ++ reader.items ∧
      after.readOn rest = .ok result := by
  induction laid generalizing reader with
  | nil => exact ⟨reader, ready, rfl, rfl, rfl, success⟩
  | @literal opened written segments fields pattern trees _ ih =>
      rw [escape, String.toList_ofList, List.append_assoc, Reader.readOn, Reader.feed_append,
        Reader.feed_escape ready] at success
      obtain ⟨after, stands, stack, branches, items, further⟩ :=
        ih (ready.withItems _) count success
      refine ⟨after, stands, stack, branches, ?_, further⟩
      rw [items, Reader.withItems, List.reverse_append, List.append_assoc]
  | @field opened slot field segments fields pattern trees part _ _ _ ih =>
      have written : '(' :: (part.pattern.toList ++ ')' :: pattern) ++ rest =
          '(' :: (part.pattern.toList ++ ')' :: (pattern ++ rest)) := by simp
      rw [written] at success
      have beyond := Reader.readOn_group ready part.fragment success
      obtain ⟨after, stands, stack, branches, items, further⟩ :=
        ih ready.withGroup (congrArg (· + 1 + part.groups) count) beyond
      refine ⟨after, stands, stack, branches, ?_, further⟩
      rw [items, Reader.withGroup, count, List.reverse_cons, List.append_assoc]
      rfl

theorem compile_laid {segments : List Segment} {fields : List BoundField} {pattern : String}
    {trees : List Tree} {acceptor : Acceptor}
    (laid : Laid 0 segments fields pattern.toList trees)
    (compiled : Acceptor.compile pattern true = .ok acceptor) :
    (∃ exprs, Forall₂ (Tree.Stands (.initial true)) trees exprs ∧
      acceptor.expr = (exprs.foldl Expr.concat .empty).anchored) ∧
      ∀ tree ∈ trees, 2 + tree.nesting ≤ nestingLimit := by
  have reads : ∀ result, Reader.wholeStart.readOn (pattern.toList ++ [')', '$']) = .ok result →
      result = Reader.wholeTree (.ofItems trees) := by
    intro result success
    obtain ⟨after, ready, stack, branches, items, closing⟩ :=
      readOn_laid laid Reader.wholeStart_ready rfl success
    rw [ready.readOn_end stack closing, Reader.body, branches, items]
    simp [Reader.wholeStart, Tree.ofBranches]
  obtain ⟨shallow, branches, after, lowered, same⟩ := compile_body compiled reads
  rw [Reader.nesting_wholeTree] at shallow
  constructor
  · obtain ⟨exprs, stands, choice⟩ := Tree.alternatives_ofItems laid.closed lowered
    exact ⟨exprs, stands, by rw [same, choice]⟩
  · intro tree member
    have inBody := Tree.nesting_le_ofItems tree member
    omega

/-! ## What the pattern takes -/

private theorem forall₂_append_left {α β : Type} {related : α → β → Prop} {first second : List α}
    {others : List β} (all : Forall₂ related (first ++ second) others) :
    ∃ lefts rights, others = lefts ++ rights ∧ Forall₂ related first lefts ∧
      Forall₂ related second rights := by
  induction first generalizing others with
  | nil => exact ⟨[], others, rfl, .nil, all⟩
  | cons head tail ih =>
      cases all with
      | cons here later =>
          obtain ⟨lefts, rights, rfl, ofTail, ofSecond⟩ := ih later
          exact ⟨_ :: lefts, rights, rfl, .cons here ofTail, ofSecond⟩

def letter (char : Char) : Expr :=
  .set (.ofList (char :: Text.caseVariants char))

theorem stands_plain {chars : List Char} {exprs : List Expr}
    (stands : Forall₂ (Tree.Stands (.initial true)) (chars.map Reader.plain) exprs) :
    exprs = chars.map letter := by
  induction chars generalizing exprs with
  | nil =>
      cases stands
      rfl
  | cons char rest ih =>
      cases stands with
      | cons here later =>
          obtain rfl := ih later
          cases here
          rfl

theorem takes_letters {chars : List Char} {next : Continuation} {start stop : Place} {marks : Marks}
    (takes : Continuation.Takes ((chars.map letter).map .run ++ next) start marks stop) :
    ∃ word middle, Forall₂ SameLetter chars word ∧ start.Spans word middle ∧
      Continuation.Takes next middle marks stop := by
  induction chars generalizing start marks with
  | nil => exact ⟨[], start, .nil, start.spans_nil, takes⟩
  | cons char rest ih =>
      obtain ⟨_, _, left, ⟨⟨other, behind, text, member⟩, rfl, rfl⟩, tail, rfl⟩ := takes
      obtain ⟨word, middle, letters, spans, further⟩ := ih tail
      have same : SameLetter char other := by simpa [SameLetter] using member
      refine ⟨other :: word, middle, .cons same letters, ?_, ?_⟩
      · exact (Place.Spans.char text).append spans
      · rwa [List.append_nil]

theorem mem_groups_of_takes {exprs : List Expr} {start stop : Place} {marks : Marks}
    (takes : Continuation.Takes (exprs.map .run) start marks stop) :
    ∀ mark ∈ marks, ∃ expr ∈ exprs, mark.1.group ∈ expr.groups := by
  induction exprs generalizing start marks with
  | nil =>
      obtain ⟨rfl, _⟩ := takes
      exact List.forall_mem_nil _
  | cons first rest ih =>
      obtain ⟨middle, one, two, here, there, rfl⟩ := takes
      intro mark member
      cases List.mem_append.mp member with
      | inl later =>
        obtain ⟨expr, inRest, ofExpr⟩ := ih there mark later
        exact ⟨expr, .tail _ inRest, ofExpr⟩
      | inr earlier => exact ⟨first, .head _, Expr.Takes.group_mem here mark earlier⟩

theorem Laid.lt_of_mem_groups {opened : Nat} {segments : List Segment} {fields : List BoundField}
    {pattern : List Char} {trees : List Tree} {exprs : List Expr}
    (laid : Laid opened segments fields pattern trees)
    (stands : Forall₂ (Tree.Stands (.initial true)) trees exprs) :
    ∀ expr ∈ exprs, ∀ index ∈ expr.groups, opened < index := by
  induction laid generalizing exprs with
  | nil =>
      cases stands
      exact List.forall_mem_nil _
  | literal _ ih =>
      obtain ⟨lefts, rights, rfl, ofPlain, ofRest⟩ := forall₂_append_left stands
      intro expr member
      cases List.mem_append.mp member with
      | inl here =>
        rw [stands_plain ofPlain] at here
        obtain ⟨char, _, rfl⟩ := List.mem_map.mp here
        exact List.forall_mem_nil _
      | inr later => exact ih ofRest expr later
  | @field opened slot field segments fields pattern trees part _ _ _ ih =>
      cases stands with
      | cons here later =>
          obtain ⟨inner, means, rfl⟩ := Part.stands_group here
          intro expr member index inGroups
          cases List.mem_cons.mp member with
          | inl same =>
            subst same
            cases List.mem_cons.mp inGroups with
            | inl same =>
              subst same
              exact Nat.lt_succ_self _
            | inr inInner =>
              exact Nat.lt_trans (Nat.lt_succ_self _) (means.mem_groups_renumber inInner).1
          | inr further =>
            have above := ih later expr further index inGroups
            omega

theorem slice_append (consumed word rest : List Char) {text : String}
    (whole : text.toList = consumed ++ (word ++ rest)) :
    slice text consumed.length (consumed.length + word.length) = String.ofList word := by
  rw [slice, whole, ← List.append_assoc, ← List.length_append, List.take_left, List.drop_left]

theorem group?_of_takes {index : Nat} {body : Expr} {start stop : Place} {found : Match}
    {later first before : Marks} (numbered : index ≠ 0)
    (takes : (Expr.group index body).Takes start first stop) (alone : index ∉ body.groups)
    (all : found.marks = later ++ (first ++ before))
    (others : ∀ mark ∈ later, mark.1.group ≠ index) :
    found.group? index = some (start.index, stop.index) := by
  obtain ⟨opening, closing⟩ := takes.lookup_group alone
  have skipped : ∀ mark : Mark, mark.group = index → later.lookup mark = none := by
    intro mark same
    exact lookup_of_other (same ▸ others)
  refine Match.group?_of_lookup numbered ?_ ?_
  · rw [all, List.lookup_append, skipped (.opened index) rfl, List.lookup_append, opening]
    rfl
  · rw [all, List.lookup_append, skipped (.closed index) rfl, List.lookup_append, closing]
    rfl

/-- What the pattern of segments takes is cut by them, and a field whose pattern has no
conditions gets a text that its pattern takes alone. -/
theorem Laid.tiles {opened : Nat} {segments : List Segment} {fields : List BoundField}
    {pattern consumed : List Char} {trees : List Tree} {exprs : List Expr} {text : String}
    {found : Match} {start stop : Place} {marks before : Marks}
    (laid : Laid opened segments fields pattern trees)
    (stands : Forall₂ (Tree.Stands (.initial true)) trees exprs)
    (shallow : ∀ tree ∈ trees, 2 + tree.nesting ≤ nestingLimit)
    (takes : Continuation.Takes (exprs.map .run) start marks stop) (ended : stop.rest = [])
    (all : found.marks = marks ++ before) (whole : text.toList = consumed ++ start.rest)
    (reached : start.index = consumed.length) :
    Tiles found segments fields start.index start.rest ∧
      ∀ field ∈ fields, looksAround (groupPattern field.type) = false →
        takesWhole true (groupPattern field.type) (captured text found field.group) = true := by
  induction laid generalizing exprs start marks before consumed with
  | nil =>
      cases stands
      obtain ⟨_, rfl⟩ := takes
      exact ⟨ended ▸ .done, List.forall_mem_nil _⟩
  | @literal opened written segments fields pattern trees _ ih =>
      obtain ⟨lefts, rights, rfl, ofPlain, ofRest⟩ := forall₂_append_left stands
      obtain rfl := stands_plain ofPlain
      rw [List.map_append] at takes
      obtain ⟨word, middle, letters, spans, further⟩ := takes_letters takes
      have shallowRest : ∀ tree ∈ trees, 2 + tree.nesting ≤ nestingLimit :=
        fun tree member => shallow tree (List.mem_append_right _ member)
      have wholeRest : text.toList = (consumed ++ word) ++ middle.rest := by
        rw [whole, spans.1, List.append_assoc]
      have reachedRest : middle.index = (consumed ++ word).length := by
        rw [spans.index_eq, reached, List.length_append]
      obtain ⟨tiles, taken⟩ := ih ofRest shallowRest further all wholeRest reachedRest
      refine ⟨?_, taken⟩
      rw [spans.1]
      exact .literal letters (spans.index_eq ▸ tiles)
  | @field opened slot field segments fields pattern trees part numbered same laid ih =>
      cases stands with
      | cons here ofRest =>
          obtain ⟨inner, means, rfl⟩ := Part.stands_group here
          obtain ⟨middle, first, later, ofGroup, further, rfl⟩ := takes
          have allRest : found.marks = later ++ (first ++ before) := by
            rw [all, List.append_assoc]
          have alone : opened + 1 ∉ (inner.renumber (opened + 1)).groups :=
            fun member => Nat.lt_irrefl _ (means.mem_groups_renumber member).1
          have others : ∀ mark ∈ later, mark.1.group ≠ opened + 1 := by
            intro mark member
            obtain ⟨expr, inRest, ofExpr⟩ := mem_groups_of_takes further mark member
            have above := laid.lt_of_mem_groups ofRest expr inRest _ ofExpr
            omega
          have place : found.group? field.group = some (start.index, middle.index) :=
            numbered ▸ group?_of_takes (Nat.succ_ne_zero _) ofGroup alone allRest others
          obtain ⟨_, inside, _⟩ := ofGroup
          obtain ⟨original, takesInner, _⟩ := Expr.takes_renumber.mp inside
          obtain ⟨word, inWords, spans⟩ := takesInner.mem_language
          have wholeRest : text.toList = (consumed ++ word) ++ middle.rest := by
            rw [whole, spans.1, List.append_assoc]
          have reachedRest : middle.index = (consumed ++ word).length := by
            rw [spans.index_eq, reached, List.length_append]
          obtain ⟨tiles, taken⟩ := ih ofRest (fun tree member => shallow tree (.tail _ member))
            further allRest wholeRest reachedRest
          constructor
          · rw [spans.1]
            rw [spans.index_eq] at place tiles
            exact .field place tiles
          · refine List.forall_mem_cons.mpr ⟨fun free => ?_, taken⟩
            have own : captured text found field.group = String.ofList word := by
              rw [spans.1] at whole
              rw [captured, place, spans.index_eq, reached]
              exact slice_append consumed word middle.rest whole
            have deep := shallow _ (.head _)
            have shallowPart : (Reader.wholeTree part.tree).nesting ≤ nestingLimit := by
              rw [Reader.nesting_wholeTree, ← Tree.nesting_renumber (opened + 1)]
              exact Nat.le_trans (Nat.add_le_add_left (Nat.le_add_left _ 1) 2) deep
            rw [← same] at free ⊢
            rw [own, means.takesWhole_iff_mem shallowPart free, String.toList_ofList]
            exact inWords

/-! ## Compiled schemas -/

theorem compile_ok {settings : Settings} {schema : String} {table : TypeTable} {compiled : Schema}
    (success : (compile settings schema table).result = .ok compiled) :
    ∃ types draft, (segments schema).foldlM (Draft.add types) .empty = .ok draft ∧
      Acceptor.compile draft.pattern true = .ok compiled.acceptor ∧
      compiled.boundFields = draft.boundFields := by
  unfold compile at success
  simp only [Attempt.result_bind, Attempt.result_ofExcept, Building.result_ofDecode] at success
  obtain ⟨created, _, success⟩ := exists_of_bind_ok success
  obtain ⟨types, _, success⟩ := exists_of_bind_ok success
  obtain ⟨draft, drafted, success⟩ := exists_of_bind_ok success
  obtain ⟨acceptor, accepts, success⟩ := exists_of_bind_ok success
  obtain rfl := Except.ok.inj success
  exact ⟨types, draft, drafted, eq_ok_of_mapError accepts, rfl⟩

/-- A text that a schema accepts is cut by the segments of the schema from its start to
its end, every group of a field taking part. Where the pattern of a field has no
conditions, it takes the text of the field alone. -/
theorem tiles_of_match {settings : Settings} {schema : String} {table : TypeTable}
    {compiled : Schema} (success : (compile settings schema table).result = .ok compiled)
    (apart : ∀ field ∈ compiled.boundFields, skipsBlanks (groupPattern field.type) = false ∧
      hidesGroup (groupPattern field.type) = false)
    {text : String} {found : Match} (accepted : compiled.acceptor.find? text = some found) :
    Tiles found (segments schema) compiled.boundFields 0 text.toList ∧
      ∀ field ∈ compiled.boundFields, looksAround (groupPattern field.type) = false →
        takesWhole true (groupPattern field.type) (captured text found field.group) = true := by
  obtain ⟨types, draft, drafted, compiles, same⟩ := compile_ok success
  rw [same] at apart ⊢
  obtain ⟨fields, pattern, trees, sameFields, samePattern, laid⟩ :=
    laid_of_foldlM drafted rfl apart
  obtain rfl : draft.boundFields = fields := sameFields
  obtain rfl : draft.pattern.toList = pattern := samePattern
  obtain ⟨⟨exprs, stands, sameExpr⟩, shallow⟩ := compile_laid laid compiles
  rw [Acceptor.find?, sameExpr] at accepted
  obtain ⟨stop, takes, ended⟩ := Expr.takesAll_of_search accepted
  obtain ⟨_, first, later, ⟨rfl, rfl⟩, further, all⟩ := Expr.takes_foldl_concat.mp takes
  have whole : text.toList = [] ++ (Place.first text.toList).rest := rfl
  exact laid.tiles stands shallow further ended all whole rfl

/-- A list of numbers whose pattern has groups of its own, and a field for any text. -/
theorem tiles_of_numbers :
    ∃ (compiled : Schema) (found : Match),
      (compile .standard "Sum {:Number+}, {who}" (.basic ⟨[]⟩)).result = .ok compiled ∧
      (∀ field ∈ compiled.boundFields, skipsBlanks (groupPattern field.type) = false ∧
        hidesGroup (groupPattern field.type) = false) ∧
      compiled.acceptor.find? "SUM 1, 2, Max" = some found ∧
      Tiles found (segments "Sum {:Number+}, {who}") compiled.boundFields 0
        "SUM 1, 2, Max".toList ∧
      ∀ field ∈ compiled.boundFields, looksAround (groupPattern field.type) = false →
        takesWhole true (groupPattern field.type) (captured "SUM 1, 2, Max" found field.group) =
          true := by
  obtain ⟨compiled, success, apart, accepted⟩ : ∃ compiled : Schema,
      (compile .standard "Sum {:Number+}, {who}" (.basic ⟨[]⟩)).result = .ok compiled ∧
      (∀ field ∈ compiled.boundFields, skipsBlanks (groupPattern field.type) = false ∧
        hidesGroup (groupPattern field.type) = false) ∧
      (compiled.acceptor.find? "SUM 1, 2, Max").isSome = true := by
    refine ⟨_, rfl, ?_, ?_⟩
    · decide +kernel
    · decide +kernel
  obtain ⟨found, matches_⟩ := Option.isSome_iff_exists.mp accepted
  exact ⟨compiled, found, success, apart, matches_, tiles_of_match success apart matches_⟩

end TextSchema.Schema
