import TextSchema.Proofs.Pattern.WholeText

/-!
# The alternative that is chosen

A search through alternatives chooses the first one that leads to a match. The
nodes met on the way to a fork end in frames that no path beyond it has, so they
bar no path of an alternative.
-/

set_option autoImplicit false

namespace TextSchema.Pattern

def Frame.isPlain : Frame → Bool
  | .run (.look _) | .close _ | .merge _ => true
  | _ => false

/-- No barred node ends like the continuation or is an end of it. -/
def Nodes.Apart (barred : Nodes) (next : Continuation) : Prop :=
  ∀ place node, barred place node → ¬ node <:+ next ∧ ¬ next <:+ node

namespace Nodes.Apart

variable {barred : Nodes} {next : Continuation}

theorem clearBefore (apart : barred.Apart next) : barred.ClearBefore next :=
  fun place extra _ isBarred => (apart place _ isBarred).2 (List.suffix_append extra next)

theorem cons (apart : barred.Apart next) (frame : Frame) : barred.Apart (frame :: next) := by
  intro place node isBarred
  obtain ⟨notEnd, notLonger⟩ := apart place node isBarred
  refine ⟨fun ending => ?_, fun longer => notLonger ((List.suffix_cons frame next).trans longer)⟩
  cases List.suffix_cons_iff.mp ending with
  | inl same =>
    subst same
    exact notLonger (List.suffix_cons frame next)
  | inr shorter => exact notEnd shorter

private theorem not_suffix_of_ne {one two : Frame} (different : one ≠ two) :
    ¬ one :: next <:+ two :: next := by
  intro ending
  cases List.suffix_cons_iff.mp ending with
  | inl same => exact different (List.cons.inj same).1
  | inr shorter =>
    have longer := shorter.length_le
    rw [List.length_cons] at longer
    omega

theorem add (apart : barred.Apart next) (place : Place) {other frame : Frame}
    (different : other ≠ frame) : (barred.add place (other :: next)).Apart (frame :: next) := by
  intro otherPlace node given
  rcases given with isBarred | ⟨rfl, rfl⟩
  · exact apart.cons frame otherPlace node isBarred
  · exact ⟨not_suffix_of_ne different, not_suffix_of_ne different.symm⟩

end Nodes.Apart

theorem leads_of_plain {barred : Nodes} {next : Continuation} (plain : next.all Frame.isPlain = true)
    (free : ∀ place node, node <:+ next → ¬ barred place node) {place stop : Place} {left : Marks}
    (takes : Continuation.Takes next place left stop) (before : Marks) :
    ∃ ending, Leads barred place next before ending := by
  induction next generalizing place left before with
  | nil => exact ⟨_, .accept (free place [] (List.suffix_refl _)) rfl⟩
  | cons frame rest ih =>
      obtain ⟨middle, first, later, here, tail, rfl⟩ := takes
      obtain ⟨plainFrame, plainRest⟩ : frame.isPlain = true ∧ rest.all Frame.isPlain = true := by
        simpa using plain
      have freeRest : ∀ place node, node <:+ rest → ¬ barred place node :=
        fun place node ending => free place node (ending.trans (List.suffix_cons frame rest))
      have onward := fun before => ih plainRest freeRest tail before
      have freeHere := free place (frame :: rest) (List.suffix_refl _)
      cases frame with
      | run expr =>
          cases expr with
          | look condition =>
              obtain ⟨holds, rfl, rfl⟩ := here
              obtain ⟨ending, path⟩ := onward before
              refine ⟨ending, .step freeHere (.go ?_) path⟩
              exact if_pos holds
          | _ => cases plainFrame
      | close index =>
          obtain ⟨rfl, rfl⟩ := here
          obtain ⟨ending, path⟩ := onward ((.closed index, middle.index) :: before)
          exact ⟨ending, .step freeHere (.mark rfl) path⟩
      | again greedy body => cases plainFrame
      | merge second =>
          obtain ⟨rfl, rfl⟩ := here
          obtain ⟨ending, path⟩ := onward before
          exact ⟨ending, .step freeHere (.go rfl) path⟩

theorem takes_merge {expr : Expr} {second : Bool} {next : Continuation} {place stop : Place}
    {left : Marks} :
    Continuation.Takes (.run expr :: .merge second :: next) place left stop ↔
      Continuation.Takes (.run expr :: next) place left stop := by
  constructor
  · intro given
    obtain ⟨middle, first, _, here, ⟨_, _, later, ⟨rfl, rfl⟩, tail, rfl⟩, rfl⟩ := given
    exact ⟨_, first, later, here, tail, by simp⟩
  · intro given
    obtain ⟨middle, first, later, here, tail, rfl⟩ := given
    exact ⟨middle, first, later ++ [], here, ⟨_, [], later, ⟨rfl, rfl⟩, tail, rfl⟩, by simp⟩

section

variable {barred : Nodes} {place : Place} {continuation next : Continuation} {marks : Marks}
  {ending : Ending}

theorem Best.of_go (best : Best barred place continuation marks ending)
    (move : Move.ofContinuation place continuation = .go next) :
    Best (barred.add place continuation) place next marks ending := by
  cases best <;> simp_all

theorem Best.of_fork {preferred other : Continuation}
    (best : Best barred place continuation marks ending)
    (move : Move.ofContinuation place continuation = .fork preferred other) :
    Best (barred.add place continuation) place preferred marks ending ∨
      (¬ Alive (barred.add place continuation) place preferred ∧
        Best (barred.add place continuation) place other marks ending) := by
  cases best <;> simp_all

theorem Expr.Takes.alive {expr : Expr} {middle stop : Place} {first left : Marks}
    (takes : expr.Takes place first middle) (plain : next.all Frame.isPlain = true)
    (apart : barred.Apart next) (tail : Continuation.Takes next middle left stop) :
    Alive barred place (.run expr :: next) := by
  have free : ∀ place node, node <:+ next → ¬ barred place node :=
    fun place node ending isBarred => (apart place node isBarred).1 ending
  obtain ⟨ending, path⟩ := leads_of_plain plain free tail (first ++ [])
  exact ⟨[], ending, takes.leads apart.clearBefore path⟩

/-- Of the alternatives, the first is chosen that goes on to the end of a match. -/
theorem Best.of_alternation {branches : List Expr} (some_ : branches ≠ [])
    (plain : next.all Frame.isPlain = true) (apart : barred.Apart next)
    (best : Best barred place (.run (.alternation branches) :: next) marks ending) :
    ∃ before branch after, branches = before ++ branch :: after ∧
      (∀ other ∈ before, ∀ left stop, ¬ Continuation.Takes (.run other :: next) place left stop) ∧
      ∃ left stop, Continuation.Takes (.run branch :: next) place left stop ∧
        ending = ⟨stop.index, left ++ marks⟩ := by
  induction branches generalizing barred next with
  | nil => exact absurd rfl some_
  | cons branch rest ih =>
      cases rest with
      | nil =>
          obtain ⟨left, stop, takes, rfl⟩ := best.leads.takes
          exact ⟨[], branch, [], rfl, List.forall_mem_nil _, left, stop, takes, rfl⟩
      | cons second tail =>
          have apartMerge : ∀ taken,
              (barred.add place (.run (.alternation (branch :: second :: tail)) :: next)).Apart
                (.merge taken :: next) := fun taken => apart.add place Frame.noConfusion
          have plainMerge : (Frame.merge true :: next).all Frame.isPlain = true := plain
          rcases best.of_fork rfl with preferred | ⟨dead, other⟩
          · obtain ⟨left, stop, takes, rfl⟩ := preferred.leads.takes
            exact ⟨[], branch, second :: tail, rfl, List.forall_mem_nil _, left, stop,
              takes_merge.mp takes, rfl⟩
          · obtain ⟨before, chosen, after, same, none, left, stop, takes, rfl⟩ :=
              ih (by simp) plainMerge (apartMerge true) other
            refine ⟨branch :: before, chosen, after, by rw [same]; rfl, ?_, left, stop,
              takes_merge.mp takes, rfl⟩
            intro skipped given left stop takesSkipped
            rcases given with _ | ⟨_, member⟩
            · obtain ⟨middle, first, later, here, rest, rfl⟩ := takes_merge.mpr takesSkipped
              exact dead (here.alive plain (apartMerge false) rest)
            · exact none skipped member left stop (takes_merge.mpr takesSkipped)

end

/-! ## Alternatives between anchors -/

namespace Expr

theorem takes_alternation_of_mem {branches : List Expr} {branch : Expr} {start stop : Place}
    {marks : Marks} (member : branch ∈ branches) (takes : branch.Takes start marks stop) :
    (alternation branches).Takes start marks stop := by
  induction branches with
  | nil => cases member
  | cons first rest ih =>
      cases rest with
      | nil =>
          rw [List.mem_singleton] at member
          exact member ▸ takes
      | cons second tail =>
          cases List.mem_cons.mp member with
          | inl same =>
            subst same
            exact .inl takes
          | inr later => exact .inr (ih later)

theorem anchored_eq {body : Expr} (single : body.items = [body]) :
    body.anchored = .cat (.look .textStart) (.cat body (.look .textEnd)) := by
  cases body with
  | empty => cases single
  | cat first rest =>
      have size := congrArg sizeOf (List.cons.inj single).1
      simp only [cat.sizeOf_spec] at size
      omega
  | _ => rfl

theorem best_of_search_anchored {body : Expr} {text : List Char} {found : Match}
    (single : body.items = [body]) (success : body.anchored.search text = some found) :
    ∃ barred : Nodes, barred.Apart [.run (.look .textEnd)] ∧
      Best barred (.first text) [.run body, .run (.look .textEnd)] [] ⟨found.stop, found.marks⟩ := by
  rw [search_anchored, anchored_eq single] at success
  have best := (best_of_matchAt success).2
  have atStart : Move.ofContinuation (.first text)
      [.run (.look .textStart), .run (.cat body (.look .textEnd))] =
        .go [.run (.cat body (.look .textEnd))] := by
    simp [Move.ofContinuation, Move.ofExpr, Look.holds, Place.first]
  have inside := ((best.of_go rfl).of_go atStart).of_go rfl
  refine ⟨_, ?_, inside⟩
  intro place node given
  rcases given with ((nothing | ⟨_, rfl⟩) | ⟨_, rfl⟩) | ⟨_, rfl⟩
  · exact nothing.elim
  · simp [List.suffix_cons_iff]
  · simp [List.suffix_cons_iff]
  · simp [List.suffix_cons_iff]

theorem takes_before_textEnd {expr : Expr} {place : Place} {marks : Marks} :
    (∃ stop, Continuation.Takes [.run expr, .run (.look .textEnd)] place marks stop) ↔
      ∃ stop, expr.Takes place marks stop ∧ stop.rest = [] := by
  constructor
  · intro given
    obtain ⟨_, middle, first, _, here, ⟨_, _, _, ⟨atEnd, rfl, rfl⟩, ⟨rfl, rfl⟩, rfl⟩, rfl⟩ := given
    exact ⟨_, here, by simpa [Look.holds] using atEnd⟩
  · intro given
    obtain ⟨stop, here, atEnd⟩ := given
    have ended : Continuation.Takes [.run (.look .textEnd)] stop [] stop :=
      ⟨stop, [], [], ⟨by simp [Look.holds, atEnd], rfl, rfl⟩, ⟨rfl, rfl⟩, rfl⟩
    exact ⟨stop, stop, marks, [], here, ended, rfl⟩

/-- Between anchors, the first alternative is chosen that takes the whole text. -/
theorem takesAll_of_search_alternation {branches : List Expr} {text : List Char} {found : Match}
    (some_ : branches ≠ []) (single : (alternation branches).items = [alternation branches])
    (success : (alternation branches).anchored.search text = some found) :
    ∃ before branch after, branches = before ++ branch :: after ∧
      (∀ other ∈ before, ∀ marks, ¬ other.TakesAll text marks) ∧
      branch.TakesAll text found.marks := by
  obtain ⟨barred, apart, best⟩ := best_of_search_anchored single success
  obtain ⟨before, branch, after, same, none, left, stop, takes, ending⟩ :=
    best.of_alternation some_ rfl apart
  have marks : found.marks = left := by simpa using congrArg Ending.marks ending
  refine ⟨before, branch, after, same, ?_, marks ▸ takes_before_textEnd.mp ⟨stop, takes⟩⟩
  intro other member marks takesAll
  obtain ⟨stop, takes⟩ := takes_before_textEnd.mpr takesAll
  exact none other member marks stop takes

end Expr

end TextSchema.Pattern
