import TextSchema.Pattern.Search

/-!
# What an exploration finds

`explore` tries every continuation once at each place. The paths of moves are
described here without that memory: `Leads` is a path to the end of a match that
keeps away from barred nodes, `Best` is the path that prefers the first way of
every fork that leads anywhere. An exploration with enough fuel returns the best
path, or nothing if there is no path at all.
-/

set_option autoImplicit false

namespace TextSchema.Pattern

def Place.skip (place : Place) : Nat → Place
  | 0 => place
  | count + 1 => place.next.skip count

/-- A set of nodes: continuations at places. -/
abbrev Nodes := Place → Continuation → Prop

def Nodes.none : Nodes := fun _ _ => False

def Nodes.add (nodes : Nodes) (place : Place) (continuation : Continuation) : Nodes :=
  fun other next => nodes other next ∨ (other = place ∧ next = continuation)

/-- A move from one node to another, with the marks before and after it. -/
inductive Steps : Place → Continuation → Marks → Place → Continuation → Marks → Prop where
  | go {place continuation next marks} :
      Move.ofContinuation place continuation = .go next →
      Steps place continuation marks place next marks
  | mark {place continuation next mark marks} :
      Move.ofContinuation place continuation = .mark mark next →
      Steps place continuation marks place next ((mark, place.index) :: marks)
  | preferred {place continuation preferred other marks} :
      Move.ofContinuation place continuation = .fork preferred other →
      Steps place continuation marks place preferred marks
  | other {place continuation preferred other marks} :
      Move.ofContinuation place continuation = .fork preferred other →
      Steps place continuation marks place other marks
  | eat {place continuation next marks} :
      Move.ofContinuation place continuation = .eat next →
      Steps place continuation marks place.next next marks

/-- A path of moves to the end of a match. None of its nodes is barred. -/
inductive Leads (barred : Nodes) : Place → Continuation → Marks → Ending → Prop where
  | accept {place continuation marks} :
      ¬ barred place continuation →
      Move.ofContinuation place continuation = .accept →
      Leads barred place continuation marks ⟨place.index, marks⟩
  | step {place continuation marks after next later ending} :
      ¬ barred place continuation →
      Steps place continuation marks after next later →
      Leads barred after next later ending →
      Leads barred place continuation marks ending

/-- Some path leads from a node to the end of a match. -/
def Alive (barred : Nodes) (place : Place) (continuation : Continuation) : Prop :=
  ∃ marks ending, Leads barred place continuation marks ending

/-- The path that takes the first way of a fork unless it leads nowhere. A way
that only leads back to the fork leads nowhere. -/
inductive Best : Nodes → Place → Continuation → Marks → Ending → Prop where
  | accept {barred place continuation marks} :
      Move.ofContinuation place continuation = .accept →
      Best barred place continuation marks ⟨place.index, marks⟩
  | go {barred place continuation next marks ending} :
      Move.ofContinuation place continuation = .go next →
      Best (barred.add place continuation) place next marks ending →
      Best barred place continuation marks ending
  | mark {barred place continuation next mark marks ending} :
      Move.ofContinuation place continuation = .mark mark next →
      Best (barred.add place continuation) place next ((mark, place.index) :: marks) ending →
      Best barred place continuation marks ending
  | preferred {barred place continuation preferred other marks ending} :
      Move.ofContinuation place continuation = .fork preferred other →
      Best (barred.add place continuation) place preferred marks ending →
      Best barred place continuation marks ending
  | other {barred place continuation preferred other marks ending} :
      Move.ofContinuation place continuation = .fork preferred other →
      ¬ Alive (barred.add place continuation) place preferred →
      Best (barred.add place continuation) place other marks ending →
      Best barred place continuation marks ending
  | eat {barred place continuation next marks ending} :
      Move.ofContinuation place continuation = .eat next →
      Best (barred.add place continuation) place.next next marks ending →
      Best barred place continuation marks ending

theorem Best.leads {barred : Nodes} {place : Place} {continuation : Continuation} {marks : Marks}
    {ending : Ending} (best : Best barred place continuation marks ending) :
    Leads .none place continuation marks ending := by
  induction best with
  | accept move => exact .accept id move
  | go move _ ih => exact .step id (.go move) ih
  | mark move _ ih => exact .step id (.mark move) ih
  | preferred move _ ih => exact .step id (.preferred move) ih
  | other move _ _ ih => exact .step id (.other move) ih
  | eat move _ ih => exact .step id (.eat move) ih

theorem Steps.remark {place after : Place} {continuation next : Continuation}
    {marks later : Marks} (step : Steps place continuation marks after next later)
    (others : Marks) : ∃ changed, Steps place continuation others after next changed := by
  cases step with
  | go move => exact ⟨_, .go move⟩
  | mark move => exact ⟨_, .mark move⟩
  | preferred move => exact ⟨_, .preferred move⟩
  | other move => exact ⟨_, .other move⟩
  | eat move => exact ⟨_, .eat move⟩

theorem Leads.remark {barred : Nodes} {place : Place} {continuation : Continuation} {marks : Marks}
    {ending : Ending} (path : Leads barred place continuation marks ending) (others : Marks) :
    ∃ changed, Leads barred place continuation others changed := by
  induction path generalizing others with
  | accept free move => exact ⟨_, .accept free move⟩
  | step free step _ ih =>
      obtain ⟨later, moved⟩ := step.remark others
      obtain ⟨changed, rest⟩ := ih later
      exact ⟨changed, .step free moved rest⟩

theorem Leads.mono {barred fewer : Nodes} {place : Place} {continuation : Continuation}
    {marks : Marks} {ending : Ending} (path : Leads barred place continuation marks ending)
    (subset : ∀ other next, fewer other next → barred other next) :
    Leads fewer place continuation marks ending := by
  induction path with
  | accept free move => exact .accept (fun isBarred => free (subset _ _ isBarred)) move
  | step free step _ ih => exact .step (fun isBarred => free (subset _ _ isBarred)) step ih

theorem Leads.not_barred {barred : Nodes} {place : Place} {continuation : Continuation}
    {marks : Marks} {ending : Ending} (path : Leads barred place continuation marks ending) :
    ¬ barred place continuation := by
  cases path <;> assumption

/-- A node that is left for good: it accepts, or a move from it leads on without
coming back to it. -/
def Departs (barred : Nodes) (place : Place) (continuation : Continuation) : Prop :=
  Move.ofContinuation place continuation = .accept ∨
    ∃ marks after next later, Steps place continuation marks after next later ∧
      Alive (barred.add place continuation) after next

/-- A path either keeps away from a node or has a last visit to it. -/
theorem Leads.avoids_or_departs {barred : Nodes} {place : Place} {continuation : Continuation}
    {marks : Marks} {ending : Ending} (path : Leads barred place continuation marks ending)
    (node : Place) (visited : Continuation) :
    Alive (barred.add node visited) place continuation ∨ Departs barred node visited := by
  induction path with
  | @accept place continuation marks free move =>
      by_cases same : place = node ∧ continuation = visited
      · obtain ⟨rfl, rfl⟩ := same
        exact .inr (.inl move)
      · exact .inl ⟨marks, _, .accept (not_or.mpr ⟨free, same⟩) move⟩
  | @step place continuation marks after next later ending free step _ ih =>
      cases ih with
      | inl onwards =>
        by_cases same : place = node ∧ continuation = visited
        · obtain ⟨rfl, rfl⟩ := same
          exact .inr (.inr ⟨marks, after, next, later, step, onwards⟩)
        · obtain ⟨_, _, rest⟩ := onwards
          obtain ⟨changed, rest⟩ := rest.remark later
          exact .inl ⟨marks, changed, .step (not_or.mpr ⟨free, same⟩) step rest⟩
      | inr departs => exact .inr departs

theorem Alive.departs {barred : Nodes} {place : Place} {continuation : Continuation}
    (alive : Alive barred place continuation) : Departs barred place continuation := by
  obtain ⟨_, _, path⟩ := alive
  rcases path.avoids_or_departs place continuation with ⟨_, _, again⟩ | departs
  · exact absurd (.inr ⟨rfl, rfl⟩) again.not_barred
  · exact departs

/-! ## What has been tried -/

def Tried.at (tried : Tried) (distance : Nat) : List Continuation :=
  tried.getD distance []

/-- What has been tried is on the current path or leads nowhere. -/
def Tried.Settled (tried : Tried) (barred : Nodes) (place : Place) : Prop :=
  ∀ distance, ∀ continuation ∈ tried.at distance,
    barred (place.skip distance) continuation ∨ ¬ Alive barred (place.skip distance) continuation

@[simp] theorem Tried.at_cons_zero (here : List Continuation) (later : Tried) :
    Tried.at (here :: later) 0 = here := rfl

@[simp] theorem Tried.at_cons_succ (here : List Continuation) (later : Tried) (distance : Nat) :
    Tried.at (here :: later) (distance + 1) = Tried.at later distance := rfl

theorem Tried.at_zero (tried : Tried) : tried.at 0 = tried.headD [] := by
  cases tried <;> rfl

theorem Tried.at_succ (tried : Tried) (distance : Nat) :
    tried.at (distance + 1) = Tried.at tried.tail distance := by
  cases tried <;> rfl

namespace Tried.Settled

variable {tried : Tried} {barred : Nodes} {place : Place} {continuation : Continuation}

theorem enter (settled : tried.Settled barred place) (continuation : Continuation) :
    Tried.Settled ((continuation :: tried.headD []) :: tried.tail)
      (barred.add place continuation) place := by
  have widen : ∀ other next, barred other next ∨ ¬ Alive barred other next →
      barred.add place continuation other next ∨
        ¬ Alive (barred.add place continuation) other next := by
    intro other next known
    cases known with
    | inl isBarred => exact .inl (.inl isBarred)
    | inr dead =>
      refine .inr fun ⟨marks, ending, path⟩ => dead ⟨marks, ending, path.mono ?_⟩
      exact fun _ _ isBarred => .inl isBarred
  intro distance tested member
  cases distance with
  | zero =>
      cases List.mem_cons.mp member with
      | inl same =>
        subst same
        exact .inl (.inr ⟨rfl, rfl⟩)
      | inr earlier => exact widen _ _ (settled 0 tested (by rwa [Tried.at_zero]))
  | succ distance =>
      exact widen _ _ (settled (distance + 1) tested (by rwa [Tried.at_succ]))

theorem retire (settled : tried.Settled (barred.add place continuation) place)
    (stays : ¬ Departs barred place continuation) : tried.Settled barred place := by
  intro distance tested member
  rcases settled distance tested member with (isBarred | ⟨samePlace, rfl⟩) | dead
  · exact .inl isBarred
  · exact .inr fun alive => stays (samePlace ▸ alive).departs
  · refine .inr fun ⟨_, _, path⟩ => ?_
    cases path.avoids_or_departs place continuation with
    | inl alive => exact dead alive
    | inr departs => exact stays departs

theorem later {here : List Continuation} {later : Tried}
    (settled : Tried.Settled (here :: later) barred place) :
    Tried.Settled later barred place.next :=
  fun distance tested member => settled (distance + 1) tested member

end Tried.Settled

/-! ## Enough fuel -/

def Move.targets : Move → List Continuation
  | .accept | .stuck => []
  | .go next | .mark _ next | .eat next => [next]
  | .fork preferred other => [preferred, other]

/-- Moves from the listed continuations stay in the list. -/
def ClosedUnderMoves (states : List Continuation) : Prop :=
  ∀ place, ∀ continuation ∈ states,
    ∀ next ∈ (Move.ofContinuation place continuation).targets, next ∈ states

def untriedIn (states here : List Continuation) : Nat :=
  (states.filter fun continuation => !here.contains continuation).length

/-- How many of the listed continuations have not been tried at the places of a
text, each place counted on its own. -/
def untried (states : List Continuation) : List Char → Tried → Nat
  | [], tried => untriedIn states (tried.headD [])
  | _ :: rest, tried => untriedIn states (tried.headD []) + untried states rest tried.tail

def Tried.Grows (before after : Tried) : Prop :=
  ∀ distance, before.at distance ⊆ after.at distance

theorem Tried.Grows.trans {first second third : Tried} (one : first.Grows second)
    (two : second.Grows third) : first.Grows third :=
  fun distance _ member => two distance (one distance member)

theorem Tried.Grows.tail {before after : Tried} (grows : before.Grows after) :
    Tried.Grows before.tail after.tail := by
  intro distance
  have later := grows (distance + 1)
  rwa [Tried.at_succ, Tried.at_succ] at later

theorem untriedIn_mono (states : List Continuation) {here more : List Continuation}
    (subset : here ⊆ more) : untriedIn states more ≤ untriedIn states here := by
  rw [untriedIn, untriedIn, ← List.countP_eq_length_filter, ← List.countP_eq_length_filter]
  apply List.countP_mono_left
  intro continuation _ fresh
  simp only [Bool.not_eq_true', List.contains_eq_mem, decide_eq_false_iff_not] at fresh ⊢
  exact fun member => fresh (subset member)

theorem untried_mono (states : List Continuation) (text : List Char) {before after : Tried}
    (grows : before.Grows after) : untried states text after ≤ untried states text before := by
  have here : before.headD [] ⊆ after.headD [] := by
    simpa only [Tried.at_zero] using grows 0
  induction text generalizing before after with
  | nil => exact untriedIn_mono states here
  | cons char rest ih =>
      have later : List.headD before.tail [] ⊆ List.headD after.tail [] := by
        simpa only [Tried.at_zero] using grows.tail 0
      exact Nat.add_le_add (untriedIn_mono states here) (ih grows.tail later)

theorem untriedIn_cons_lt {states here : List Continuation} {continuation : Continuation}
    (member : continuation ∈ states) (fresh : continuation ∉ here) :
    untriedIn states (continuation :: here) < untriedIn states here := by
  have split : states.filter (fun other => !(continuation :: here).contains other) =
      (states.filter fun other => !here.contains other).filter (· != continuation) := by
    rw [List.filter_filter]
    apply List.filter_congr
    intro other _
    by_cases same : other = continuation <;> simp [same]
  rw [untriedIn, untriedIn, split]
  refine List.length_filter_lt_length_iff_exists.mpr ⟨continuation, ?_, by simp⟩
  simpa [List.mem_filter] using ⟨member, fresh⟩

theorem untried_enter_lt {states : List Continuation} {continuation : Continuation}
    {tried : Tried} (text : List Char) (member : continuation ∈ states)
    (fresh : continuation ∉ tried.headD []) :
    untried states text ((continuation :: tried.headD []) :: tried.tail) <
      untried states text tried := by
  cases text with
  | nil => exact untriedIn_cons_lt member fresh
  | cons char rest => exact Nat.add_lt_add_right (untriedIn_cons_lt member fresh) _

theorem explore_grows (fuel : Nat) (place : Place) (continuation : Continuation) (marks : Marks)
    (tried : Tried) : tried.Grows (explore fuel place continuation marks tried).2 := by
  induction fuel generalizing place continuation marks tried with
  | zero => exact fun _ _ member => member
  | succ fuel ih =>
      have enter : tried.Grows ((continuation :: tried.headD []) :: tried.tail) := by
        intro distance tested member
        cases distance with
        | zero => exact List.mem_cons_of_mem _ (by rwa [Tried.at_zero] at member)
        | succ distance => rwa [Tried.at_succ] at member
      simp only [explore]
      split
      · exact fun _ _ member => member
      · split
        · exact enter
        · exact enter
        · exact enter.trans (ih _ _ _ _)
        · exact enter.trans (ih _ _ _ _)
        · next preferred other _ =>
            have first := ih place preferred marks ((continuation :: tried.headD []) :: tried.tail)
            split
            · next ending after outcome => exact enter.trans (by rwa [outcome] at first)
            · next after outcome =>
                rw [outcome] at first
                exact (enter.trans first).trans (ih _ _ _ _)
        · next following _ =>
            intro distance tested member
            have inside := enter distance member
            cases distance with
            | zero => exact inside
            | succ distance => exact ih place.next following marks tried.tail distance inside

theorem Move.passOrLeave_eq (greedy : Bool) (pass leave : Continuation) :
    Move.passOrLeave greedy pass leave =
      .fork (if greedy then pass else leave) (if greedy then leave else pass) := by
  cases greedy <;> rfl

theorem rest_of_eat {place : Place} {continuation next : Continuation}
    (move : Move.ofContinuation place continuation = .eat next) :
    ∃ char text, place.rest = char :: text := by
  cases rest : place.rest with
  | cons char text => exact ⟨char, text, rfl⟩
  | nil =>
      exfalso
      rcases continuation with _ | ⟨_ | _ | _ | _, following⟩
      case cons.run expr =>
        cases expr with
        | repeated least most greedy body =>
            rcases least with _ | _ | least <;> rcases most with _ | _ | most <;>
              simp [Move.ofContinuation, Move.ofExpr, Move.ofRepeated, Move.passOrLeave_eq] at move
        | look look =>
            simp only [Move.ofContinuation, Move.ofExpr] at move
            split at move <;> exact Move.noConfusion move
        | _ => simp [Move.ofContinuation, Move.ofExpr, rest] at move
      all_goals simp [Move.ofContinuation, Move.passOrLeave_eq] at move

/-- What an exploration may return: the best path, or that there is none and
that everything tried is settled. -/
def Explored (barred : Nodes) (place : Place) (continuation : Continuation) (marks : Marks) :
    Option Ending × Tried → Prop
  | (some ending, _) => Best barred place continuation marks ending
  | (none, tried) =>
      tried.Settled barred place ∧ (barred place continuation ∨ ¬ Alive barred place continuation)

namespace Explored

variable {barred : Nodes} {place : Place} {continuation : Continuation} {marks : Marks}

private theorem dead_of_none {outcome : Option Ending × Tried} {after : Tried}
    (explored : Explored barred place continuation marks outcome)
    (nothing : outcome = (none, after)) : ¬ Alive barred place continuation := by
  subst nothing
  cases explored.2 with
  | inl isBarred => exact fun ⟨_, _, path⟩ => path.not_barred isBarred
  | inr dead => exact dead

private theorem of_dead {tried : Tried}
    (settled : tried.Settled (barred.add place continuation) place)
    (goesOn : Move.ofContinuation place continuation ≠ .accept)
    (dead : ∀ marks after next later, Steps place continuation marks after next later →
      ¬ Alive (barred.add place continuation) after next) :
    Explored barred place continuation marks (none, tried) := by
  have stays : ¬ Departs barred place continuation := by
    intro given
    rcases given with accepts | ⟨_, _, _, _, step, alive⟩
    · exact goesOn accepts
    · exact dead _ _ _ _ step alive
  exact ⟨settled.retire stays, .inr fun alive => stays alive.departs⟩

private theorem of_go {next : Continuation} {outcome : Option Ending × Tried}
    (move : Move.ofContinuation place continuation = .go next)
    (explored : Explored (barred.add place continuation) place next marks outcome) :
    Explored barred place continuation marks outcome := by
  rcases outcome with ⟨_ | ending, tried⟩
  · apply of_dead explored.1 (by simp [move])
    intro _ _ _ _ step
    cases step <;> simp_all only [Move.go.injEq, reduceCtorEq]
    exact explored.dead_of_none rfl
  · exact .go move explored

private theorem of_mark {mark : Mark} {next : Continuation} {outcome : Option Ending × Tried}
    (move : Move.ofContinuation place continuation = .mark mark next)
    (explored : Explored (barred.add place continuation) place next
      ((mark, place.index) :: marks) outcome) :
    Explored barred place continuation marks outcome := by
  rcases outcome with ⟨_ | ending, tried⟩
  · apply of_dead explored.1 (by simp [move])
    intro _ _ _ _ step
    cases step <;> simp_all only [Move.mark.injEq, reduceCtorEq]
    exact explored.dead_of_none rfl
  · exact .mark move explored

private theorem of_other {preferred other : Continuation} {outcome : Option Ending × Tried}
    (move : Move.ofContinuation place continuation = .fork preferred other)
    (dead : ¬ Alive (barred.add place continuation) place preferred)
    (explored : Explored (barred.add place continuation) place other marks outcome) :
    Explored barred place continuation marks outcome := by
  rcases outcome with ⟨_ | ending, tried⟩
  · apply of_dead explored.1 (by simp [move])
    intro _ _ _ _ step
    cases step <;> simp_all only [Move.fork.injEq, reduceCtorEq, not_false_eq_true]
    exact explored.dead_of_none rfl
  · exact .other move dead explored

private theorem of_eat {next : Continuation} {here : List Continuation}
    {outcome : Option Ending × Tried}
    (move : Move.ofContinuation place continuation = .eat next)
    (settled : ∀ tested ∈ here, barred.add place continuation place tested ∨
      ¬ Alive (barred.add place continuation) place tested)
    (explored : Explored (barred.add place continuation) place.next next marks outcome) :
    Explored barred place continuation marks (outcome.1, here :: outcome.2) := by
  rcases outcome with ⟨_ | ending, tried⟩
  · have around : Tried.Settled (here :: tried) (barred.add place continuation) place := by
      intro distance tested member
      cases distance with
      | zero => exact settled tested member
      | succ distance => exact explored.1 distance tested member
    apply of_dead around (by simp [move])
    intro _ _ _ _ step
    cases step <;> simp_all only [Move.eat.injEq, reduceCtorEq]
    exact explored.dead_of_none rfl
  · exact .eat move explored

end Explored

/-- With more fuel than there are continuations left to try, an exploration
returns the best path, or nothing if no path keeps away from the barred nodes. -/
theorem explore_explored {states : List Continuation} (closed : ClosedUnderMoves states)
    {fuel : Nat} {place : Place} {continuation : Continuation} {marks : Marks} {tried : Tried}
    {barred : Nodes} (member : continuation ∈ states)
    (enough : untried states place.rest tried < fuel) (settled : tried.Settled barred place) :
    Explored barred place continuation marks (explore fuel place continuation marks tried) := by
  induction fuel generalizing place continuation marks tried barred with
  | zero => exact absurd enough (Nat.not_lt_zero _)
  | succ fuel ih =>
      simp only [explore]
      split
      next present =>
        refine ⟨settled, settled 0 continuation ?_⟩
        rw [Tried.at_zero]
        simpa using present
      next absent =>
        have fresh : continuation ∉ tried.headD [] := by simpa using absent
        have fewer := untried_enter_lt place.rest member fresh
        have entered := settled.enter continuation
        have targets := closed place continuation member
        cases move : Move.ofContinuation place continuation with
        | accept => exact .accept move
        | stuck =>
            apply Explored.of_dead entered (by simp [move])
            intro _ _ _ _ step
            cases step <;> simp_all only [reduceCtorEq]
        | go next =>
            rw [move] at targets
            exact .of_go move (ih (targets next (by simp [Move.targets])) (by omega) entered)
        | mark mark next =>
            rw [move] at targets
            exact .of_mark move (ih (targets next (by simp [Move.targets])) (by omega) entered)
        | fork preferred other =>
            rw [move] at targets
            have first : Explored (barred.add place continuation) place preferred marks
                (explore fuel place preferred marks
                  ((continuation :: tried.headD []) :: tried.tail)) :=
              ih (targets preferred (by simp [Move.targets])) (by omega) entered
            dsimp only
            cases outcome : explore fuel place preferred marks
                ((continuation :: tried.headD []) :: tried.tail) with
            | mk result after =>
                rw [outcome] at first
                cases result with
                | some ending => exact .preferred move first
                | none =>
                    have grows := explore_grows fuel place preferred marks
                      ((continuation :: tried.headD []) :: tried.tail)
                    rw [outcome] at grows
                    have left : untried states place.rest after ≤ _ :=
                      untried_mono states place.rest grows
                    exact .of_other move (first.dead_of_none rfl)
                      (ih (targets other (by simp [Move.targets])) (by omega) first.1)
        | eat next =>
            rw [move] at targets
            obtain ⟨char, text, rest⟩ := rest_of_eat move
            have after : place.next.rest = text := by simp [Place.next, rest]
            have left : untried states place.next.rest tried.tail < fuel := by
              rw [rest] at fewer enough
              simp only [untried, List.tail_cons] at fewer enough
              rw [after]
              omega
            exact .of_eat move (fun tested here => entered 0 tested here)
              (ih (targets next (by simp [Move.targets])) left entered.later)

end TextSchema.Pattern
