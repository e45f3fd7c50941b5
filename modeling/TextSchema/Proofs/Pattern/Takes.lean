import TextSchema.Proofs.Pattern.Fuel

/-!
# What expressions take

`Expr.Takes` says by the structure of an expression from which place to which
place it gets and which marks it leaves, without a search and without a
preference. Paths of the search are exactly what continuations take.
-/

set_option autoImplicit false

namespace TextSchema.Pattern

/-- Passes through the body of a repetition. The counts go down with each pass,
and passes that are owed come before the question whether more are allowed. -/
inductive Passes (pass : Place → Marks → Place → Prop) :
    Nat → Option Nat → Place → Marks → Place → Prop where
  | done {most place} : Passes pass 0 most place [] place
  | more {least most start middle stop first later} :
      least ≠ 0 ∨ most ≠ some 0 → pass start first middle →
      Passes pass (least - 1) (most.map (· - 1)) middle later stop →
      Passes pass least most start (later ++ first) stop

/-- From the first place the expression can get to the second with these marks. -/
def Expr.Takes : Expr → Place → Marks → Place → Prop
  | .empty, start, marks, stop => marks = [] ∧ stop = start
  | .set chars, start, marks, stop =>
      (∃ char text, start.rest = char :: text ∧ chars.mem char = true) ∧
        marks = [] ∧ stop = start.next
  | .look condition, start, marks, stop =>
      condition.holds start.before start.rest.head? = true ∧ marks = [] ∧ stop = start
  | .group index body, start, marks, stop =>
      ∃ inner, body.Takes start inner stop ∧
        marks = (.closed index, stop.index) :: (inner ++ [(.opened index, start.index)])
  | .repeated least most _ body, start, marks, stop =>
      Passes body.Takes least most start marks stop
  | .cat left right, start, marks, stop =>
      ∃ middle first later, left.Takes start first middle ∧ right.Takes middle later stop ∧
        marks = later ++ first
  | .alt left right, start, marks, stop =>
      left.Takes start marks stop ∨ right.Takes start marks stop

def Frame.Takes : Frame → Place → Marks → Place → Prop
  | .run expr, start, marks, stop => expr.Takes start marks stop
  | .close index, start, marks, stop => marks = [(.closed index, start.index)] ∧ stop = start
  | .again _ body, start, marks, stop => Passes body.Takes 0 none start marks stop
  | .merge _, start, marks, stop => marks = [] ∧ stop = start

def Continuation.Takes : Continuation → Place → Marks → Place → Prop
  | [], start, marks, stop => marks = [] ∧ stop = start
  | frame :: next, start, marks, stop =>
      ∃ middle first later, frame.Takes start first middle ∧
        Continuation.Takes next middle later stop ∧ marks = later ++ first

theorem Continuation.Takes.cons {frame : Frame} {next : Continuation} {start middle stop : Place}
    {first later : Marks} (here : frame.Takes start first middle)
    (rest : Continuation.Takes next middle later stop) :
    Continuation.Takes (frame :: next) start (later ++ first) stop :=
  ⟨middle, first, later, here, rest, rfl⟩

theorem Frame.takes_afterPass {greedy : Bool} {body : Expr} {least : Nat} {most : Option Nat}
    {start stop : Place} {marks : Marks} :
    (afterPass greedy body least most).Takes start marks stop ↔
      Passes body.Takes (least - 1) (most.map (· - 1)) start marks stop := by
  unfold afterPass
  split
  · split <;> exact Iff.rfl
  all_goals exact Iff.rfl

/-! ## From paths to structure -/

theorem steps_iff {place after : Place} {continuation next : Continuation} {marks later : Marks} :
    Steps place continuation marks after next later ↔
      match Move.ofContinuation place continuation with
      | .accept | .stuck => False
      | .go only => after = place ∧ next = only ∧ later = marks
      | .mark mark only => after = place ∧ next = only ∧ later = (mark, place.index) :: marks
      | .fork preferred other =>
          after = place ∧ (next = preferred ∨ next = other) ∧ later = marks
      | .eat only => after = place.next ∧ next = only ∧ later = marks := by
  constructor
  · intro step
    cases step with
    | go move => simp [move]
    | mark move => simp [move]
    | preferred move => simp [move]
    | other move => simp [move]
    | eat move => simp [move]
  · intro moved
    cases move : Move.ofContinuation place continuation with
    | accept => simp [move] at moved
    | stuck => simp [move] at moved
    | go only =>
        obtain ⟨rfl, rfl, rfl⟩ : _ ∧ _ ∧ _ := by simpa [move] using moved
        exact .go move
    | mark mark only =>
        obtain ⟨rfl, rfl, rfl⟩ : _ ∧ _ ∧ _ := by simpa [move] using moved
        exact .mark move
    | fork preferred other =>
        obtain ⟨rfl, rfl | rfl, rfl⟩ : _ ∧ (_ ∨ _) ∧ _ := by simpa [move] using moved
        · exact .preferred move
        · exact .other move
    | eat only =>
        obtain ⟨rfl, rfl, rfl⟩ : _ ∧ _ ∧ _ := by simpa [move] using moved
        exact .eat move

theorem Steps.takes_repeated {place after stop : Place} {least : Nat} {most : Option Nat}
    {greedy : Bool} {body : Expr} {following next : Continuation} {marks later left : Marks}
    (step : Steps place (.run (.repeated least most greedy body) :: following) marks
      after next later)
    (rest : Continuation.Takes next after left stop) :
    ∃ all, Continuation.Takes (.run (.repeated least most greedy body) :: following)
      place all stop ∧ all ++ marks = left ++ later := by
  rw [steps_iff] at step
  by_cases owed : least ≠ 0
  · rw [Move.repeated_owed owed] at step
    obtain ⟨rfl, rfl, rfl⟩ := step
    obtain ⟨middle, first, _, pass, ⟨last, second, third, passes, tail, rfl⟩, rfl⟩ := rest
    rw [Frame.takes_afterPass] at passes
    exact ⟨third ++ (second ++ first), .cons (.more (.inl owed) pass passes) tail,
      by simp⟩
  obtain rfl : least = 0 := Decidable.not_not.mp owed
  by_cases spent : most = some 0
  · subst spent
    rw [Move.repeated_over] at step
    obtain ⟨rfl, rfl, rfl⟩ := step
    exact ⟨left ++ [], .cons .done rest, by simp⟩
  · rw [Move.repeated_allowed spent, Move.passOrLeave_eq] at step
    obtain ⟨rfl, which, rfl⟩ := step
    have which : next = .run body :: afterPass greedy body 0 most :: following ∨
        next = following := by
      cases greedy <;> simpa [or_comm] using which
    cases which with
    | inl same =>
      subst same
      obtain ⟨middle, first, _, pass, ⟨last, second, third, passes, tail, rfl⟩, rfl⟩ :=
        rest
      rw [Frame.takes_afterPass] at passes
      exact ⟨third ++ (second ++ first), .cons (.more (.inr spent) pass passes) tail,
        by simp⟩
    | inr same =>
      subst same
      exact ⟨left ++ [], .cons .done rest, by simp⟩

/-- What is taken after a move is taken with it. -/
theorem Steps.takes {place after stop : Place} {continuation next : Continuation}
    {marks later left : Marks} (step : Steps place continuation marks after next later)
    (rest : Continuation.Takes next after left stop) :
    ∃ all, Continuation.Takes continuation place all stop ∧ all ++ marks = left ++ later := by
  rw [steps_iff] at step
  rcases continuation with _ | ⟨frame, following⟩
  · exact step.elim
  cases frame with
  | close index =>
      obtain ⟨rfl, rfl, rfl⟩ := step
      exact ⟨left ++ [_], .cons ⟨rfl, rfl⟩ rest, by simp⟩
  | merge second =>
      obtain ⟨rfl, rfl, rfl⟩ := step
      exact ⟨left ++ [], .cons ⟨rfl, rfl⟩ rest, by simp⟩
  | again greedy body =>
      rw [Move.ofContinuation, Move.passOrLeave_eq] at step
      obtain ⟨rfl, which, rfl⟩ := step
      have which : next = .run body :: .again greedy body :: following ∨ next = following := by
        cases greedy <;> simpa [or_comm] using which
      cases which with
      | inl same =>
        subst same
        obtain ⟨middle, first, _, pass, ⟨last, second, third, passes, tail, rfl⟩, rfl⟩ := rest
        exact ⟨third ++ (second ++ first), .cons (.more (.inr (by simp)) pass passes) tail,
          by simp⟩
      | inr same =>
        subst same
        exact ⟨left ++ [], .cons .done rest, by simp⟩
  | run expr =>
      cases expr with
      | empty =>
          obtain ⟨rfl, rfl, rfl⟩ := step
          exact ⟨left ++ [], .cons ⟨rfl, rfl⟩ rest, by simp⟩
      | set chars =>
          simp only [Move.ofContinuation, Move.ofExpr] at step
          cases text : place.rest with
          | nil => simp [text] at step
          | cons char tail =>
              by_cases member : chars.mem char = true
              · simp only [text, member, if_true] at step
                obtain ⟨rfl, rfl, rfl⟩ := step
                exact ⟨left ++ [], .cons ⟨⟨char, tail, text, member⟩, rfl, rfl⟩ rest, by simp⟩
              · simp [text, member] at step
      | look condition =>
          simp only [Move.ofContinuation, Move.ofExpr] at step
          by_cases holds : condition.holds place.before place.rest.head? = true
          · simp only [holds, if_true] at step
            obtain ⟨rfl, rfl, rfl⟩ := step
            exact ⟨left ++ [], .cons ⟨holds, rfl, rfl⟩ rest, by simp⟩
          · simp [holds] at step
      | group index body =>
          obtain ⟨rfl, rfl, rfl⟩ := step
          obtain ⟨middle, inner, _, inside, ⟨last, _, third, ⟨rfl, rfl⟩, tail, rfl⟩, rfl⟩ := rest
          exact ⟨third ++ _, .cons ⟨inner, inside, rfl⟩ tail, by simp⟩
      | repeated least most greedy body =>
          exact Steps.takes_repeated (steps_iff.mpr step) rest
      | cat first second =>
          obtain ⟨rfl, rfl, rfl⟩ := step
          obtain ⟨middle, one, _, here, ⟨last, two, third, there, tail, rfl⟩, rfl⟩ := rest
          exact ⟨third ++ (two ++ one), .cons ⟨middle, one, two, here, there, rfl⟩ tail, by simp⟩
      | alt first second =>
          obtain ⟨rfl, which, rfl⟩ := step
          cases which with
          | inl same =>
            subst same
            obtain ⟨middle, one, _, here, ⟨last, _, third, ⟨rfl, rfl⟩, tail, rfl⟩, rfl⟩ := rest
            exact ⟨third ++ one, .cons (.inl here) tail, by simp⟩
          | inr same =>
            subst same
            obtain ⟨middle, one, _, here, ⟨last, _, third, ⟨rfl, rfl⟩, tail, rfl⟩, rfl⟩ := rest
            exact ⟨third ++ one, .cons (.inr here) tail, by simp⟩

theorem eq_nil_of_accept {place : Place} {continuation : Continuation}
    (accepts : Move.ofContinuation place continuation = .accept) : continuation = [] := by
  rcases continuation with _ | ⟨frame, next⟩
  · rfl
  exfalso
  cases frame with
  | run expr =>
      cases expr with
      | set chars =>
          simp only [Move.ofContinuation, Move.ofExpr] at accepts
          split at accepts
          · cases accepts
          · split at accepts <;> cases accepts
      | look condition =>
          simp only [Move.ofContinuation, Move.ofExpr] at accepts
          split at accepts <;> cases accepts
      | repeated least most greedy body =>
          rw [Move.ofContinuation, Move.ofExpr, Move.ofRepeated_eq, Move.passOrLeave_eq] at accepts
          split at accepts
          · cases accepts
          · split at accepts <;> cases accepts
      | _ => cases accepts
  | again greedy body =>
      rw [Move.ofContinuation, Move.passOrLeave_eq] at accepts
      cases accepts
  | _ => cases accepts

/-- A path takes what its continuation takes. -/
theorem Leads.takes {barred : Nodes} {place : Place} {continuation : Continuation} {marks : Marks}
    {ending : Ending} (path : Leads barred place continuation marks ending) :
    ∃ left stop, Continuation.Takes continuation place left stop ∧
      ending = ⟨stop.index, left ++ marks⟩ := by
  induction path with
  | @accept place continuation marks free move =>
      obtain rfl := eq_nil_of_accept move
      exact ⟨[], place, ⟨rfl, rfl⟩, rfl⟩
  | @step place continuation marks after next later ending free step _ ih =>
      obtain ⟨left, stop, taken, rfl⟩ := ih
      obtain ⟨all, takes, same⟩ := step.takes taken
      exact ⟨all, stop, takes, by rw [same]⟩

/-! ## From structure to paths -/

/-- No barred node has anything before the continuation. Paths through an
expression that come to the continuation then keep away from barred nodes. -/
def Nodes.ClearBefore (barred : Nodes) (next : Continuation) : Prop :=
  ∀ place extra, extra ≠ [] → ¬ barred place (extra ++ next)

theorem Nodes.clearBefore_none (next : Continuation) : Nodes.none.ClearBefore next :=
  fun _ _ _ => id

namespace Nodes.ClearBefore

variable {barred : Nodes} {next : Continuation}

theorem not_barred (clear : barred.ClearBefore next) (place : Place) (frame : Frame) :
    ¬ barred place (frame :: next) :=
  clear place [frame] (by simp)

theorem cons (clear : barred.ClearBefore next) (frame : Frame) :
    barred.ClearBefore (frame :: next) := by
  intro place extra _
  have longer := clear place (extra ++ [frame]) (by simp)
  simpa using longer

end Nodes.ClearBefore

section Paths

variable {barred : Nodes} {ending : Ending} {before : Marks}

private theorem leads_of_pass_or_leave {place : Place} {greedy : Bool}
    {continuation pass leave target : Continuation} {marks : Marks}
    (free : ¬ barred place continuation)
    (move : Move.ofContinuation place continuation = .passOrLeave greedy pass leave)
    (which : target = pass ∨ target = leave) (rest : Leads barred place target marks ending) :
    Leads barred place continuation marks ending := by
  refine .step free (steps_iff.mpr ?_) rest
  rw [move, Move.passOrLeave_eq]
  refine ⟨rfl, ?_, rfl⟩
  cases greedy <;> simpa [or_comm] using which

private theorem Passes.leads_again {greedy : Bool} {body : Expr} {place middle : Place}
    {marks : Marks} {next : Continuation}
    (through : ∀ {start stop : Place} {taken earlier : Marks} {following : Continuation},
      body.Takes start taken stop → barred.ClearBefore following →
      Leads barred stop following (taken ++ earlier) ending →
      Leads barred start (.run body :: following) earlier ending)
    (clear : barred.ClearBefore next)
    {least : Nat} {most : Option Nat} (passes : Passes body.Takes least most place marks middle)
    (rest : Leads barred middle next (marks ++ before) ending) :
    Leads barred place (.again greedy body :: next) before ending := by
  induction passes generalizing before with
  | done =>
      exact leads_of_pass_or_leave (clear.not_barred _ _) rfl (.inr rfl) rest
  | more _ pass _ ih =>
      apply leads_of_pass_or_leave (clear.not_barred _ _) rfl (.inl rfl)
      refine through pass (clear.cons _) (ih ?_)
      rwa [← List.append_assoc]

private theorem Passes.leads {greedy : Bool} {body : Expr} {place middle : Place}
    {marks : Marks} {next : Continuation}
    (through : ∀ {start stop : Place} {taken earlier : Marks} {following : Continuation},
      body.Takes start taken stop → barred.ClearBefore following →
      Leads barred stop following (taken ++ earlier) ending →
      Leads barred start (.run body :: following) earlier ending)
    (clear : barred.ClearBefore next)
    {least : Nat} {most : Option Nat} (passes : Passes body.Takes least most place marks middle)
    (rest : Leads barred middle next (marks ++ before) ending) :
    Leads barred place (.run (.repeated least most greedy body) :: next) before ending := by
  induction passes generalizing before with
  | @done most place =>
      by_cases spent : most = some 0
      · subst spent
        exact .step (clear.not_barred _ _) (.go Move.repeated_over) rest
      · exact leads_of_pass_or_leave (clear.not_barred _ _) (Move.repeated_allowed spent) (.inr rfl)
          rest
  | @more least most start middle stop first later allowed pass passes ih =>
      have remaining : Leads barred middle (afterPass greedy body least most :: next)
          (first ++ before) ending := by
        rw [List.append_assoc] at rest
        have onwards := ih rest
        unfold afterPass
        split
        · split
          · exact onwards
          · exact passes.leads_again through clear rest
        · exact passes.leads_again through clear rest
        · exact onwards
        · exact onwards
        · exact onwards
      have through := through pass (clear.cons _) remaining
      by_cases owed : least ≠ 0
      · exact .step (clear.not_barred _ _) (.go (Move.repeated_owed owed)) through
      · obtain rfl : least = 0 := Decidable.not_not.mp owed
        exact leads_of_pass_or_leave (clear.not_barred _ _)
          (Move.repeated_allowed (allowed.resolve_left owed)) (.inl rfl) through

theorem Expr.Takes.leads {expr : Expr} {place middle : Place} {marks : Marks}
    {next : Continuation} (takes : expr.Takes place marks middle)
    (clear : barred.ClearBefore next)
    (rest : Leads barred middle next (marks ++ before) ending) :
    Leads barred place (.run expr :: next) before ending := by
  induction expr generalizing place middle marks before next with
  | empty =>
      obtain ⟨rfl, rfl⟩ := takes
      exact .step (clear.not_barred _ _) (.go rfl) rest
  | set chars =>
      obtain ⟨⟨char, text, shape, member⟩, rfl, rfl⟩ := takes
      refine .step (clear.not_barred _ _) (.eat ?_) rest
      simp [Move.ofContinuation, Move.ofExpr, shape, member]
  | look condition =>
      obtain ⟨holds, rfl, rfl⟩ := takes
      refine .step (clear.not_barred _ _) (.go ?_) rest
      simp [Move.ofContinuation, Move.ofExpr, holds]
  | group index body ih =>
      obtain ⟨inner, inside, rfl⟩ := takes
      refine .step (clear.not_barred _ _) (.mark rfl) (ih inside (clear.cons _) ?_)
      refine .step (clear.not_barred _ _) (.mark rfl) ?_
      simpa using rest
  | repeated least most greedy body ih =>
      exact Passes.leads (fun inside clear rest => ih inside clear rest) clear takes rest
  | cat left right leftIH rightIH =>
      obtain ⟨between, first, later, here, there, rfl⟩ := takes
      refine .step (clear.not_barred _ _) (.go rfl) (leftIH here (clear.cons _) ?_)
      exact rightIH there clear (by rwa [← List.append_assoc])
  | alt left right leftIH rightIH =>
      cases takes with
      | inl here =>
        refine .step (clear.not_barred _ _) (.preferred rfl) (leftIH here (clear.cons _) ?_)
        exact .step (clear.not_barred _ _) (.go rfl) rest
      | inr here =>
        refine .step (clear.not_barred _ _) (.other rfl) (rightIH here (clear.cons _) ?_)
        exact .step (clear.not_barred _ _) (.go rfl) rest

end Paths

/-! ## Matches -/

theorem Expr.takes_of_matchAt {expr : Expr} {place : Place} {found : Match}
    (success : expr.matchAt place = some found) :
    ∃ stop, expr.Takes place found.marks stop ∧ found.start = place.index ∧
      found.stop = stop.index := by
  obtain ⟨start, best⟩ := Expr.best_of_matchAt success
  obtain ⟨left, stop, ⟨middle, first, _, here, ⟨rfl, rfl⟩, rfl⟩, same⟩ := best.leads.takes
  obtain ⟨stopEq, marksEq⟩ : found.stop = _ ∧ found.marks = _ := by simpa using same
  exact ⟨stop, by rwa [marksEq], start, stopEq⟩

/-- There is a match at a place exactly if the expression takes something there. -/
theorem Expr.isSome_matchAt_iff {expr : Expr} {place : Place} :
    (expr.matchAt place).isSome = true ↔ ∃ marks stop, expr.Takes place marks stop := by
  constructor
  · intro success
    obtain ⟨found, success⟩ := Option.isSome_iff_exists.mp success
    obtain ⟨stop, takes, _⟩ := Expr.takes_of_matchAt success
    exact ⟨_, stop, takes⟩
  · intro given
    obtain ⟨marks, stop, takes⟩ := given
    have path : Leads .none place [.run expr] [] ⟨stop.index, marks⟩ :=
      takes.leads (Nodes.clearBefore_none _) (by simpa using Leads.accept id rfl)
    obtain ⟨found, success⟩ := Expr.exists_matchAt_of_alive ⟨_, _, path⟩
    exact Option.isSome_iff_exists.mpr ⟨found, success⟩

end TextSchema.Pattern
