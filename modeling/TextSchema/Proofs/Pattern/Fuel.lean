import TextSchema.Proofs.Pattern.Exploration

/-!
# The fuel of a search

The continuations that running an expression can come to are listed by structure.
There are no more of them than `Expr.states` counts, so the fuel of a search is
enough and `matchAt` returns the best path, or nothing if there is no path.
-/

set_option autoImplicit false

namespace TextSchema.Pattern

/-- What a repetition goes on with after a pass. -/
def afterPass (greedy : Bool) (body : Expr) : Nat → Option Nat → Frame
  | 0, none =>
      if body.consumes then .run (.repeated 0 none greedy body) else .again greedy body
  | 1, none => .again greedy body
  | least + 2, none => .run (.repeated (least + 1) none greedy body)
  | 0, some most => .run (.repeated 0 (some (most - 1)) greedy body)
  | least + 1, some most => .run (.repeated least (some (most - 1)) greedy body)

@[simp] theorem Move.mem_targets_passOrLeave {greedy : Bool} {pass leave target : Continuation} :
    target ∈ (Move.passOrLeave greedy pass leave).targets ↔ target = pass ∨ target = leave := by
  cases greedy <;> simp [Move.passOrLeave, Move.targets, or_comm]

theorem Move.ofRepeated_eq (greedy : Bool) (body : Expr) (next : Continuation) (least : Nat)
    (most : Option Nat) :
    Move.ofRepeated greedy body next least most =
      if least ≠ 0 then .go (.run body :: afterPass greedy body least most :: next)
      else if most = some 0 then .go next
      else .passOrLeave greedy (.run body :: afterPass greedy body least most :: next) next := by
  rcases least with _ | _ | least <;> rcases most with _ | _ | most <;> rfl

theorem Move.repeated_owed {place : Place} {least : Nat} {most : Option Nat} {greedy : Bool}
    {body : Expr} {next : Continuation} (owed : least ≠ 0) :
    Move.ofContinuation place (.run (.repeated least most greedy body) :: next) =
      .go (.run body :: afterPass greedy body least most :: next) := by
  rw [Move.ofContinuation, Move.ofExpr, Move.ofRepeated_eq, if_pos owed]

theorem Move.repeated_allowed {place : Place} {most : Option Nat} {greedy : Bool} {body : Expr}
    {next : Continuation} (allowed : most ≠ some 0) :
    Move.ofContinuation place (.run (.repeated 0 most greedy body) :: next) =
      .passOrLeave greedy (.run body :: afterPass greedy body 0 most :: next) next := by
  rw [Move.ofContinuation, Move.ofExpr, Move.ofRepeated_eq, if_neg (by simp), if_neg allowed]

theorem Move.repeated_over {place : Place} {greedy : Bool} {body : Expr} {next : Continuation} :
    Move.ofContinuation place (.run (.repeated 0 (some 0) greedy body) :: next) = .go next := rfl

/-- The counts that a repetition comes to, the given ones first. -/
def countdown : Nat → Option Nat → List (Nat × Option Nat)
  | 0, none => [(0, none)]
  | 1, none => [(1, none)]
  | least + 2, none => (least + 2, none) :: countdown (least + 1) none
  | 0, some 0 => [(0, some 0)]
  | 0, some (most + 1) => (0, some (most + 1)) :: countdown 0 (some most)
  | least + 1, some most => (least + 1, some most) :: countdown least (some (most - 1))

theorem mem_countdown_self (least : Nat) (most : Option Nat) :
    (least, most) ∈ countdown least most := by
  unfold countdown
  split <;> simp

theorem length_countdown_le (least : Nat) (most : Option Nat) :
    (countdown least most).length ≤ max least (most.getD 1) + 1 := by
  fun_induction countdown least most with
  | case1 | case2 | case4 => simp
  | case3 least ih =>
      simp only [List.length_cons, Option.getD_none] at ih ⊢
      omega
  | case5 most ih | case6 least most ih =>
      simp only [List.length_cons, Option.getD_some] at ih ⊢
      omega

theorem afterPass_mem_countdown (greedy : Bool) (body : Expr) {least : Nat} {most : Option Nat}
    {counts : Nat × Option Nat} (member : counts ∈ countdown least most) :
    afterPass greedy body counts.1 counts.2 = .again greedy body ∨
      ∃ later ∈ countdown least most,
        afterPass greedy body counts.1 counts.2 = .run (.repeated later.1 later.2 greedy body) := by
  fun_induction countdown least most with
  | case1 =>
      rw [List.mem_singleton] at member
      subst member
      by_cases consumes : body.consumes = true
      · exact .inr ⟨(0, none), by simp, by simp [afterPass, consumes]⟩
      · exact .inl (by simp [afterPass, consumes])
  | case2 =>
      rw [List.mem_singleton] at member
      subst member
      exact .inl rfl
  | case4 =>
      rw [List.mem_singleton] at member
      subst member
      exact .inr ⟨(0, some 0), by simp, rfl⟩
  | case3 least ih =>
      cases List.mem_cons.mp member with
      | inl same =>
        subst same
        exact .inr ⟨_, List.mem_cons_of_mem _ (mem_countdown_self (least + 1) none), rfl⟩
      | inr later =>
        exact (ih later).imp_right fun ⟨found, inside, shape⟩ =>
          ⟨found, List.mem_cons_of_mem _ inside, shape⟩
  | case5 most ih =>
      cases List.mem_cons.mp member with
      | inl same =>
        subst same
        exact .inr ⟨_, List.mem_cons_of_mem _ (mem_countdown_self 0 (some most)), rfl⟩
      | inr later =>
        exact (ih later).imp_right fun ⟨found, inside, shape⟩ =>
          ⟨found, List.mem_cons_of_mem _ inside, shape⟩
  | case6 least most ih =>
      cases List.mem_cons.mp member with
      | inl same =>
        subst same
        exact .inr ⟨_, List.mem_cons_of_mem _ (mem_countdown_self least (some (most - 1))),
          by cases least <;> rfl⟩
      | inr later =>
        exact (ih later).imp_right fun ⟨found, inside, shape⟩ =>
          ⟨found, List.mem_cons_of_mem _ inside, shape⟩

/-- The continuations that running an expression can come to before the one that
follows it. -/
def Expr.continuations : Expr → Continuation → List Continuation
  | .group index body, next =>
      (.run (.group index body) :: next) ::
        (body.continuations (.close index :: next) ++ [.close index :: next])
  | .repeated least most greedy body, next =>
      (countdown least most).flatMap fun counts =>
        (.run (.repeated counts.1 counts.2 greedy body) :: next) ::
          (body.continuations (afterPass greedy body counts.1 counts.2 :: next) ++
            [afterPass greedy body counts.1 counts.2 :: next])
  | .cat left right, next =>
      (.run (.cat left right) :: next) ::
        (left.continuations (.run right :: next) ++ right.continuations next)
  | .alt left right, next =>
      (.run (.alt left right) :: next) ::
        (left.continuations (.merge false :: next) ++ [.merge false :: next] ++
          (right.continuations (.merge true :: next) ++ [.merge true :: next]))
  | .empty, next => [.run .empty :: next]
  | .set chars, next => [.run (.set chars) :: next]
  | .look condition, next => [.run (.look condition) :: next]

theorem Expr.run_mem_continuations (expr : Expr) (next : Continuation) :
    .run expr :: next ∈ expr.continuations next := by
  cases expr with
  | repeated least most greedy body =>
      exact List.mem_flatMap.mpr ⟨_, mem_countdown_self least most, by simp⟩
  | _ => simp [Expr.continuations]

theorem Expr.length_continuations_le (expr : Expr) (next : Continuation) :
    (expr.continuations next).length ≤ expr.states := by
  induction expr generalizing next with
  | empty | set | look => simp [Expr.continuations, Expr.states]
  | group index body ih =>
      have inner := ih (.close index :: next)
      simp only [Expr.continuations, Expr.states, List.length_cons, List.length_append,
        List.length_nil]
      omega
  | cat left right leftIH rightIH =>
      have first := leftIH (.run right :: next)
      have second := rightIH next
      simp only [Expr.continuations, Expr.states, List.length_cons, List.length_append]
      omega
  | alt left right leftIH rightIH =>
      have first := leftIH (.merge false :: next)
      have second := rightIH (.merge true :: next)
      simp only [Expr.continuations, Expr.states, List.length_cons, List.length_append,
        List.length_nil]
      omega
  | repeated least most greedy body ih =>
      have bound : ∀ counts : List (Nat × Option Nat),
          (counts.flatMap fun counts =>
            (Frame.run (.repeated counts.1 counts.2 greedy body) :: next) ::
              (body.continuations (afterPass greedy body counts.1 counts.2 :: next) ++
                [afterPass greedy body counts.1 counts.2 :: next])).length ≤
            counts.length * (body.states + 2) := by
        intro counts
        induction counts with
        | nil => simp
        | cons head rest restIH =>
            have inner := ih (afterPass greedy body head.1 head.2 :: next)
            simp only [List.flatMap_cons, List.length_append, List.length_cons,
              List.length_nil, Nat.succ_mul] at restIH ⊢
            omega
      exact Nat.le_trans (bound _) (Nat.mul_le_mul_right _ (length_countdown_le least most))

theorem Expr.pass_mem_continuations (greedy : Bool) (body : Expr) (next : Continuation)
    {least : Nat} {most : Option Nat} {counts : Nat × Option Nat}
    (inside : counts ∈ countdown least most) :
    .run body :: afterPass greedy body counts.1 counts.2 :: next ∈
      Expr.continuations (.repeated least most greedy body) next :=
  List.mem_flatMap.mpr ⟨counts, inside, by simp [body.run_mem_continuations]⟩

theorem Expr.targets_ofRepeated {greedy : Bool} {body : Expr} {next target : Continuation}
    {least : Nat} {most : Option Nat} {counts : Nat × Option Nat}
    (inside : counts ∈ countdown least most)
    (reached : target ∈ (Move.ofRepeated greedy body next counts.1 counts.2).targets) :
    target ∈ Expr.continuations (.repeated least most greedy body) next ∨ target = next := by
  have pass := Expr.pass_mem_continuations greedy body next inside
  rw [Move.ofRepeated_eq] at reached
  split at reached
  · obtain rfl : target = _ := List.mem_singleton.mp reached
    exact .inl pass
  · split at reached
    · exact .inr (List.mem_singleton.mp reached)
    · cases Move.mem_targets_passOrLeave.mp reached with
      | inl same =>
        subst same
        exact .inl pass
      | inr same =>
        subst same
        exact .inr rfl

theorem Expr.targets_continuations (expr : Expr) (next : Continuation) (place : Place) :
    ∀ continuation ∈ expr.continuations next,
      ∀ target ∈ (Move.ofContinuation place continuation).targets,
        target ∈ expr.continuations next ∨ target = next := by
  induction expr generalizing next with
  | empty =>
      intro continuation member target reached
      rw [Expr.continuations, List.mem_singleton] at member
      subst member
      exact .inr (List.mem_singleton.mp reached)
  | set chars =>
      intro continuation member target reached
      rw [Expr.continuations, List.mem_singleton] at member
      subst member
      simp only [Move.ofContinuation, Move.ofExpr] at reached
      split at reached
      · simp [Move.targets] at reached
      · split at reached
        · exact .inr (by simpa [Move.targets] using reached)
        · simp [Move.targets] at reached
  | look look =>
      intro continuation member target reached
      rw [Expr.continuations, List.mem_singleton] at member
      subst member
      simp only [Move.ofContinuation, Move.ofExpr] at reached
      split at reached
      · exact .inr (by simpa [Move.targets] using reached)
      · simp [Move.targets] at reached
  | group index body ih =>
      intro continuation member target reached
      simp only [Expr.continuations, List.mem_cons, List.mem_append, List.not_mem_nil,
        or_false] at member ⊢
      rcases member with rfl | inside | rfl
      · obtain rfl : target = _ := List.mem_singleton.mp reached
        exact .inl (.inr (.inl (body.run_mem_continuations _)))
      · cases ih _ _ inside _ reached with
        | inl stays => exact .inl (.inr (.inl stays))
        | inr same =>
          subst same
          exact .inl (.inr (.inr rfl))
      · exact .inr (List.mem_singleton.mp reached)
  | cat left right leftIH rightIH =>
      intro continuation member target reached
      simp only [Expr.continuations, List.mem_cons, List.mem_append] at member ⊢
      rcases member with rfl | inside | inside
      · obtain rfl : target = _ := List.mem_singleton.mp reached
        exact .inl (.inr (.inl (left.run_mem_continuations _)))
      · cases leftIH _ _ inside _ reached with
        | inl stays => exact .inl (.inr (.inl stays))
        | inr same =>
          subst same
          exact .inl (.inr (.inr (right.run_mem_continuations _)))
      · cases rightIH _ _ inside _ reached with
        | inl stays => exact .inl (.inr (.inr stays))
        | inr same =>
          subst same
          exact .inr rfl
  | alt left right leftIH rightIH =>
      intro continuation member target reached
      simp only [Expr.continuations, List.mem_cons, List.mem_append, List.not_mem_nil,
        or_false] at member ⊢
      rcases member with rfl | (inside | rfl) | inside | rfl
      · simp only [Move.ofContinuation, Move.ofExpr, Move.targets, List.mem_cons,
          List.not_mem_nil, or_false] at reached
        cases reached with
        | inl same =>
          subst same
          exact .inl (.inr (.inl (.inl (left.run_mem_continuations _))))
        | inr same =>
          subst same
          exact .inl (.inr (.inr (.inl (right.run_mem_continuations _))))
      · cases leftIH _ _ inside _ reached with
        | inl stays => exact .inl (.inr (.inl (.inl stays)))
        | inr same =>
          subst same
          exact .inl (.inr (.inl (.inr rfl)))
      · exact .inr (List.mem_singleton.mp reached)
      · cases rightIH _ _ inside _ reached with
        | inl stays => exact .inl (.inr (.inr (.inl stays)))
        | inr same =>
          subst same
          exact .inl (.inr (.inr (.inr rfl)))
      · exact .inr (List.mem_singleton.mp reached)
  | repeated least most greedy body ih =>
      intro continuation member target reached
      obtain ⟨counts, inside, member⟩ := List.mem_flatMap.mp member
      simp only [List.mem_cons, List.mem_append, List.not_mem_nil, or_false] at member
      rcases member with rfl | deeper | rfl
      · exact Expr.targets_ofRepeated inside reached
      · refine .inl (List.mem_flatMap.mpr ⟨counts, inside, ?_⟩)
        rcases ih _ _ deeper _ reached with stays | rfl <;> simp_all
      · rcases afterPass_mem_countdown greedy body inside with again | ⟨later, found, run⟩
        · rw [again] at reached
          cases Move.mem_targets_passOrLeave.mp reached with
          | inl same =>
            subst same
            exact .inl (again ▸ Expr.pass_mem_continuations greedy body next inside)
          | inr same =>
            subst same
            exact .inr rfl
        · rw [run] at reached
          exact Expr.targets_ofRepeated found reached

theorem untriedIn_le (states here : List Continuation) :
    untriedIn states here ≤ states.length :=
  List.length_filter_le _ _

theorem untried_le (states : List Continuation) (text : List Char) (tried : Tried) :
    untried states text tried ≤ states.length * (text.length + 1) := by
  induction text generalizing tried with
  | nil => simpa [untried] using untriedIn_le states (tried.headD [])
  | cons char rest ih =>
      have here := untriedIn_le states (tried.headD [])
      have later := ih tried.tail
      rw [List.length_cons, Nat.mul_succ, untried]
      omega

def Expr.searchStates (expr : Expr) : List Continuation :=
  [] :: expr.continuations []

theorem Expr.closedUnderMoves_searchStates (expr : Expr) :
    ClosedUnderMoves expr.searchStates := by
  intro place continuation member target reached
  cases List.mem_cons.mp member with
  | inl same =>
    subst same
    simp [Move.ofContinuation, Move.targets] at reached
  | inr inside =>
    rcases expr.targets_continuations [] place continuation inside target reached with
      stays | rfl
    · exact List.mem_cons_of_mem _ stays
    · exact List.mem_cons_self

/-- The fuel of a search exceeds the number of nodes that it can visit. -/
theorem Expr.untried_lt_fuel (expr : Expr) (text : List Char) :
    untried expr.searchStates text [] < expr.fuel text.length := by
  have states : expr.searchStates.length ≤ expr.states + 2 := by
    have inner := expr.length_continuations_le []
    simp only [Expr.searchStates, List.length_cons]
    omega
  calc
    untried expr.searchStates text [] ≤ expr.searchStates.length * (text.length + 1) :=
      untried_le _ _ _
    _ ≤ (expr.states + 2) * (text.length + 1) := Nat.mul_le_mul_right _ states
    _ < expr.fuel text.length := Nat.lt_succ_self _

theorem Expr.explored_matchAt (expr : Expr) (place : Place) :
    Explored .none place [.run expr] []
      (explore (expr.fuel place.rest.length) place [.run expr] [] []) :=
  explore_explored expr.closedUnderMoves_searchStates
    (List.mem_cons_of_mem _ (expr.run_mem_continuations []))
    (expr.untried_lt_fuel place.rest) (fun _ _ member => by simp [Tried.at] at member)

/-- The match at a place is the end of the best path. -/
theorem Expr.best_of_matchAt {expr : Expr} {place : Place} {found : Match}
    (success : expr.matchAt place = some found) :
    found.start = place.index ∧ Best .none place [.run expr] [] ⟨found.stop, found.marks⟩ := by
  have explored := expr.explored_matchAt place
  cases outcome : explore (expr.fuel place.rest.length) place [.run expr] [] [] with
  | mk result tried =>
      rw [outcome] at explored
      cases result with
      | none => simp [Expr.matchAt, outcome] at success
      | some ending =>
          simp only [Expr.matchAt, outcome, Option.map_some, Option.some.injEq] at success
          subst success
          exact ⟨rfl, explored⟩

theorem Expr.exists_matchAt_of_alive {expr : Expr} {place : Place}
    (alive : Alive .none place [.run expr]) : ∃ found, expr.matchAt place = some found := by
  have explored := expr.explored_matchAt place
  cases outcome : explore (expr.fuel place.rest.length) place [.run expr] [] [] with
  | mk result tried =>
      rw [outcome] at explored
      cases result with
      | none => exact absurd alive (explored.2.resolve_left id)
      | some ending => exact ⟨_, by rw [Expr.matchAt, outcome]; rfl⟩

end TextSchema.Pattern
