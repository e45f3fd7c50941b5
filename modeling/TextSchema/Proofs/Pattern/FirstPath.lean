import Mathlib.Data.Prod.Lex
import TextSchema.Proofs.Pattern.WholeText

/-!
# The first path

Where every pass of a repetition takes a character, no path comes back to a node, so
what has been tried never bars the way. The best path is then the first one there is:
at each fork it takes the preferred way unless no path at all goes on from there.
-/

set_option autoImplicit false

namespace TextSchema.Pattern

/-- Every pass of a repetition in it takes a character. -/
def Expr.advances : Expr → Bool
  | .empty | .set _ | .look _ => true
  | .group _ body => body.advances
  | .repeated _ _ _ body => body.consumes && body.advances
  | .cat left right | .alt left right => left.advances && right.advances

theorem Expr.advances_ofItems {exprs : List Expr} (items : ∀ expr ∈ exprs, expr.advances = true) :
    (Expr.ofItems exprs).advances = true := by
  induction exprs with
  | nil => rfl
  | cons first rest ih =>
      obtain ⟨here, later⟩ := List.forall_mem_cons.mp items
      cases rest with
      | nil => exact here
      | cons second rest => exact Bool.and_eq_true_iff.mpr ⟨here, ih later⟩

def Frame.advances : Frame → Bool
  | .run expr => expr.advances
  | .again _ body => body.consumes && body.advances
  | .close _ | .merge _ => true

def Continuation.advances (continuation : Continuation) : Bool :=
  continuation.all Frame.advances

@[simp] theorem Continuation.advances_cons (frame : Frame) (next : Continuation) :
    Continuation.advances (frame :: next) = (frame.advances && Continuation.advances next) := rfl

@[simp] theorem Frame.advances_run (expr : Expr) : (Frame.run expr).advances = expr.advances := rfl

@[simp] theorem Frame.advances_again (greedy : Bool) (body : Expr) :
    (Frame.again greedy body).advances = (body.consumes && body.advances) := rfl

@[simp] theorem Frame.advances_close (index : Nat) : (Frame.close index).advances = true := rfl

@[simp] theorem Frame.advances_merge (second : Bool) : (Frame.merge second).advances = true := rfl

/-- A bound on the moves through an expression up to its first character. -/
def Expr.weight : Expr → Nat
  | .empty | .set _ | .look _ => 1
  | .group _ body => 2 + body.weight
  | .repeated _ _ _ body => 1 + body.weight
  | .cat left right => 1 + left.weight + right.weight
  | .alt left right => 2 + left.weight + right.weight

/-- A bound on the moves of a continuation up to its first character. -/
def Continuation.weight : Continuation → Nat
  | [] => 0
  | .run expr :: next => expr.weight + if expr.consumes then 0 else weight next
  | .again _ body :: next => 1 + body.weight + weight next
  | .close _ :: next | .merge _ :: next => 1 + weight next

/-- Nodes with less text left come later, and at one place those with fewer moves up to
the next character. -/
def rank (place : Place) (continuation : Continuation) : Nat ×ₗ Nat :=
  toLex (place.rest.length, continuation.weight)

section

variable {place after : Place} {continuation next : Continuation} {marks later : Marks}

theorem advances_afterPass {greedy : Bool} {body : Expr}
    (advances : (body.consumes && body.advances) = true) (least : Nat) (most : Option Nat) :
    (afterPass greedy body least most).advances = true := by
  unfold afterPass
  split
  · split <;> exact advances
  all_goals exact advances

theorem rank_lt_of_weight (fewer : next.weight < continuation.weight) :
    rank place next < rank place continuation :=
  Prod.Lex.toLex_lt_toLex.mpr (.inr ⟨rfl, fewer⟩)

theorem rank_lt_of_text {char : Char} {rest : List Char} (text : place.rest = char :: rest) :
    rank place.next next < rank place continuation := by
  refine Prod.Lex.toLex_lt_toLex.mpr (.inl ?_)
  simp [Place.next, text]

theorem weight_pass_lt {body : Expr} (consumes : body.consumes = true) (frame : Frame)
    (least : Nat) (most : Option Nat) (greedy : Bool) (following : Continuation) :
    Continuation.weight (.run body :: frame :: following) <
      Continuation.weight (.run (.repeated least most greedy body) :: following) := by
  simp only [Continuation.weight, Expr.weight, if_pos consumes]
  omega

theorem weight_group_lt (index : Nat) (body : Expr) (following : Continuation) :
    Continuation.weight (.run body :: .close index :: following) <
      Continuation.weight (.run (.group index body) :: following) := by
  cases consumes : body.consumes <;>
    simp only [Continuation.weight, Expr.weight, Expr.consumes, consumes, if_true, if_false,
      Bool.false_eq_true] <;> omega

theorem weight_cat_lt (first second : Expr) (following : Continuation) :
    Continuation.weight (.run first :: .run second :: following) <
      Continuation.weight (.run (.cat first second) :: following) := by
  cases one : first.consumes <;> cases two : second.consumes <;>
    simp only [Continuation.weight, Expr.weight, Expr.consumes, one, two, Bool.or_true,
      Bool.or_false, if_true, if_false, Bool.false_eq_true] <;> omega

theorem weight_branch_lt {branch first second : Expr} (which : branch = first ∨ branch = second)
    (taken : Bool) (following : Continuation) :
    Continuation.weight (.run branch :: .merge taken :: following) <
      Continuation.weight (.run (.alt first second) :: following) := by
  cases one : first.consumes <;> cases two : second.consumes <;> rcases which with rfl | rfl <;>
    simp only [Continuation.weight, Expr.weight, Expr.consumes, one, two, Bool.and_true,
      Bool.and_false, if_true, if_false, Bool.false_eq_true] <;> omega

theorem Steps.rank_lt_repeated {least : Nat} {most : Option Nat} {greedy : Bool} {body : Expr}
    {following : Continuation} (consumes : body.consumes = true) (ofBody : body.advances = true)
    (tail : following.advances = true)
    (step : Steps place (.run (.repeated least most greedy body) :: following) marks
      after next later) :
    next.advances = true ∧
      rank after next < rank place (.run (.repeated least most greedy body) :: following) := by
  have ofPass : Continuation.advances
      (.run body :: afterPass greedy body least most :: following) = true := by
    have ofAfter := @advances_afterPass greedy body (by simp [consumes, ofBody]) least most
    simp [ofBody, ofAfter, tail]
  rw [steps_iff] at step
  by_cases owed : least ≠ 0
  · rw [Move.repeated_owed owed] at step
    obtain ⟨rfl, rfl, rfl⟩ := step
    exact ⟨ofPass, rank_lt_of_weight (weight_pass_lt consumes _ _ _ _ _)⟩
  obtain rfl : least = 0 := Decidable.not_not.mp owed
  have leaves : following.weight <
      Continuation.weight (.run (.repeated 0 most greedy body) :: following) := by
    simp only [Continuation.weight, Expr.weight, Expr.consumes, Nat.lt_irrefl, decide_false,
      Bool.false_and, Bool.false_eq_true, if_false]
    omega
  by_cases spent : most = some 0
  · subst spent
    rw [Move.repeated_over] at step
    obtain ⟨rfl, rfl, rfl⟩ := step
    exact ⟨tail, rank_lt_of_weight leaves⟩
  · rw [Move.repeated_allowed spent, Move.passOrLeave_eq] at step
    obtain ⟨rfl, which, rfl⟩ := step
    have which : next = .run body :: afterPass greedy body 0 most :: following ∨
        next = following := by
      cases greedy <;> simpa [or_comm] using which
    rcases which with rfl | rfl
    · exact ⟨ofPass, rank_lt_of_weight (weight_pass_lt consumes _ _ _ _ _)⟩
    · exact ⟨tail, rank_lt_of_weight leaves⟩

/-- A move leads to a later node. -/
theorem Steps.rank_lt (advances : continuation.advances = true)
    (step : Steps place continuation marks after next later) :
    next.advances = true ∧ rank after next < rank place continuation := by
  rcases continuation with _ | ⟨frame, following⟩
  · exact (steps_iff.mp step).elim
  obtain ⟨here, tail⟩ : frame.advances = true ∧ Continuation.advances following = true := by
    simpa using advances
  cases frame with
  | close index =>
      obtain ⟨rfl, rfl, rfl⟩ := steps_iff.mp step
      exact ⟨tail, rank_lt_of_weight (by simp [Continuation.weight])⟩
  | merge second =>
      obtain ⟨rfl, rfl, rfl⟩ := steps_iff.mp step
      exact ⟨tail, rank_lt_of_weight (by simp [Continuation.weight])⟩
  | again greedy body =>
      obtain ⟨consumes, ofBody⟩ : body.consumes = true ∧ body.advances = true := by
        simpa using here
      rw [steps_iff, Move.ofContinuation, Move.passOrLeave_eq] at step
      obtain ⟨rfl, which, rfl⟩ := step
      have which : next = .run body :: .again greedy body :: following ∨ next = following := by
        cases greedy <;> simpa [or_comm] using which
      rcases which with rfl | rfl
      · refine ⟨by simp [consumes, ofBody, tail], rank_lt_of_weight ?_⟩
        simp only [Continuation.weight, if_pos consumes]
        omega
      · refine ⟨tail, rank_lt_of_weight ?_⟩
        simp only [Continuation.weight]
        omega
  | run expr =>
      cases expr with
      | empty =>
          obtain ⟨rfl, rfl, rfl⟩ := steps_iff.mp step
          exact ⟨tail, rank_lt_of_weight
            (by simp [Continuation.weight, Expr.weight, Expr.consumes])⟩
      | set chars =>
          simp only [steps_iff, Move.ofContinuation, Move.ofExpr] at step
          cases text : place.rest with
          | nil => simp [text] at step
          | cons char rest =>
              by_cases member : chars.mem char = true
              · simp only [text, member, if_true] at step
                obtain ⟨rfl, rfl, rfl⟩ := step
                exact ⟨tail, rank_lt_of_text text⟩
              · simp [text, member] at step
      | look condition =>
          simp only [steps_iff, Move.ofContinuation, Move.ofExpr] at step
          by_cases holds : condition.holds place.before place.rest.head? = true
          · simp only [holds, if_true] at step
            obtain ⟨rfl, rfl, rfl⟩ := step
            exact ⟨tail, rank_lt_of_weight
              (by simp [Continuation.weight, Expr.weight, Expr.consumes])⟩
          · simp [holds] at step
      | group index body =>
          obtain ⟨rfl, rfl, rfl⟩ := steps_iff.mp step
          exact ⟨by simpa [tail, Expr.advances] using here,
            rank_lt_of_weight (weight_group_lt index body following)⟩
      | repeated least most greedy body =>
          obtain ⟨consumes, ofBody⟩ : body.consumes = true ∧ body.advances = true := by
            simpa [Expr.advances] using here
          exact step.rank_lt_repeated consumes ofBody tail
      | cat first second =>
          obtain ⟨rfl, rfl, rfl⟩ := steps_iff.mp step
          exact ⟨by simpa [tail, Expr.advances] using here,
            rank_lt_of_weight (weight_cat_lt first second following)⟩
      | alt first second =>
          obtain ⟨ofFirst, ofSecond⟩ : first.advances = true ∧ second.advances = true := by
            simpa [Expr.advances] using here
          obtain ⟨rfl, which, rfl⟩ := steps_iff.mp step
          rcases which with rfl | rfl
          · exact ⟨by simp [ofFirst, tail], rank_lt_of_weight (weight_branch_lt (.inl rfl) _ _)⟩
          · exact ⟨by simp [ofSecond, tail], rank_lt_of_weight (weight_branch_lt (.inr rfl) _ _)⟩

end

/-! ## The best path -/

/-- The path that takes the first way of a fork unless no path goes on from there. -/
inductive First : Place → Continuation → Marks → Ending → Prop where
  | accept {place continuation marks} :
      Move.ofContinuation place continuation = .accept →
      First place continuation marks ⟨place.index, marks⟩
  | go {place continuation next marks ending} :
      Move.ofContinuation place continuation = .go next →
      First place next marks ending → First place continuation marks ending
  | mark {place continuation next mark marks ending} :
      Move.ofContinuation place continuation = .mark mark next →
      First place next ((mark, place.index) :: marks) ending →
      First place continuation marks ending
  | preferred {place continuation preferred other marks ending} :
      Move.ofContinuation place continuation = .fork preferred other →
      First place preferred marks ending → First place continuation marks ending
  | other {place continuation preferred other marks ending} :
      Move.ofContinuation place continuation = .fork preferred other →
      ¬ Alive .none place preferred → First place other marks ending →
      First place continuation marks ending
  | eat {place continuation next marks ending} :
      Move.ofContinuation place continuation = .eat next →
      First place.next next marks ending → First place continuation marks ending

/-- All barred nodes come before this one. -/
def Nodes.Above (barred : Nodes) (place : Place) (continuation : Continuation) : Prop :=
  ∀ other node, barred other node → rank place continuation < rank other node

section

variable {barred : Nodes} {place after : Place} {continuation next : Continuation}
  {marks later : Marks} {ending : Ending}

theorem Nodes.Above.step (above : barred.Above place continuation)
    (advances : continuation.advances = true)
    (step : Steps place continuation marks after next later) :
    (barred.add place continuation).Above after next := by
  have lower := (step.rank_lt advances).2
  intro other node given
  rcases given with isBarred | ⟨rfl, rfl⟩
  · exact lower.trans (above other node isBarred)
  · exact lower

theorem Leads.of_above (path : Leads .none place continuation marks ending)
    (advances : continuation.advances = true) (above : barred.Above place continuation) :
    Leads barred place continuation marks ending := by
  have free : ∀ {place continuation}, barred.Above place continuation →
      ¬ barred place continuation :=
    fun above isBarred => lt_irrefl _ (above _ _ isBarred)
  induction path with
  | accept _ move => exact .accept (free above) move
  | step _ step _ ih =>
      obtain ⟨tame, lower⟩ := step.rank_lt advances
      exact .step (free above) step
        (ih tame fun other node isBarred => lower.trans (above other node isBarred))

/-- The best path is the first path. -/
theorem Best.first (best : Best barred place continuation marks ending)
    (advances : continuation.advances = true) (above : barred.Above place continuation) :
    First place continuation marks ending := by
  induction best with
  | accept move => exact .accept move
  | go move _ ih =>
      have step : Steps _ _ [] _ _ _ := .go move
      exact .go move (ih (step.rank_lt advances).1 (above.step advances step))
  | mark move _ ih =>
      have step : Steps _ _ [] _ _ _ := .mark move
      exact .mark move (ih (step.rank_lt advances).1 (above.step advances step))
  | preferred move _ ih =>
      have step : Steps _ _ [] _ _ _ := .preferred move
      exact .preferred move (ih (step.rank_lt advances).1 (above.step advances step))
  | other move dead _ ih =>
      have step : Steps _ _ [] _ _ _ := .other move
      refine .other move ?_ (ih (step.rank_lt advances).1 (above.step advances step))
      intro alive
      obtain ⟨marks, ending, path⟩ := alive
      have first : Steps _ _ [] _ _ _ := .preferred move
      exact dead ⟨marks, ending,
        path.of_above (first.rank_lt advances).1 (above.step advances first)⟩
  | eat move _ ih =>
      have step : Steps _ _ [] _ _ _ := .eat move
      exact .eat move (ih (step.rank_lt advances).1 (above.step advances step))

end

theorem Expr.first_of_matchAt {expr : Expr} {place : Place} {found : Match}
    (advances : expr.advances = true) (success : expr.matchAt place = some found) :
    First place [.run expr] [] ⟨found.stop, found.marks⟩ :=
  (best_of_matchAt success).2.first (by simp [advances, Continuation.advances])
    fun _ _ isBarred => isBarred.elim

/-! ## Following the first path -/

namespace First

variable {place : Place} {continuation next : Continuation} {marks : Marks} {ending : Ending}

theorem of_accept (first : First place [] marks ending) : ending = ⟨place.index, marks⟩ := by
  cases first with
  | accept => rfl
  | _ => simp_all [Move.ofContinuation]

theorem of_go (first : First place continuation marks ending)
    (move : Move.ofContinuation place continuation = .go next) :
    First place next marks ending := by
  cases first <;> simp_all

theorem of_mark {mark : Mark} (first : First place continuation marks ending)
    (move : Move.ofContinuation place continuation = .mark mark next) :
    First place next ((mark, place.index) :: marks) ending := by
  cases first <;> simp_all

theorem of_fork {preferred other : Continuation} (first : First place continuation marks ending)
    (move : Move.ofContinuation place continuation = .fork preferred other) :
    First place preferred marks ending ∨
      (¬ Alive .none place preferred ∧ First place other marks ending) := by
  cases first <;> simp_all

theorem of_set {chars : CharSet} (first : First place (.run (.set chars) :: next) marks ending) :
    ∃ char rest, place.rest = char :: rest ∧ chars.mem char = true ∧
      First place.next next marks ending := by
  cases text : place.rest with
  | nil =>
      have stuck : Move.ofContinuation place (.run (.set chars) :: next) = .stuck := by
        simp [Move.ofContinuation, Move.ofExpr, text]
      cases first <;> simp_all
  | cons char rest =>
      by_cases member : chars.mem char = true
      · have move : Move.ofContinuation place (.run (.set chars) :: next) = .eat next := by
          simp [Move.ofContinuation, Move.ofExpr, text, member]
        refine ⟨char, rest, rfl, member, ?_⟩
        cases first <;> simp_all
      · have stuck : Move.ofContinuation place (.run (.set chars) :: next) = .stuck := by
          simp [Move.ofContinuation, Move.ofExpr, text, member]
        cases first <;> simp_all

theorem of_look {condition : Look} (first : First place (.run (.look condition) :: next) marks ending) :
    condition.holds place.before place.rest.head? = true ∧ First place next marks ending := by
  by_cases holds : condition.holds place.before place.rest.head? = true
  · exact ⟨holds, first.of_go (by simp [Move.ofContinuation, Move.ofExpr, holds])⟩
  · have stuck : Move.ofContinuation place (.run (.look condition) :: next) = .stuck := by
      simp [Move.ofContinuation, Move.ofExpr, holds]
    cases first <;> simp_all

end First

end TextSchema.Pattern
