import TextSchema.Cardinality
import TextSchema.Error
import TextSchema.Text.Quoted

/-!
# Logged computations

Building and decoding note what they do. A computation carries its value and the
events on the way to it; failing keeps the events so far. Statements about values
speak of `result`, which forgets the events.
-/

set_option autoImplicit false

namespace TextSchema

/-- Something worth noting. -/
inductive Event where
  /-- A type was derived from the type with a name for another cardinality. -/
  | derived (cardinality : Cardinality) (base : Option String) (pattern : String)
  | variantBuilt (members pattern : String)
  | replaced (name : String)
  | created (names : List String)
  | dispatched (members text : String) (index : Nat)
deriving DecidableEq, Repr

def unnamedLabel : String := "<unnamed>"

namespace Event

def isTrace : Event → Bool
  | .dispatched _ _ _ => true
  | _ => false

def message : Event → String
  | .derived cardinality base pattern =>
      "derived " ++ cardinality.name ++ " converter from " ++
        Text.quote (base.getD unnamedLabel) ++ ": " ++ pattern
  | .variantBuilt members pattern => "built variant " ++ members ++ ": " ++ pattern
  | .replaced name => "type registry: replaced converter for '" ++ name ++ "'"
  | .created names => "created missing type variants: " ++ ", ".intercalate names
  | .dispatched members text index =>
      "variant " ++ members ++ ": '" ++ text ++ "' dispatched to member " ++ toString index

def line (event : Event) : String :=
  (if event.isTrace then "TRACE " else "DEBUG ") ++ event.message

end Event

/-- A value with the events on the way to it. -/
structure Logged (α : Type) where
  value : α
  events : List Event

namespace Logged

instance : Monad Logged where
  pure value := ⟨value, []⟩
  bind first next :=
    let second := next first.value
    ⟨second.value, first.events ++ second.events⟩

@[simp] theorem value_pure {α : Type} (value : α) : (pure value : Logged α).value = value := rfl

@[simp] theorem value_bind {α β : Type} (first : Logged α) (next : α → Logged β) :
    (first >>= next).value = (next first.value).value := rfl

@[simp] theorem events_pure {α : Type} (value : α) : (pure value : Logged α).events = [] := rfl

@[simp] theorem events_bind {α β : Type} (first : Logged α) (next : α → Logged β) :
    (first >>= next).events = first.events ++ (next first.value).events := rfl

instance : LawfulMonad Logged := LawfulMonad.mk' Logged
  (by intro α first; cases first; simp [Functor.map])
  (by intro α β value next; simp [bind, pure])
  (by intro α β γ first next last; simp [bind])

def note (event : Event) : Logged Unit := ⟨(), [event]⟩

end Logged

abbrev Attempt (ε : Type) : Type → Type := ExceptT ε Logged

namespace Attempt

def result {ε α : Type} (attempt : Attempt ε α) : Except ε α :=
  attempt.run.value

def events {ε α : Type} (attempt : Attempt ε α) : List Event :=
  attempt.run.events

def ofExcept {ε α : Type} (outcome : Except ε α) : Attempt ε α :=
  ExceptT.mk (pure outcome)

def note {ε : Type} (event : Event) : Attempt ε Unit :=
  ExceptT.lift (Logged.note event)

end Attempt

abbrev Decoding : Type → Type := Attempt DecodeError

abbrev Building : Type → Type := Attempt BuildError

def Building.ofDecode {α : Type} (outcome : Except DecodeError α) : Building α :=
  Attempt.ofExcept (outcome.mapError .decode)

end TextSchema
