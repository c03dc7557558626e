import PatternLexer.Token
import PatternLexer.Tokenizer.Error

/-!
# Outcomes

A run comes to a result, and on the way to a trace: what matched, what was skipped
and what the callbacks emitted, in the order in which it happened. The runs inside
a run leave their traces in it, one level deeper.
-/

namespace PatternLexer

/-- Something that happens during a run whose callbacks emit values of type `ε`. -/
inductive Event (ε : Type) where
  /-- The rule of this number matched, and its callback is called. -/
  | matched (rule : Nat) (token : Token)
  /-- A character that nothing consumes is skipped. -/
  | skipped (pos : Nat) (c : Char)
  /-- A character that nothing consumes is skipped with a warning. -/
  | warned (pos : Nat) (c : Char)
  /-- A callback emits a value. -/
  | emitted (value : ε)

/-- An event with the number of runs around the one it happens in. -/
structure Entry (ε : Type) where
  depth : Nat
  event : Event ε

/-- The same event, seen from one run further outside. -/
def Entry.deeper {ε : Type} (entry : Entry ε) : Entry ε :=
  { entry with depth := entry.depth + 1 }

/-- What happened, and what it came to. -/
structure Outcome (ε error α : Type) where
  trace : List (Entry ε)
  result : Except error α

namespace Outcome

variable {ε error error' α β : Type}

/-- Nothing happened, and this is the result. -/
def of (result : Except error α) : Outcome ε error α := ⟨[], result⟩

/-- One event in the run itself. -/
def event (event : Event ε) : Outcome ε error Unit := ⟨[⟨0, event⟩], .ok ()⟩

/-- Put a trace before an outcome. -/
def prepend (trace : List (Entry ε)) (outcome : Outcome ε error α) : Outcome ε error α :=
  ⟨trace ++ outcome.trace, outcome.result⟩

/-- Go on where something succeeds. -/
def andThen (first : Outcome ε error α) (next : α → Outcome ε error β) : Outcome ε error β :=
  match first.result with
  | .ok value => (next value).prepend first.trace
  | .error failure => ⟨first.trace, .error failure⟩

/-- Change the error. -/
def mapError (change : error → error') (outcome : Outcome ε error α) : Outcome ε error' α :=
  ⟨outcome.trace, outcome.result.mapError change⟩

/-- The values that were emitted, in order, with their depth. -/
def emitted (outcome : Outcome ε error α) : List (Nat × ε) :=
  outcome.trace.filterMap fun entry =>
    match entry.event with
    | .emitted value => some (entry.depth, value)
    | _ => none

@[simp] theorem trace_of (result : Except error α) :
    (of result : Outcome ε error α).trace = [] := rfl

@[simp] theorem result_of (result : Except error α) :
    (of result : Outcome ε error α).result = result := rfl

@[simp] theorem of_ok_andThen (value : α) (next : α → Outcome ε error β) :
    (of (.ok value)).andThen next = next value := by
  simp [of, andThen, prepend]

@[simp] theorem of_error_andThen (failure : error) (next : α → Outcome ε error β) :
    (of (.error failure)).andThen next = of (.error failure) := rfl

/-- Going on with nothing changes nothing. -/
@[simp] theorem andThen_of_ok (outcome : Outcome ε error Unit) :
    (outcome.andThen fun _ => of (.ok ())) = outcome := by
  rcases outcome with ⟨trace, result⟩
  cases result <;> simp [andThen, prepend, of]

end Outcome

end PatternLexer
