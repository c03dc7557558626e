import PatternLexer.Tokenizer.Basic
import PatternLexer.Tokenizer.Outcome
import PatternLexer.Tokenizer.Visit

/-!
# Running a tokenizer

A run goes through the places of its input. At each visit it calls the callback of
the rule that matched and then deals with the dropped character; the first failure
ends it, and the places behind it are not matched any more.

Runs that callbacks ask for are runs of the same tokenizer with a cursor of their
own. How deep they may nest is a number given with the outermost run, which makes
every run finite.
-/

namespace PatternLexer

variable {ε α : Type}

/-- Carry out a reaction, given the answers to what it asks for. -/
def Reaction.perform (runOn : String → Option (Outcome ε RunError Unit))
    (test : String → String → Except RunError Bool) :
    Reaction ε α → Outcome ε Failure α
  | .done value => .of (.ok value)
  | .fail failure => .of (.error failure)
  | .emit value next => (next.perform runOn test).prepend [⟨0, .emitted value⟩]
  | .run input next =>
      match runOn input with
      | none => (next none).perform runOn test
      | some inner =>
          ((next (some inner.result)).perform runOn test).prepend (inner.trace.map Entry.deeper)
  | .test input pattern next => (next (test input pattern)).perform runOn test

namespace Tokenizer

/-- Deal with a character that nothing consumes. -/
def drop (tokenizer : Tokenizer ε) (pos : Nat) (c : Char) : Outcome ε RunError Unit :=
  match tokenizer.unmatched with
  | .skip => .event (.skipped pos c)
  | .log => .event (.warned pos c)
  | .error => .of (.error (.unmatched pos c))

/-- Whether a pattern matches all of an input. -/
def accepts (tokenizer : Tokenizer ε) (input pattern : String) : Except RunError Bool :=
  match tokenizer.pending with
  | some error => .error (.registration error)
  | none =>
      match tokenizer.classes.compile pattern with
      | .error error => .error (.registration error)
      | .ok items =>
          match (Cursor.start input).match? items with
          | (some found, _) => .ok found.stop.rest.isEmpty
          | (none, _) => .ok false

/-- Call the callback of the rule that matched, if one did. -/
def call (tokenizer : Tokenizer ε) (runOn : String → Option (Outcome ε RunError Unit)) :
    Option (Nat × Token) → Outcome ε RunError Unit
  | none => .of (.ok ())
  | some (rule, token) =>
      (((tokenizer.callback rule token).perform runOn tokenizer.accepts).mapError
        RunError.ofFailure).prepend [⟨0, .matched rule token⟩]

/-- Deal with a visit: first with what was found, then with what is dropped. -/
def attend (tokenizer : Tokenizer ε) (runOn : String → Option (Outcome ε RunError Unit))
    (visit : Visit) : Outcome ε RunError Unit :=
  (tokenizer.call runOn visit.hit).andThen fun _ =>
    match visit.dropped with
    | none => .of (.ok ())
    | some c => tokenizer.drop visit.pos c

/-- Go on with a run at the cursor until the text ends. No place is matched before
what came earlier has succeeded. Every visit moves the cursor, so there are no more
visits than characters `ahead`. -/
def runFrom (tokenizer : Tokenizer ε) (runOn : String → Option (Outcome ε RunError Unit)) :
    (ahead : List Char) → Cursor → Outcome ε RunError Unit
  | [], _ => .of (.ok ())
  | _ :: ahead, cursor =>
      if cursor.atEnd then .of (.ok ())
      else
        let (visit, next) := Visit.make tokenizer.patterns cursor
        (tokenizer.attend runOn visit).andThen fun _ => tokenizer.runFrom runOn ahead next

/-- Run over an input, given the answers to runs that callbacks ask for. An empty
input is visited once. -/
def runWith (tokenizer : Tokenizer ε) (runOn : String → Option (Outcome ε RunError Unit))
    (input : String) : Outcome ε RunError Unit :=
  match tokenizer.pending with
  | some error => .of (.error (.registration error))
  | none =>
      let cursor := Cursor.start input
      if cursor.atEnd then tokenizer.attend runOn (Visit.make tokenizer.patterns cursor).1
      else tokenizer.runFrom runOn input.toList cursor

/-- Run over an input. Callbacks may run the tokenizer again, `nesting` levels
deep. -/
def run (tokenizer : Tokenizer ε) : (nesting : Nat) → (input : String) →
    Outcome ε RunError Unit
  | 0 => tokenizer.runWith fun _ => none
  | nesting + 1 => tokenizer.runWith fun input => some (tokenizer.run nesting input)

/-- A tokenizer that keeps a registration error does not run. -/
theorem run_of_pending {tokenizer : Tokenizer ε} {error : RegistrationError}
    (pending : tokenizer.pending = some error) (nesting : Nat) (input : String) :
    tokenizer.run nesting input = .of (.error (.registration error)) := by
  cases nesting <;> simp [run, runWith, pending]

theorem accepts_of_pending {tokenizer : Tokenizer ε} {error : RegistrationError}
    (pending : tokenizer.pending = some error) (input pattern : String) :
    tokenizer.accepts input pattern = .error (.registration error) := by
  simp [accepts, pending]

end Tokenizer

end PatternLexer
