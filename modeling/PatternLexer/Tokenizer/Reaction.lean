import PatternLexer.Tokenizer.Error

/-!
# Reactions

A callback answers a token with a reaction, a small program that can emit values,
fail, and ask the tokenizer for two things: to run on another input, and to test
an input against a pattern. The reaction goes on with the answer, so it can react
to the failure of what it asked for.

Runs inside runs may be limited. A run that would go beyond the limit is refused,
and the reaction is told so.

Reactions that emit values of type `ε` can be composed: `bind` goes on with another
one.
-/

namespace PatternLexer

/-- The program of a callback. -/
inductive Reaction (ε α : Type) where
  /-- Finish with a value. -/
  | done (value : α)
  /-- Fail. -/
  | fail (failure : Failure)
  /-- Emit a value and go on. -/
  | emit (value : ε) (next : Reaction ε α)
  /-- Run the tokenizer on an input and go on with the result, or with nothing if
  the run is refused. -/
  | run (input : String) (next : Option (Except RunError Unit) → Reaction ε α)
  /-- Test whether a pattern matches all of an input and go on with the answer. -/
  | test (input pattern : String) (next : Except RunError Bool → Reaction ε α)

namespace Reaction

variable {ε α β : Type}

/-- Go on with another reaction where one finishes. -/
def bind : Reaction ε α → (α → Reaction ε β) → Reaction ε β
  | done value, rest => rest value
  | fail failure, _ => fail failure
  | emit value next, rest => emit value (next.bind rest)
  | run input next, rest => run input fun result => (next result).bind rest
  | test input pattern next, rest => test input pattern fun answer => (next answer).bind rest

instance : Monad (Reaction ε) where
  pure := done
  bind := bind

/-- Emit a value. -/
def report (value : ε) : Reaction ε Unit := emit value (done ())

end Reaction

end PatternLexer
