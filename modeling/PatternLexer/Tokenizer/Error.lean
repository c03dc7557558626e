import PatternLexer.Registry.Error

/-!
# Errors of a run

A run fails with a `RunError` and a callback with a `Failure`. Each may hold the
other: a callback can pass on the error of a run inside it, and a run reports a
failed callback.

An error is shown by its message and its causes, the messages behind it from the
outside in. A wrapped error is transparent: it shows the message of what it wraps
and goes on with the causes of that.

Main statement: `runError?_wrap`, contexts do not hide the run error inside a
failure.
-/

namespace PatternLexer

mutual

/-- Why a run fails. -/
inductive RunError where
  /-- A class or pattern was not registered, so nothing runs. -/
  | registration (error : RegistrationError)
  /-- A callback failed. -/
  | callback (failure : Failure)
  /-- Nothing matched at this offset and the tokenizer does not skip. -/
  | unmatched (pos : Nat) (c : Char)
  deriving DecidableEq, Repr

/-- Why a callback fails. -/
inductive Failure where
  /-- For a reason in words. -/
  | plain (text : String)
  /-- With a registration error of its own. -/
  | registration (error : RegistrationError)
  /-- With the error of a run. -/
  | run (error : RunError)
  /-- With another failure, described from further outside. -/
  | context (text : String) (inner : Failure)
  deriving DecidableEq, Repr

end

mutual

/-- A run error in words. -/
def RunError.message : RunError → String
  | .registration error => error.message
  | .callback failure => failure.message
  | .unmatched pos c => s!"unmatched {Text.quotedChar c} at offset {pos}"

/-- A failure in words; of several contexts, the outermost one. -/
def Failure.message : Failure → String
  | .plain text => text
  | .registration error => error.message
  | .run error => error.message
  | .context text _ => text

end

mutual

/-- The messages behind that of a run error, from the outside in. -/
def RunError.causes : RunError → List String
  | .registration _ => []
  | .callback failure => failure.causes
  | .unmatched _ _ => []

/-- The messages behind that of a failure, from the outside in. -/
def Failure.causes : Failure → List String
  | .plain _ => []
  | .registration _ => []
  | .run error => error.causes
  | .context _ inner => inner.message :: inner.causes

end

namespace Failure

/-- The run error inside a failure, found through any contexts. -/
def runError? : Failure → Option RunError
  | .plain _ => none
  | .registration _ => none
  | .run error => some error
  | .context _ inner => inner.runError?

/-- A failure with contexts around it, the last of them outermost. -/
def wrap (failure : Failure) (contexts : List String) : Failure :=
  contexts.foldl (fun inner text => .context text inner) failure

/-- Contexts do not hide the run error inside a failure. -/
@[simp] theorem runError?_wrap (failure : Failure) (contexts : List String) :
    (failure.wrap contexts).runError? = failure.runError? := by
  induction contexts generalizing failure with
  | nil => rfl
  | cons text contexts ih => exact ih (.context text failure)

end Failure

/-- What a run reports for a failed callback: the run error inside the failure as
it is, and otherwise the failure. -/
def RunError.ofFailure (failure : Failure) : RunError :=
  failure.runError?.getD (.callback failure)

end PatternLexer
