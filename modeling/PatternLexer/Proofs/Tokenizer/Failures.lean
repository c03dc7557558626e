import Mathlib.Logic.Relation
import PatternLexer.Proofs.Tokenizer.Steps

/-!
# Errors of runs inside runs

A callback that fails with the error of a run inside it, as it is or with contexts around it,
ends the run around it with the same error. So an error comes out of any number of runs as it
was raised in the innermost one. A failure that is no run error comes out as it was raised in a
callback, with all its contexts, and its contexts are its sources, each of them once
(`error_of_relayed`).

An error of a callback thus never holds a run error, as long as callbacks do not make up errors
of callbacks themselves.
-/

namespace PatternLexer

variable {ε α : Type}

mutual

/-- The next error behind a run error. What a run error wraps is passed over, as its message is
already shown. -/
def RunError.source? : RunError → Option Failure
  | .registration _ => none
  | .callback failure => failure.source?
  | .unmatched _ _ => none

/-- The next error behind a failure. -/
def Failure.source? : Failure → Option Failure
  | .plain _ => none
  | .registration _ => none
  | .run error => error.source?
  | .context _ inner => some inner

end

/-- The messages that are met on the way from a source to the source behind it, until there is
none. -/
inductive Failure.Sources : Option Failure → List String → Prop where
  | finish : Sources none []
  | behind {failure : Failure} {messages : List String} (further : Sources failure.source? messages) :
      Sources (some failure) (failure.message :: messages)

mutual

/-- The causes of a run error are the messages of its sources. -/
theorem RunError.sources_causes : (error : RunError) → Failure.Sources error.source? error.causes
  | .registration _ => .finish
  | .callback failure => failure.sources_causes
  | .unmatched _ _ => .finish

/-- The causes of a failure are the messages of its sources. -/
theorem Failure.sources_causes : (failure : Failure) →
    Failure.Sources failure.source? failure.causes
  | .plain _ => .finish
  | .registration _ => .finish
  | .run error => error.sources_causes
  | .context _ inner => .behind inner.sources_causes

end

namespace Failure

/-- A failure that nothing is behind and that is no run error. -/
def Bare : Failure → Prop
  | .plain _ | .registration _ => True
  | .run _ | .context _ _ => False

theorem Bare.runError? {root : Failure} (bare : root.Bare) : root.runError? = none := by
  cases root with
  | plain | registration => rfl
  | run | context => cases bare

theorem Bare.causes {root : Failure} (bare : root.Bare) : root.causes = [] := by
  cases root with
  | plain | registration => rfl
  | run | context => cases bare

/-- Contexts are shown from the outermost one inwards, and then what they are put around. -/
theorem message_causes_wrap (root : Failure) (contexts : List String) :
    (root.wrap contexts).message :: (root.wrap contexts).causes =
      contexts.reverse ++ root.message :: root.causes := by
  induction contexts generalizing root with
  | nil => rfl
  | cons text contexts ih =>
      rw [List.reverse_cons, List.append_assoc]
      exact ih (.context text root)

end Failure

/-! ## Failing runs -/

/-- A run of a tokenizer over an input. -/
structure Invocation (ε : Type) where
  tokenizer : Tokenizer ε
  /-- How deep runs may nest in it. -/
  nesting : Nat
  input : String

namespace Invocation

variable {inner outer innermost outermost : Invocation ε} {failure : Failure} {error : RunError}

def outcome (run : Invocation ε) : Outcome ε RunError Unit :=
  run.tokenizer.run run.nesting run.input

/-- A callback is called in the run and fails. -/
def FailsWith (run : Invocation ε) (failure : Failure) : Prop :=
  ∃ rule token, ⟨0, .matched rule token⟩ ∈ run.outcome.trace ∧
    ((run.tokenizer.callback rule token).perform (run.tokenizer.answers run.nesting)
      run.tokenizer.accepts).result = .error failure

/-- A callback of the outer run fails with the error of the inner run, as it is or with contexts
around it. -/
def Relays (inner outer : Invocation ε) : Prop :=
  ∃ error contexts, inner.outcome.result = .error error ∧
    outer.FailsWith ((Failure.run error).wrap contexts)

theorem failsWith_of_matched {tokenizer : Tokenizer ε} {nesting rule : Nat} {input : String}
    {token : Token} (called : ⟨0, .matched rule token⟩ ∈ (tokenizer.run nesting input).trace)
    (raises : ((tokenizer.callback rule token).perform (tokenizer.answers nesting)
      tokenizer.accepts).result = .error failure) :
    FailsWith ⟨tokenizer, nesting, input⟩ failure :=
  ⟨rule, token, called, raises⟩

/-- The run error in the failure of a callback is what the run comes to, or else the failure. -/
theorem FailsWith.result (fails : outer.FailsWith failure) :
    outer.outcome.result = .error (.ofFailure failure) := by
  obtain ⟨rule, token, called, raises⟩ := fails
  rw [outcome] at called ⊢
  cases pending : outer.tokenizer.pending with
  | some error =>
      rw [Tokenizer.run_of_pending pending] at called
      cases called
  | none =>
      rw [Tokenizer.run_eq_runWith, Tokenizer.runWith_eq_follow pending] at called ⊢
      exact Tokenizer.follow_of_matched (Outcome.mem_trace_matched_iff.mp called) raises

/-- A run fails for a registration error, for a dropped character, or as a callback of it does. -/
theorem error_cases (run : Invocation ε) (fails : run.outcome.result = .error error) :
    (∀ failure, error ≠ .callback failure) ∨
      ∃ failure, run.FailsWith failure ∧ error = .ofFailure failure := by
  obtain ⟨tokenizer, nesting, input⟩ := run
  cases pending : tokenizer.pending with
  | some kept =>
      rw [outcome, Tokenizer.run_of_pending pending] at fails
      cases fails
      exact .inl fun failure absurd => by cases absurd
  | none =>
      have same : tokenizer.run nesting input =
          tokenizer.follow (tokenizer.answers nesting) (Visit.visits tokenizer.patterns input) := by
        rw [Tokenizer.run_eq_runWith, Tokenizer.runWith_eq_follow pending]
      rw [outcome, same] at fails
      rcases Tokenizer.follow_eq_error_cases fails with
        ⟨pos, c, rfl⟩ | ⟨rule, token, failure, called, raises, rfl⟩
      · exact .inl fun failure absurd => by cases absurd
      · refine .inr ⟨failure, ⟨rule, token, ?_, raises⟩, rfl⟩
        rw [outcome, same]
        exact Outcome.mem_trace_matched_iff.mpr called

/-- One run further out the error is the same. -/
theorem Relays.result (relays : inner.Relays outer) :
    outer.outcome.result = inner.outcome.result := by
  obtain ⟨error, contexts, raised, fails⟩ := relays
  rw [fails.result, raised, RunError.ofFailure, Failure.runError?_wrap]
  rfl

/-- Any number of runs further out the error is the same. -/
theorem result_of_relayed (relayed : Relation.ReflTransGen Relays innermost outermost) :
    outermost.outcome.result = innermost.outcome.result := by
  induction relayed with
  | refl => rfl
  | tail _ relays ih => rw [relays.result, ih]

end Invocation

/-- Run on an input, and pass its error on with contexts around it. -/
def Reaction.passOn (input : String) (contexts : List String) : Reaction ε Unit :=
  .run input fun
    | some (.error error) => .fail ((Failure.run error).wrap contexts)
    | some (.ok _) | none => .done ()

/-- A callback that passes the error on relays the run that it asks for. -/
theorem Invocation.relays_of_passOn {tokenizer : Tokenizer ε} {nesting rule : Nat} {token : Token}
    {outer inner : String} {contexts : List String} {error : RunError}
    (called : ⟨0, .matched rule token⟩ ∈ (tokenizer.run (nesting + 1) outer).trace)
    (reacts : tokenizer.callback rule token = .passOn inner contexts)
    (fails : (tokenizer.run nesting inner).result = .error error) :
    Relays ⟨tokenizer, nesting, inner⟩ ⟨tokenizer, nesting + 1, outer⟩ := by
  refine ⟨error, contexts, fails, failsWith_of_matched called ?_⟩
  rw [reacts, Reaction.passOn, Reaction.perform]
  simp only [Tokenizer.answers, fails]
  rfl

/-- Given the answers to what it asks for, a reaction that fails with a run error has received
it, unless it is not the error of a callback. -/
def Reaction.ReturnsReceived (runOn : String → Option (Outcome ε RunError Unit))
    (test : String → String → Except RunError Bool) (received : RunError → Prop) :
    Reaction ε α → Prop
  | .done _ => True
  | .fail failure => ∀ error, failure.runError? = some error →
      (∀ inner, error ≠ .callback inner) ∨ received error
  | .emit _ next => next.ReturnsReceived runOn test received
  | .run input next =>
      match runOn input with
      | none => (next none).ReturnsReceived runOn test received
      | some outcome => (next (some outcome.result)).ReturnsReceived runOn test fun error =>
          received error ∨ outcome.result = .error error
  | .test input pattern next =>
      (next (test input pattern)).ReturnsReceived runOn test fun error =>
        received error ∨ test input pattern = .error error

/-- The error is that of a callback only if the failure of the callback holds no run error. -/
def RunError.Flat : RunError → Prop
  | .callback failure => failure.runError? = none
  | .registration _ | .unmatched _ _ => True

theorem RunError.flat_of_ne {error : RunError} (other : ∀ failure, error ≠ .callback failure) :
    error.Flat := by
  cases error with
  | registration | unmatched => trivial
  | callback failure => exact absurd rfl (other failure)

/-- Where all errors that a reaction receives are flat, so is the error that it leads to. -/
theorem Reaction.ReturnsReceived.flat {reaction : Reaction ε α}
    {runOn : String → Option (Outcome ε RunError Unit)}
    {test : String → String → Except RunError Bool} {received : RunError → Prop} {failure : Failure}
    (returns : reaction.ReturnsReceived runOn test received)
    (receivedFlat : ∀ error, received error → error.Flat)
    (runsFlat : ∀ input outcome error, runOn input = some outcome →
      outcome.result = .error error → error.Flat)
    (testsFlat : ∀ input pattern error, test input pattern = .error error → error.Flat)
    (fails : (reaction.perform runOn test).result = .error failure) :
    (RunError.ofFailure failure).Flat := by
  induction reaction generalizing received with
  | done value => cases fails
  | fail raised =>
      cases fails
      cases inside : failure.runError? with
      | none => simp [RunError.ofFailure, RunError.Flat, inside]
      | some error =>
          rw [RunError.ofFailure, inside]
          rcases returns error inside with other | known
          · exact RunError.flat_of_ne other
          · exact receivedFlat error known
  | emit value next ih => exact ih returns receivedFlat fails
  | run input next ih =>
      rw [ReturnsReceived] at returns
      rw [perform] at fails
      cases asked : runOn input with
      | none =>
          rw [asked] at returns fails
          exact ih none returns receivedFlat fails
      | some outcome =>
          rw [asked] at returns fails
          apply ih _ returns _ fails
          rintro error (known | answered)
          · exact receivedFlat error known
          · exact runsFlat input outcome error asked answered
  | test input pattern next ih =>
      apply ih _ returns _ fails
      rintro error (known | answered)
      · exact receivedFlat error known
      · exact testsFlat input pattern error answered

theorem Reaction.returnsReceived_passOn (input : String) (contexts : List String)
    (runOn : String → Option (Outcome ε RunError Unit))
    (test : String → String → Except RunError Bool) (received : RunError → Prop) :
    (passOn input contexts).ReturnsReceived runOn test received := by
  rw [passOn, ReturnsReceived]
  cases runOn input with
  | none => trivial
  | some outcome =>
      obtain ⟨trace, result⟩ := outcome
      cases result with
      | ok value => trivial
      | error raised =>
          intro error inside
          rw [Failure.runError?_wrap] at inside
          cases inside
          exact .inr (.inr rfl)

namespace Tokenizer

variable {tokenizer : Tokenizer ε} {nesting : Nat}

theorem flat_of_accepts {input pattern : String} {error : RunError}
    (fails : tokenizer.accepts input pattern = .error error) : error.Flat := by
  rw [accepts] at fails
  split at fails
  · cases fails
    trivial
  · split at fails
    · cases fails
      trivial
    · split at fails <;> cases fails

/-- The callbacks that are called return what they receive or know already, also in the runs that
callbacks ask for. -/
def ReturnsReceived (tokenizer : Tokenizer ε) (known : RunError → Prop) (nesting : Nat) : Prop :=
  ∀ level ≤ nesting, ∀ input rule token,
    ⟨0, .matched rule token⟩ ∈ (tokenizer.run level input).trace →
      (tokenizer.callback rule token).ReturnsReceived (tokenizer.answers level) tokenizer.accepts
        known

variable {known : RunError → Prop} {input : String} {error : RunError}

/-- Where all errors of the runs inside are flat, so is that of the run. -/
theorem ReturnsReceived.flat_of_answers (returns : tokenizer.ReturnsReceived known nesting)
    (knownFlat : ∀ error, known error → error.Flat)
    (answersFlat : ∀ input outcome error, tokenizer.answers nesting input = some outcome →
      outcome.result = .error error → error.Flat)
    (fails : (tokenizer.run nesting input).result = .error error) : error.Flat := by
  rcases Invocation.error_cases ⟨tokenizer, nesting, input⟩ fails with
    other | ⟨failure, ⟨rule, token, called, raises⟩, rfl⟩
  · exact RunError.flat_of_ne other
  · have received := returns nesting (Nat.le_refl nesting) input rule token called
    apply received.flat knownFlat answersFlat _ raises
    intro _ _ _ fails
    exact flat_of_accepts fails

/-- No error of a callback that a run comes to holds a run error. -/
theorem ReturnsReceived.flat (returns : tokenizer.ReturnsReceived known nesting)
    (knownFlat : ∀ error, known error → error.Flat)
    (fails : (tokenizer.run nesting input).result = .error error) : error.Flat := by
  induction nesting generalizing input error with
  | zero =>
      apply returns.flat_of_answers knownFlat _ fails
      intro input outcome error refused
      cases refused
  | succ nesting ih =>
      apply returns.flat_of_answers knownFlat _ fails
      intro input outcome error asked raised
      cases asked
      exact ih (fun level within => returns level (Nat.le_succ_of_le within)) raised

end Tokenizer

/-- The errors of runs whose callbacks may run other tokenizers as well, down to a rank. The
callbacks return what they receive, from any of these runs; at rank 0 there are no others. -/
def RunError.Known (ε : Type) : (rank : Nat) → RunError → Prop
  | 0, _ => False
  | rank + 1, error => ∃ run : Invocation ε,
      run.tokenizer.ReturnsReceived (Known ε rank) run.nesting ∧ run.outcome.result = .error error

theorem RunError.Known.flat {rank : Nat} {error : RunError} (known : error.Known ε rank) :
    error.Flat := by
  induction rank generalizing error with
  | zero => cases known
  | succ rank ih =>
      obtain ⟨run, returns, raised⟩ := known
      exact returns.flat (fun _ => ih) raised

/-- Through any number of runs around it a run is seen to fail with the same error. A failure
that is no run error is seen as it was raised: its message is the outermost context, and its
sources are the contexts further inside and what they were put around. If callbacks return the
errors of runs and tests, of any tokenizers, and otherwise no errors of callbacks, no run comes
to the error of a callback that holds a run error. -/
theorem Invocation.error_of_relayed {innermost outermost : Invocation ε}
    (relayed : Relation.ReflTransGen Relays innermost outermost) :
    (∀ error, innermost.outcome.result = .error error →
        outermost.outcome.result = .error error) ∧
      (∀ (root : Failure) (contexts : List String), root.Bare →
        innermost.FailsWith (root.wrap contexts) →
          let error : RunError := .callback (root.wrap contexts)
          outermost.outcome.result = .error error ∧
            error.message :: error.causes = contexts.reverse ++ [root.message] ∧
            Failure.Sources error.source? error.causes) ∧
      (∀ rank, outermost.tokenizer.ReturnsReceived (RunError.Known ε rank) outermost.nesting →
        ∀ failure, outermost.outcome.result = .error (.callback failure) →
          failure.runError? = none) := by
  refine ⟨?_, ?_, ?_⟩
  · intro error raised
    rw [result_of_relayed relayed, raised]
  · intro root contexts bare raises error
    have same : RunError.ofFailure (root.wrap contexts) = error := by
      rw [RunError.ofFailure, Failure.runError?_wrap, bare.runError?]
      rfl
    refine ⟨?_, ?_, error.sources_causes⟩
    · rw [result_of_relayed relayed, raises.result, same]
    · rw [← bare.causes]
      exact root.message_causes_wrap contexts
  · intro rank returns failure fails
    exact returns.flat (fun _ => RunError.Known.flat) fails

/-- Two callbacks pass on what the third one raises, the outer one with contexts of its own. -/
theorem Invocation.error_of_relayed_twice :
    let tokenizer : Tokenizer Unit := {
      rules := [⟨[⟨.literal ['a'], none⟩], fun _ => .passOn "b" ["first", "second"]⟩,
        ⟨[⟨.literal ['b'], none⟩], fun _ => .passOn "c" []⟩,
        ⟨[⟨.literal ['c'], none⟩], fun _ => .fail ((Failure.plain "bad").wrap ["value", "entry"])⟩] }
    let innermost : Invocation Unit := ⟨tokenizer, 0, "c"⟩
    let outermost : Invocation Unit := ⟨tokenizer, 2, "a"⟩
    let error : RunError := .callback ((Failure.plain "bad").wrap ["value", "entry"])
    Relation.ReflTransGen Relays innermost outermost ∧
      innermost.outcome.result = .error error ∧ outermost.outcome.result = .error error ∧
      error.message :: error.causes = ["entry", "value", "bad"] ∧ error.Flat := by
  intro tokenizer innermost outermost error
  have raises : innermost.FailsWith ((Failure.plain "bad").wrap ["value", "entry"]) :=
    failsWith_of_matched List.mem_cons_self rfl
  have inner : Relays innermost ⟨tokenizer, 1, "b"⟩ :=
    relays_of_passOn List.mem_cons_self rfl raises.result
  have outer : Relays ⟨tokenizer, 1, "b"⟩ outermost :=
    relays_of_passOn List.mem_cons_self rfl (inner.result.trans raises.result)
  have returns : tokenizer.ReturnsReceived (RunError.Known Unit 0) 2 := by
    intro level _ input rule token _
    match rule with
    | 0 | 1 => exact Reaction.returnsReceived_passOn _ _ _ _ _
    | 2 =>
        intro error inside
        cases inside
    | _ + 3 => trivial
  have relayed : Relation.ReflTransGen Relays innermost outermost := .tail (.single inner) outer
  obtain ⟨-, bare, flat⟩ := error_of_relayed relayed
  obtain ⟨result, shown, -⟩ := bare (.plain "bad") ["value", "entry"] trivial raises
  exact ⟨relayed, raises.result, result, shown, flat 0 returns _ result⟩

end PatternLexer
