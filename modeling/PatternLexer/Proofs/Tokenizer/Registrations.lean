import PatternLexer.Tokenizer.Run

/-!
# Registrations that fail

Adding a class or a rule to a tokenizer never fails in the place where it is done. If it cannot
be added, the tokenizer keeps its classes and rules, and the error if it is the first one. So a
tokenizer is in the state in which the successful registrations alone would leave it, and each
of them comes to the same without the failing ones; the first error is what every run and every
test comes to from then on (`registerAll_empty_defers`).
-/

namespace PatternLexer

variable {ε : Type}

/-- A class or a rule that is to be added to a tokenizer. -/
inductive Registration (ε : Type) where
  | addClass (name : String) (definition : Definition)
  | addRule (pattern : String) (callback : Token → Reaction ε Unit)

/-- What an attempt comes to with some classes: the classes from then on, or the items of the
new rule. -/
abbrev Attempt := Except RegistrationError (Registry ⊕ Sequence)

/-- The error of an attempt that fails. -/
def Attempt.error? : Attempt → Option RegistrationError
  | .ok _ => none
  | .error error => some error

/-- An attempt succeeds. -/
def Attempt.succeeds : Attempt → Bool
  | .ok _ => true
  | .error _ => false

/-- What a registration comes to with some classes. -/
def Registration.attempt (classes : Registry) : Registration ε → Attempt
  | .addClass name definition => (classes.define name definition).map .inl
  | .addRule pattern _ => (classes.compile pattern).map .inr

namespace Tokenizer

variable {tokenizer other : Tokenizer ε} {registration : Registration ε}
  {registrations : List (Registration ε)} {error : RegistrationError}

/-- Add a class or a rule. -/
def register (tokenizer : Tokenizer ε) : Registration ε → Tokenizer ε
  | .addClass name definition => tokenizer.addClass name definition
  | .addRule pattern callback => tokenizer.addRule pattern callback

/-- Add classes and rules in order. -/
def registerAll (tokenizer : Tokenizer ε) : List (Registration ε) → Tokenizer ε
  | [] => tokenizer
  | registration :: others => (tokenizer.register registration).registerAll others

/-- What registrations come to, each with the classes that are there when its turn comes. -/
def attempts (tokenizer : Tokenizer ε) : List (Registration ε) → List Attempt
  | [] => []
  | registration :: others =>
      registration.attempt tokenizer.classes :: (tokenizer.register registration).attempts others

/-- The registrations that succeed. -/
def successful (tokenizer : Tokenizer ε) : List (Registration ε) → List (Registration ε)
  | [] => []
  | registration :: others =>
      let further := (tokenizer.register registration).successful others
      if (registration.attempt tokenizer.classes).succeeds then registration :: further else further

/-- A registration that fails leaves an error behind and nothing else. -/
theorem register_of_error (fails : registration.attempt tokenizer.classes = .error error) :
    tokenizer.register registration = tokenizer.keep error := by
  cases registration with
  | addClass name definition =>
      cases defined : tokenizer.classes.define name definition with
      | ok classes => simp [Registration.attempt, defined, Except.map] at fails
      | error failure =>
          simp only [Registration.attempt, defined, Except.map, Except.error.injEq] at fails
          rw [register, addClass_of_error defined, fails]
  | addRule pattern callback =>
      cases compiled : tokenizer.classes.compile pattern with
      | ok items => simp [Registration.attempt, compiled, Except.map] at fails
      | error failure =>
          simp only [Registration.attempt, compiled, Except.map, Except.error.injEq] at fails
          simp [register, addRule, compiled, fails]

/-- The error that is kept is the one that there was, or that of the registration. -/
theorem pending_register (tokenizer : Tokenizer ε) (registration : Registration ε) :
    (tokenizer.register registration).pending =
      tokenizer.pending.or (registration.attempt tokenizer.classes).error? := by
  cases registration with
  | addClass name definition =>
      cases defined : tokenizer.classes.define name definition with
      | ok classes =>
          simp [register, addClass_of_ok defined, Registration.attempt, defined, Except.map,
            Attempt.error?]
      | error failure =>
          simp [register, addClass_of_error defined, Registration.attempt, defined, Except.map,
            Attempt.error?, keep]
  | addRule pattern callback =>
      cases compiled : tokenizer.classes.compile pattern <;>
        simp [register, addRule, Registration.attempt, compiled, Except.map, Attempt.error?, keep]

/-- The tokenizers have the same classes and rules. They may keep different errors. -/
structure Holds (tokenizer other : Tokenizer ε) : Prop where
  classes : tokenizer.classes = other.classes
  rules : tokenizer.rules = other.rules

theorem Holds.refl (tokenizer : Tokenizer ε) : tokenizer.Holds tokenizer := ⟨rfl, rfl⟩

/-- What is added does not hang on the errors that are kept. -/
theorem Holds.register (same : tokenizer.Holds other) (registration : Registration ε) :
    (tokenizer.register registration).Holds (other.register registration) := by
  obtain ⟨classes, rules⟩ := same
  cases registration with
  | addClass name definition =>
      simp only [Tokenizer.register]
      cases defined : tokenizer.classes.define name definition with
      | ok extended =>
          rw [addClass_of_ok defined, addClass_of_ok (classes ▸ defined)]
          exact ⟨rfl, rules⟩
      | error failure =>
          rw [addClass_of_error defined, addClass_of_error (classes ▸ defined)]
          exact ⟨classes, rules⟩
  | addRule pattern callback =>
      simp only [Tokenizer.register, addRule, ← classes]
      cases tokenizer.classes.compile pattern with
      | ok items => exact ⟨rfl, congrArg (· ++ [⟨items, callback⟩]) rules⟩
      | error failure => exact ⟨classes, rules⟩

theorem Holds.register_of_error (same : tokenizer.Holds other)
    (fails : registration.attempt tokenizer.classes = .error error) :
    (tokenizer.register registration).Holds other := by
  rw [Tokenizer.register_of_error fails]
  exact ⟨same.classes, same.rules⟩

theorem pending_registerAll (tokenizer : Tokenizer ε) (registrations : List (Registration ε)) :
    (tokenizer.registerAll registrations).pending =
      tokenizer.pending.or ((tokenizer.attempts registrations).findSome? Attempt.error?) := by
  induction registrations generalizing tokenizer with
  | nil => exact (Option.or_none).symm
  | cons registration others ih =>
      rw [registerAll, ih, pending_register, attempts, List.findSome?_cons, Option.or_assoc]
      cases (registration.attempt tokenizer.classes).error? <;> rfl

/-- Without the registrations that fail the others come to the same, and so do all of them. -/
theorem Holds.registerAll_successful (same : tokenizer.Holds other)
    (registrations : List (Registration ε)) :
    (tokenizer.registerAll registrations).Holds
        (other.registerAll (tokenizer.successful registrations)) ∧
      other.attempts (tokenizer.successful registrations) =
        (tokenizer.attempts registrations).filter Attempt.succeeds := by
  induction registrations generalizing tokenizer other with
  | nil => exact ⟨same, rfl⟩
  | cons registration others ih =>
      rw [registerAll, successful, attempts]
      cases attempted : registration.attempt tokenizer.classes with
      | error error => exact ih (same.register_of_error attempted)
      | ok added =>
          obtain ⟨further, attempts⟩ := ih (same.register registration)
          have here : registration.attempt other.classes = .ok added := by
            rw [← same.classes, attempted]
          refine ⟨further, ?_⟩
          change registration.attempt other.classes :: _ = _ :: _
          rw [here, attempts]

/-- What is left of the registrations of a new tokenizer, whatever they are. The error that is
kept is that of the first one that fails, and stays. Classes and rules are those of the
successful registrations alone, and each of these comes to the same without the failing ones. As
soon as an error is kept it is what all runs and tests come to, and no callback is called. -/
theorem registerAll_empty_defers (registrations further : List (Registration ε)) :
    let tokenizer : Tokenizer ε := empty.registerAll registrations
    let successes : List (Registration ε) := empty.successful registrations
    tokenizer.pending = ((empty.attempts registrations).findSome? Attempt.error?) ∧
      tokenizer.classes = (empty.registerAll successes).classes ∧
      tokenizer.rules = (empty.registerAll successes).rules ∧
      empty.attempts successes = (empty.attempts registrations).filter Attempt.succeeds ∧
      ∀ error, tokenizer.pending = some error →
        (tokenizer.registerAll further).pending = some error ∧
          ∀ nesting input pattern,
            tokenizer.run nesting input = .of (.error (.registration error)) ∧
              tokenizer.accepts input pattern = .error (.registration error) := by
  intro tokenizer successes
  obtain ⟨same, attempts⟩ := (Holds.refl empty).registerAll_successful registrations
  refine ⟨pending_registerAll empty registrations, same.classes, same.rules, attempts, ?_⟩
  intro error pending
  constructor
  · rw [pending_registerAll, pending]
    rfl
  · intro nesting input pattern
    exact ⟨run_of_pending pending nesting input, accepts_of_pending pending input pattern⟩

/-- Five registrations that fail, each for a reason of its own, stand between three that succeed.
The class of the rule that is added at the end was defined after the first of them. -/
theorem registerAll_empty_defers_braces :
    let registrations : List (Registration Unit) := [
      .addClass "n" (.predicate Char.isDigit), .addClass "word" (.pattern "x"),
      .addClass "a\x7b" (.pattern "x"), .addClass "m" (.pattern "{n}."), .addClass "e" (.alternation []),
      .addClass "e" (.optional ["{e}"]), .addRule "\x7bm" fun _ => .done (), .addRule "{m}" fun _ => .done ()]
    let tokenizer : Tokenizer Unit := empty.registerAll registrations
    (empty.attempts registrations).map Attempt.error? =
        [none, some (.duplicateClass "word"), some (.invalidClassName "a\x7b"), none,
          some (.noAlternatives "e"), some (.pattern "{e}" (.unknownClass "e")),
          some (.pattern "\x7bm" (.unclosedClass 0)), none] ∧
      tokenizer.pending = some (.duplicateClass "word") ∧
      tokenizer.rules.length = 1 ∧
      (empty.attempts (empty.successful registrations)).length = 3 ∧
      (tokenizer.run 0 "1.").result = .error (.registration (.duplicateClass "word")) := by
  intro registrations tokenizer
  obtain ⟨pending, -, rules, attempts, stored⟩ := registerAll_empty_defers registrations []
  have first : tokenizer.pending = some (.duplicateClass "word") := by
    rw [pending]
    decide +kernel
  obtain ⟨ran, -⟩ := (stored _ first).2 0 "1." ""
  refine ⟨by decide +kernel, first, ?_, ?_, congrArg Outcome.result ran⟩
  · rw [rules]
    decide +kernel
  · rw [attempts]
    decide +kernel

end Tokenizer

end PatternLexer
