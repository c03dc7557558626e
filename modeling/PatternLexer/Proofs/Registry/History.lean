import PatternLexer.Registry.Define

/-!
# Registries as they grow

A registry comes about by registrations, each of which may fail. A failed one leaves
the registry alone and a successful one adds a class, so what is known stays known
with the same meaning (`extends_registerAll`). What holds at first and survives every
definition holds after all registrations (`registerAll_induction`).
-/

namespace PatternLexer

/-- What is made of a list succeeds when it does for the first element and for the
others. -/
theorem mapM_cons_eq_ok_iff {ε α β : Type} {make : α → Except ε β} {first : α} {others : List α}
    {results : List β} :
    (first :: others).mapM make = .ok results ↔
      ∃ result further, make first = .ok result ∧ others.mapM make = .ok further ∧
        results = result :: further := by
  rw [List.mapM_cons]
  cases make first with
  | error error => simp [bind, Except.bind]
  | ok result =>
      cases others.mapM make <;> simp [bind, Except.bind, pure, Except.pure, eq_comm]

theorem eq_ok_of_toOption_eq_some {ε α : Type} {attempt : Except ε α} {value : α}
    (present : attempt.toOption = some value) : attempt = .ok value := by
  cases attempt with
  | error error => cases present
  | ok other =>
      cases present
      rfl

namespace Registry

variable {registry extended : Registry} {name : String} {definition : Definition}

/-- The matchers that definitions have when their patterns compile. -/
inductive Builds (registry : Registry) : Definition → Matcher → Prop where
  | predicate (accepts : Char → Bool) :
      Builds registry (.predicate accepts) (.run (.custom accepts) 1 none)
  | alternation {patterns : List String} {alternatives : List Sequence} (nonempty : patterns ≠ [])
      (compiled : registry.compileAll patterns = .ok alternatives) :
      Builds registry (.alternation patterns) (.alternation alternatives)
  | optional {patterns : List String} {alternatives : List Sequence}
      (compiled : registry.compileAll patterns = .ok alternatives) :
      Builds registry (.optional patterns) (.alternation (alternatives ++ [[]]))
  | pattern {pattern : String} {items : Sequence}
      (compiled : registry.compile pattern = .ok items) :
      Builds registry (.pattern pattern) (.pattern items)

theorem matcherOf_eq_ok_iff {matcher : Matcher} :
    registry.matcherOf name definition = .ok matcher ↔ registry.Builds definition matcher := by
  constructor
  · intro built
    cases definition with
    | predicate accepts =>
        cases built
        exact .predicate accepts
    | alternation patterns =>
        cases patterns with
        | nil => cases built
        | cons pattern patterns =>
            cases compiled : registry.compileAll (pattern :: patterns) with
            | error error => simp [matcherOf, compiled, Except.map] at built
            | ok alternatives =>
                simp only [matcherOf, compiled, Except.map, Except.ok.injEq] at built
                exact built ▸ .alternation (List.cons_ne_nil _ _) compiled
    | optional patterns =>
        cases compiled : registry.compileAll patterns with
        | error error => simp [matcherOf, compiled, Except.map] at built
        | ok alternatives =>
            simp only [matcherOf, compiled, Except.map, Except.ok.injEq] at built
            exact built ▸ .optional compiled
    | pattern pattern =>
        cases compiled : registry.compile pattern with
        | error error => simp [matcherOf, compiled, Except.map] at built
        | ok items =>
            simp only [matcherOf, compiled, Except.map, Except.ok.injEq] at built
            exact built ▸ .pattern compiled
  · intro builds
    cases builds with
    | predicate accepts => rfl
    | @alternation patterns alternatives nonempty compiled =>
        cases patterns with
        | nil => exact absurd rfl nonempty
        | cons pattern patterns => simp [matcherOf, compiled, Except.map]
    | optional compiled => simp [matcherOf, compiled, Except.map]
    | pattern compiled => simp [matcherOf, compiled, Except.map]

/-- The registry after the registration of a class, which may have failed. -/
def register (registry : Registry) (name : String) (definition : Definition) : Registry :=
  (registry.addClass name definition).2

/-- The registry after some registrations in order. -/
def registerAll (registry : Registry) : List (String × Definition) → Registry
  | [] => registry
  | (name, definition) :: others => (registry.register name definition).registerAll others

theorem register_of_define (defined : registry.define name definition = .ok extended) :
    registry.register name definition = extended := by
  rw [register, addClass_of_ok defined]

theorem register_of_error {error : RegistrationError}
    (fails : registry.define name definition = .error error) :
    registry.register name definition = registry := by
  rw [register, addClass_of_error fails]

@[simp] theorem registerAll_cons (registry : Registry) (name : String) (definition : Definition)
    (others : List (String × Definition)) :
    registry.registerAll ((name, definition) :: others) =
      (registry.register name definition).registerAll others := rfl

/-- What survives every definition survives all registrations. -/
theorem registerAll_induction {property : Registry → Prop}
    (survives : ∀ {registry extended : Registry} {name : String} {definition : Definition},
      registry.define name definition = .ok extended → property registry → property extended)
    (holds : property registry) (registrations : List (String × Definition)) :
    property (registry.registerAll registrations) := by
  induction registrations generalizing registry with
  | nil => exact holds
  | cons registration others ih =>
      rcases registration with ⟨name, definition⟩
      apply ih
      cases defined : registry.define name definition with
      | error error =>
          rw [register_of_error defined]
          exact holds
      | ok extended =>
          rw [register_of_define defined]
          exact survives defined holds

/-- What is known in the first registry is known in the second, with the same meaning. -/
def Extends (registry extended : Registry) : Prop :=
  ∀ name matcher, registry.find? name = some matcher → extended.find? name = some matcher

theorem Extends.refl (registry : Registry) : registry.Extends registry := fun _ _ found => found

theorem Extends.trans {first second third : Registry} (before : first.Extends second)
    (after : second.Extends third) : first.Extends third :=
  fun name matcher found => after name matcher (before name matcher found)

/-- A definition makes its own name known, which was unknown. -/
theorem find?_of_define (defined : registry.define name definition = .ok extended) :
    registry.find? name = none ∧ ∃ matcher, registry.Builds definition matcher ∧
      ∀ other, extended.find? other = if other = name then some matcher else registry.find? other := by
  rcases define_eq_ok_iff.mp defined with ⟨checked, matcher, built, rfl⟩
  rcases checkName_eq_ok_iff.mp checked with ⟨-, -, fresh⟩
  refine ⟨by simpa [contains] using fresh, matcher, matcherOf_eq_ok_iff.mp built, fun other => ?_⟩
  exact find?_insert registry name other matcher fresh

theorem extends_of_define (defined : registry.define name definition = .ok extended) :
    registry.Extends extended := by
  rcases find?_of_define defined with ⟨fresh, matcher, -, finds⟩
  intro other known found
  have different : other ≠ name := by
    intro same
    rw [same, fresh] at found
    cases found
  rw [finds, if_neg different, found]

theorem extends_registerAll (registry : Registry) (registrations : List (String × Definition)) :
    registry.Extends (registry.registerAll registrations) :=
  registerAll_induction (fun defined before => before.trans (extends_of_define defined))
    (.refl registry) registrations

end Registry

end PatternLexer
