import PatternLexer.Registry.Compile

/-!
# Defining classes

A class is defined by a test on characters, by alternatives, or by one pattern.
Its patterns are compiled at once, so a class can refer only to classes that exist
already. A definition that fails leaves the registry as it was
(`addClass_of_error`).
-/

namespace PatternLexer

/-- What a new class matches. -/
inductive Definition where
  /-- One or more characters that the test accepts. -/
  | predicate (accepts : Char → Bool)
  /-- The first of these patterns that matches. -/
  | alternation (patterns : List String)
  /-- The first of these patterns that matches, or nothing. -/
  | optional (patterns : List String)
  /-- This pattern. -/
  | pattern (pattern : String)

namespace Registry

/-- A new class needs a name without braces that is not in use. -/
def checkName (registry : Registry) (name : String) : Except RegistrationError Unit :=
  if name.toList.any fun c => c = '{' || c = '}' then .error (.invalidClassName name)
  else if registry.contains name then .error (.duplicateClass name)
  else .ok ()

/-- The matcher of a definition under a name. -/
def matcherOf (registry : Registry) (name : String) :
    Definition → Except RegistrationError Matcher
  | .predicate accepts => .ok (.run (.custom accepts) 1 none)
  | .alternation [] => .error (.noAlternatives name)
  | .alternation patterns => (registry.compileAll patterns).map .alternation
  | .optional patterns => (registry.compileAll patterns).map fun all => .alternation (all ++ [[]])
  | .pattern pattern => (registry.compile pattern).map .pattern

/-- Add a class. The answer comes with the registry from then on, also where the class
cannot be added. -/
def addClass (registry : Registry) (name : String) (definition : Definition) :
    Except RegistrationError Unit × Registry :=
  match registry.checkName name with
  | .error error => (.error error, registry)
  | .ok () =>
      match registry.matcherOf name definition with
      | .error error => (.error error, registry)
      | .ok matcher => (.ok (), registry.insert name matcher)

/-- The registry with one more class, if this can be added. -/
def define (registry : Registry) (name : String) (definition : Definition) :
    Except RegistrationError Registry :=
  let (added, extended) := registry.addClass name definition
  added.map fun () => extended

/-- A name passes the check when it has no brace and no class goes by it. -/
theorem checkName_eq_ok_iff {registry : Registry} {name : String} :
    registry.checkName name = .ok () ↔
      '{' ∉ name.toList ∧ '}' ∉ name.toList ∧ registry.contains name = false := by
  unfold checkName
  split
  · grind
  · split <;> grind

/-- A definition succeeds when the name passes the check and the matcher can be
built, and then adds just this class. -/
theorem define_eq_ok_iff {registry extended : Registry} {name : String}
    {definition : Definition} :
    registry.define name definition = .ok extended ↔
      registry.checkName name = .ok () ∧
        ∃ matcher, registry.matcherOf name definition = .ok matcher ∧
          extended = registry.insert name matcher := by
  unfold define addClass
  cases checked : registry.checkName name <;>
    cases built : registry.matcherOf name definition <;>
    simp [Except.map, eq_comm]

/-- A class that cannot be added leaves the registry as it was. -/
theorem addClass_of_error {registry : Registry} {name : String} {definition : Definition}
    {error : RegistrationError} (fails : registry.define name definition = .error error) :
    registry.addClass name definition = (.error error, registry) := by
  unfold define at fails
  unfold addClass at fails ⊢
  cases checked : registry.checkName name with
  | error failure =>
      simp only [checked, Except.map, Except.error.injEq] at fails ⊢
      rw [fails]
  | ok passed =>
      cases built : registry.matcherOf name definition with
      | error failure =>
          simp only [checked, built, Except.map, Except.error.injEq] at fails ⊢
          rw [fails]
      | ok matcher => simp [checked, built, Except.map] at fails

/-- A class that is added makes the registry the one that it defines. -/
theorem addClass_of_ok {registry extended : Registry} {name : String} {definition : Definition}
    (defined : registry.define name definition = .ok extended) :
    registry.addClass name definition = (.ok (), extended) := by
  obtain ⟨checked, matcher, built, rfl⟩ := define_eq_ok_iff.mp defined
  simp only [addClass, checked, built]

end Registry

end PatternLexer
