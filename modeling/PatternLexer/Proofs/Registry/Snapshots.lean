import PatternLexer.Proofs.Registry.Acyclicity
import PatternLexer.Proofs.Registry.Permutation

/-!
# Matchers as snapshots

Compiling a reference puts the matcher of its class into the sequence, as it is at this
moment. It is still the matcher of the class at every later moment, since no definition
replaces another one (`everywhere_resolves_of_mem`, `everywhere_resolves_of_compile`).

Each class that is held was built when it was registered (`exists_builds_of_mem`), from the
classes that were there already. So its matcher refers to predefined classes and to classes
that were registered before it (`everywhere_registeredBefore`). No class was there before
itself (`RegisteredBefore.ne`).
-/

namespace PatternLexer

namespace Registry

variable {registry : Registry} {registrations earlier later : List (String × Definition)}
  {name inner outer : String} {matcher : Matcher}

/-- The matcher of an item that stands for a class is what its name resolves to. -/
def Resolves (registry : Registry) (item : Item) : Prop :=
  ∀ name, item.capture = some name → registry.resolve name = .ok item.matcher

/-- The class `inner` was there already when the class `outer` was registered. -/
def RegisteredBefore (registrations : List (String × Definition)) (inner outer : String) : Prop :=
  ∃ before definition extended after, registrations = before ++ (outer, definition) :: after ∧
    (empty.registerAll before).define outer definition = .ok extended ∧
      inner ∈ (empty.registerAll before).sortedNames

theorem Makes.resolves (item : Item) (makes : registry.Makes item) : registry.Resolves item := by
  obtain ⟨matcher, capture⟩ := item
  intro name named
  cases named
  exact resolve_eq_ok_iff.mpr makes

theorem registerAll_append (registry : Registry) (earlier later : List (String × Definition)) :
    registry.registerAll (earlier ++ later) = (registry.registerAll earlier).registerAll later := by
  induction earlier generalizing registry with
  | nil => rfl
  | cons registration others ih => exact ih _

theorem classes_of_define {extended : Registry} {definition : Definition}
    (defined : registry.define name definition = .ok extended) :
    ∃ matcher, registry.Builds definition matcher ∧
      extended.classes = (name, matcher) :: registry.classes := by
  obtain ⟨-, matcher, built, rfl⟩ := define_eq_ok_iff.mp defined
  exact ⟨matcher, matcherOf_eq_ok_iff.mp built, rfl⟩

/-- Each class that is held was built when it was registered. -/
theorem exists_builds_of_mem (member : (name, matcher) ∈ (registry.registerAll registrations).classes)
    (absent : (name, matcher) ∉ registry.classes) :
    ∃ before definition extended after, registrations = before ++ (name, definition) :: after ∧
      (registry.registerAll before).define name definition = .ok extended ∧
        (registry.registerAll before).Builds definition matcher := by
  induction registrations generalizing registry with
  | nil => exact absurd member absent
  | cons registration others ih =>
      obtain ⟨first, definition⟩ := registration
      by_cases here : (name, matcher) ∈ (registry.register first definition).classes
      · cases defined : registry.define first definition with
        | error error =>
            rw [register_of_error defined] at here
            exact absurd here absent
        | ok extended =>
            obtain ⟨built, builds, classes⟩ := classes_of_define defined
            rw [register_of_define defined, classes] at here
            cases here with
            | head => exact ⟨[], definition, extended, others, rfl, defined, builds⟩
            | tail _ held => exact absurd held absent
      · obtain ⟨before, made, extended, after, split, defined, builds⟩ := ih member here
        refine ⟨(first, definition) :: before, made, extended, after, ?_, defined, builds⟩
        rw [split, List.cons_append]

/-- A class that is held is found under its name. -/
theorem find?_of_mem (member : (name, matcher) ∈ (empty.registerAll registrations).classes) :
    (empty.registerAll registrations).find? name = some matcher := by
  obtain ⟨before, definition, extended, after, rfl, defined, builds⟩ :=
    exists_builds_of_mem member (List.not_mem_nil)
  obtain ⟨-, made, built, finds⟩ := find?_of_define defined
  have known := extends_registerAll extended after
  rw [registerAll_append, registerAll_cons, register_of_define defined]
  apply known
  rw [finds, if_pos rfl, builds.unique built]

/-- What is found is predefined or held. -/
theorem builtin_or_mem_of_find? (found : registry.find? name = some matcher) :
    (∃ builtin, Builtin.ofName? name = some builtin ∧ matcher = builtin.matcher) ∨
      (Builtin.ofName? name = none ∧ (name, matcher) ∈ registry.classes) := by
  cases named : Builtin.ofName? name with
  | some builtin =>
      simp only [find?, named, Option.some.injEq] at found
      exact .inl ⟨builtin, rfl, found.symm⟩
  | none =>
      simp only [find?, named] at found
      obtain ⟨newer, older, split, -⟩ := List.lookup_eq_some_iff.mp found
      exact .inr ⟨rfl, by simp [split]⟩

theorem everywhere_resolves_of_mem
    (member : (name, matcher) ∈ (empty.registerAll registrations).classes) :
    matcher.Everywhere (empty.registerAll registrations).Resolves :=
  Matcher.Everywhere.mono Makes.resolves
    (coherent_registerAll registrations name matcher (find?_of_mem member))

/-- What was compiled at an earlier moment holds the matchers of now. -/
theorem everywhere_resolves_of_compile {pattern : String} {items : Sequence}
    (compiled : (empty.registerAll earlier).compile pattern = .ok items) :
    Sequence.Everywhere (empty.registerAll (earlier ++ later)).Resolves items := by
  have made := (coherent_registerAll earlier).everywhere_of_compile compiled
  apply Sequence.Everywhere.mono _ made
  intro item makes
  apply Makes.resolves
  rw [registerAll_append]
  exact (extends_registerAll (empty.registerAll earlier) later).makes item makes

theorem contains_of_mem_sortedNames
    (member : name ∈ (empty.registerAll registrations).sortedNames) :
    (empty.registerAll registrations).contains name = true := by
  obtain ⟨matcher, held⟩ := mem_sortedNames.mp member
  rw [contains, find?_of_mem held]
  rfl

/-- No class was there before it was registered. -/
theorem RegisteredBefore.ne (before : RegisteredBefore registrations inner outer) :
    inner ≠ outer := by
  obtain ⟨first, definition, extended, others, -, defined, known⟩ := before
  obtain ⟨unknown, -⟩ := find?_of_define defined
  rintro rfl
  have contained := contains_of_mem_sortedNames known
  simp [contains, unknown] at contained

/-- A class refers, at any depth, to predefined classes and to those registered before it. -/
theorem everywhere_registeredBefore
    (member : (name, matcher) ∈ (empty.registerAll registrations).classes) :
    matcher.Everywhere fun item => ∀ inner, item.capture = some inner →
      (Builtin.ofName? inner).isSome ∨ RegisteredBefore registrations inner name := by
  obtain ⟨before, definition, extended, after, split, defined, builds⟩ :=
    exists_builds_of_mem member List.not_mem_nil
  apply Matcher.Everywhere.mono _ ((coherent_registerAll before).everywhere_of_builds builds)
  intro item makes inner named
  obtain ⟨made, capture⟩ := item
  cases named
  rcases builtin_or_mem_of_find? makes with ⟨builtin, found, -⟩ | ⟨-, held⟩
  · left
    rw [found]
    rfl
  · right
    exact ⟨before, definition, extended, after, split, defined, mem_sortedNames.mpr ⟨_, held⟩⟩

end Registry

end PatternLexer
