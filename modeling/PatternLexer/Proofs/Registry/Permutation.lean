import Mathlib.Data.List.Sort
import PatternLexer.Proofs.Registry.Canonical

/-!
# Definitions in another order

A class is compiled when it is defined, so in another order the same definitions are
compiled in other registries. As long as all of them succeed this makes no difference: a
class keeps its meaning while the registry grows (`builds_of_defineAll`), so what has been
defined at any point of one order is known at the end of the other, with the same meaning
(`extends_of_builds`). The registries that two orders end with are alike
(`alike_of_defineAll_perm`).
-/

namespace PatternLexer

/-- The listing of names depends on which names there are, and on nothing else. -/
theorem Text.sorted_eq_of_mem_iff {first second : List String}
    (same : ∀ name, name ∈ first ↔ name ∈ second) : sorted first = sorted second := by
  apply List.Pairwise.eq_of_mem_iff (pairwise_sorted first) (pairwise_sorted second)
  intro name
  simpa using same name

namespace Registry

variable {registry extended other : Registry} {definitions : List (String × Definition)}
  {name : String} {definition : Definition} {matcher : Matcher}

/-- Define some classes in order. The first definition that fails ends this. -/
def defineAll (registry : Registry) :
    List (String × Definition) → Except RegistrationError Registry
  | [] => .ok registry
  | (name, definition) :: others =>
      match registry.define name definition with
      | .ok extended => extended.defineAll others
      | .error error => .error error

theorem defineAll_cons_eq_ok_iff {others : List (String × Definition)} :
    registry.defineAll ((name, definition) :: others) = .ok extended ↔
      ∃ next, registry.define name definition = .ok next ∧ next.defineAll others = .ok extended := by
  rw [defineAll]
  cases registry.define name definition with
  | error error => simp
  | ok next => simp

theorem Extends.compile_eq_ok {pattern : String} {items : Sequence}
    (known : registry.Extends extended) (compiled : registry.compile pattern = .ok items) :
    extended.compile pattern = .ok items := by
  obtain ⟨canonical, written⟩ := compile_eq_ok_iff.mp compiled
  exact compile_eq_ok_iff.mpr ⟨canonical.mono known, written⟩

theorem Extends.compileAll_eq_ok {patterns : List String} {alternatives : List Sequence}
    (known : registry.Extends extended)
    (compiled : registry.compileAll patterns = .ok alternatives) :
    extended.compileAll patterns = .ok alternatives := by
  induction patterns generalizing alternatives with
  | nil => exact compiled
  | cons pattern patterns ih =>
      obtain ⟨items, others, first, further, same⟩ := mapM_cons_eq_ok_iff.mp compiled
      apply mapM_cons_eq_ok_iff.mpr
      exact ⟨items, others, known.compile_eq_ok first, ih further, same⟩

/-- A definition builds the same matcher when more classes are known. -/
theorem Extends.builds (known : registry.Extends extended)
    (builds : registry.Builds definition matcher) : extended.Builds definition matcher := by
  cases builds with
  | predicate accepts => exact .predicate accepts
  | alternation nonempty compiled => exact .alternation nonempty (known.compileAll_eq_ok compiled)
  | optional compiled => exact .optional (known.compileAll_eq_ok compiled)
  | pattern compiled => exact .pattern (known.compile_eq_ok compiled)

/-- A definition builds one matcher at most. -/
theorem Builds.unique {another : Matcher} (builds : registry.Builds definition matcher)
    (also : registry.Builds definition another) : matcher = another := by
  -- The name only shows in errors, so any name will do.
  have built : registry.matcherOf "" definition = .ok matcher := matcherOf_eq_ok_iff.mpr builds
  have builtAlso : registry.matcherOf "" definition = .ok another := matcherOf_eq_ok_iff.mpr also
  rw [built] at builtAlso
  cases builtAlso
  rfl

theorem extends_of_defineAll (defined : registry.defineAll definitions = .ok extended) :
    registry.Extends extended := by
  induction definitions generalizing registry with
  | nil =>
      cases defined
      exact .refl _
  | cons first others ih =>
      obtain ⟨next, here, further⟩ := defineAll_cons_eq_ok_iff.mp defined
      exact (extends_of_define here).trans (ih further)

/-- In the end every class that was defined has the matcher that its definition would
build then. -/
theorem builds_of_defineAll (defined : registry.defineAll definitions = .ok extended)
    (member : (name, definition) ∈ definitions) :
    ∃ matcher, extended.find? name = some matcher ∧ extended.Builds definition matcher := by
  induction definitions generalizing registry with
  | nil => cases member
  | cons first others ih =>
      obtain ⟨next, here, further⟩ := defineAll_cons_eq_ok_iff.mp defined
      cases member with
      | head =>
          obtain ⟨-, matcher, builds, finds⟩ := find?_of_define here
          have behind := extends_of_defineAll further
          refine ⟨matcher, ?_, ?_⟩
          · apply behind
            rw [finds, if_pos rfl]
          · exact ((extends_of_define here).trans behind).builds builds
      | tail _ member => exact ih further member

/-- What definitions make of a registry is known in another one that knows the registry,
if it has all these classes with the matchers that their definitions build there. -/
theorem extends_of_builds (defined : registry.defineAll definitions = .ok extended)
    (known : registry.Extends other)
    (each : ∀ name definition, (name, definition) ∈ definitions →
      ∃ matcher, other.find? name = some matcher ∧ other.Builds definition matcher) :
    extended.Extends other := by
  induction definitions generalizing registry with
  | nil =>
      cases defined
      exact known
  | cons first others ih =>
      obtain ⟨next, here, further⟩ := defineAll_cons_eq_ok_iff.mp defined
      obtain ⟨-, matcher, builds, finds⟩ := find?_of_define here
      obtain ⟨another, found, buildsThere⟩ := each first.1 first.2 List.mem_cons_self
      have same : matcher = another := (known.builds builds).unique buildsThere
      apply ih further
      · intro name present lookup
        rw [finds] at lookup
        split at lookup
        · rename_i named
          cases lookup
          rw [named, found, same]
        · exact known name present lookup
      · intro name definition member
        exact each name definition (List.mem_cons_of_mem first member)

theorem find?_eq_of_extends (known : registry.Extends other) (back : other.Extends registry) :
    registry.find? = other.find? := by
  funext name
  apply Option.ext
  intro matcher
  constructor
  · exact known name matcher
  · exact back name matcher

/-- Whether a pattern compiles, and to what, depends on the lookup of classes alone. -/
theorem compile_congr (same : registry.find? = other.find?) : registry.compile = other.compile := by
  have resolves : registry.resolve = other.resolve := by
    funext name
    rw [resolve, resolve, same]
  have segments : Segment.compile registry = Segment.compile other := by
    funext segment
    cases segment <;> simp only [Segment.compile, resolves]
  funext pattern
  rw [compile, compile, sequenceOf_eq_mapM, sequenceOf_eq_mapM, segments]

theorem map_name_classes_of_defineAll (defined : registry.defineAll definitions = .ok extended) :
    extended.classes.map (·.1) = (definitions.map (·.1)).reverse ++ registry.classes.map (·.1) := by
  induction definitions generalizing registry with
  | nil =>
      cases defined
      rfl
  | cons first others ih =>
      obtain ⟨next, here, further⟩ := defineAll_cons_eq_ok_iff.mp defined
      obtain ⟨-, matcher, -, rfl⟩ := define_eq_ok_iff.mp here
      rw [ih further]
      simp [insert]

/-- Two registries that cannot be told apart by what they answer about classes: names
resolve to the same matchers, the same classes are defined, and patterns compile to the
same sequences or fail with the same errors. -/
structure Alike (registry other : Registry) : Prop where
  resolve_eq (name : String) : registry.resolve name = other.resolve name
  sortedNames_eq : registry.sortedNames = other.sortedNames
  compile_eq (pattern : String) : registry.compile pattern = other.compile pattern

/-- Definitions that all succeed in two orders lead to registries that are alike. -/
theorem alike_of_defineAll_perm {first second : List (String × Definition)}
    (reordered : first.Perm second) (defined : empty.defineAll first = .ok registry)
    (also : empty.defineAll second = .ok other) : registry.Alike other := by
  have known : registry.Extends other := by
    apply extends_of_builds defined (extends_of_defineAll also)
    intro name definition member
    exact builds_of_defineAll also (reordered.mem_iff.mp member)
  have back : other.Extends registry := by
    apply extends_of_builds also (extends_of_defineAll defined)
    intro name definition member
    exact builds_of_defineAll defined (reordered.mem_iff.mpr member)
  have same := find?_eq_of_extends known back
  constructor
  · intro name
    rw [resolve, resolve, same]
  · apply Text.sorted_eq_of_mem_iff
    intro name
    rw [map_name_classes_of_defineAll defined, map_name_classes_of_defineAll also]
    simp [reordered.mem_iff]
  · intro pattern
    rw [compile_congr same]

/-- Each of the two classes that are referred to may come first, and so may each of the two
that refer to them. -/
theorem alike_of_defineAll_perm_integer :
    ∃ registry other,
      empty.defineAll [("digit", .predicate Char.isDigit), ("sign", .alternation ["+", "-"]),
        ("integer", .pattern "{sign}{digit}"), ("list", .optional ["{digit},{digit}"])] =
          .ok registry ∧
      empty.defineAll [("sign", .alternation ["+", "-"]), ("digit", .predicate Char.isDigit),
        ("list", .optional ["{digit},{digit}"]), ("integer", .pattern "{sign}{digit}")] =
          .ok other ∧
      registry.Alike other := by
  have succeeds : (empty.defineAll [("digit", .predicate Char.isDigit),
      ("sign", .alternation ["+", "-"]), ("integer", .pattern "{sign}{digit}"),
      ("list", .optional ["{digit},{digit}"])]).toOption.isSome = true := by decide +kernel
  have succeedsToo : (empty.defineAll [("sign", .alternation ["+", "-"]),
      ("digit", .predicate Char.isDigit), ("list", .optional ["{digit},{digit}"]),
      ("integer", .pattern "{sign}{digit}")]).toOption.isSome = true := by decide +kernel
  obtain ⟨registry, present⟩ := Option.isSome_iff_exists.mp succeeds
  obtain ⟨other, presentToo⟩ := Option.isSome_iff_exists.mp succeedsToo
  have defined := eq_ok_of_toOption_eq_some present
  have also := eq_ok_of_toOption_eq_some presentToo
  refine ⟨registry, other, defined, also, alike_of_defineAll_perm ?_ defined also⟩
  apply List.Perm.trans (List.Perm.swap _ _ _)
  exact ((List.Perm.swap _ _ []).cons _).cons _

end Registry

end PatternLexer
