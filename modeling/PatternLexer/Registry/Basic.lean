import PatternLexer.Builtin
import PatternLexer.Pattern.Error
import PatternLexer.Text.Order

/-!
# Class registries

A registry resolves class names to matchers: those of the predefined classes and
those of the classes defined by the user. The predefined ones come first, so none
of them can be shadowed.
-/

namespace PatternLexer

/-- The classes defined by the user, the latest first. -/
structure Registry where
  classes : List (String × Matcher) := []

namespace Registry

/-- A registry with the predefined classes only. -/
def empty : Registry := {}

/-- The matcher of a class, predefined or defined. -/
def find? (registry : Registry) (name : String) : Option Matcher :=
  match Builtin.ofName? name with
  | some builtin => some builtin.matcher
  | none => registry.classes.lookup name

/-- The matcher of a class, or the error that there is none. -/
def resolve (registry : Registry) (name : String) : Except PatternError Matcher :=
  match registry.find? name with
  | some matcher => .ok matcher
  | none => .error (.unknownClass name)

/-- Whether there is a class of this name, predefined or defined. -/
def contains (registry : Registry) (name : String) : Bool :=
  (registry.find? name).isSome

/-- The names of the defined classes, in order. -/
def sortedNames (registry : Registry) : List String :=
  Text.sorted (registry.classes.map (·.1))

/-- Add a class. -/
def insert (registry : Registry) (name : String) (matcher : Matcher) : Registry :=
  ⟨(name, matcher) :: registry.classes⟩

@[simp] theorem find?_builtin (registry : Registry) (builtin : Builtin) :
    registry.find? builtin.name = some builtin.matcher := by
  simp [find?]

theorem find?_insert (registry : Registry) (name other : String) (matcher : Matcher)
    (fresh : registry.contains name = false) :
    (registry.insert name matcher).find? other =
      if other = name then some matcher else registry.find? other := by
  unfold contains find? at fresh
  unfold find? insert
  by_cases same : other = name
  · subst same
    cases found : Builtin.ofName? other <;> simp_all
  · have different : (other == name) = false := by simpa using same
    simp [List.lookup_cons, different, same]

@[simp] theorem mem_sortedNames {registry : Registry} {name : String} :
    name ∈ registry.sortedNames ↔ ∃ matcher, (name, matcher) ∈ registry.classes := by
  simp [sortedNames]

end Registry

end PatternLexer
