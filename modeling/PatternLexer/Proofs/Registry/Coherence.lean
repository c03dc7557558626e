import PatternLexer.Proofs.Pattern.Everywhere
import PatternLexer.Proofs.Registry.Canonical

/-!
# Coherent registries

A registry is coherent when every item inside its matchers is as it would be compiled
now: literal text, or a reference with the matcher of its class. Every registry that
comes about by registrations is coherent (`coherent_registerAll`), since classes are
never defined again, and so is every sequence that is compiled in one
(`Coherent.everywhere_of_compile`).
-/

namespace PatternLexer

namespace Registry

variable {registry extended : Registry} {name : String} {items : Sequence}

/-- An item as compilation makes it: literal text, or a reference with the matcher of
its class. -/
def Makes (registry : Registry) : Item → Prop
  | ⟨matcher, none⟩ => ∃ text, matcher = .literal text
  | ⟨matcher, some name⟩ => registry.find? name = some matcher

/-- What compilation makes does not refer to a class that is not known. -/
theorem Makes.capture_ne {item : Item} (makes : registry.Makes item)
    (unknown : registry.find? name = none) : item.capture ≠ some name := by
  rcases item with ⟨matcher, capture⟩
  intro named
  subst named
  rw [Makes, unknown] at makes
  cases makes

/-- Every item inside a matcher of the registry is as compilation makes it. -/
def Coherent (registry : Registry) : Prop :=
  ∀ name matcher, registry.find? name = some matcher → matcher.Everywhere registry.Makes

theorem Extends.makes (known : registry.Extends extended) (item : Item)
    (makes : registry.Makes item) : extended.Makes item := by
  rcases item with ⟨matcher, capture⟩
  cases capture with
  | none => exact makes
  | some name => exact known name matcher makes

theorem Coherent.everywhere_of_canonical (coherent : registry.Coherent)
    (canonical : registry.Canonical items) : Sequence.Everywhere registry.Makes items := by
  induction canonical with
  | nil => trivial
  | literal _ _ _ _ _ ih => exact ⟨⟨_, rfl⟩, trivial, ih⟩
  | reference _ _ found _ ih => exact ⟨found, coherent _ _ found, ih⟩

/-- In a coherent registry every item of a compiled pattern, at any depth, is as
compilation makes it. -/
theorem Coherent.everywhere_of_compile (coherent : registry.Coherent) {pattern : String}
    (compiled : registry.compile pattern = .ok items) :
    Sequence.Everywhere registry.Makes items :=
  coherent.everywhere_of_canonical (compile_eq_ok_iff.mp compiled).1

theorem Coherent.eachEverywhere_of_compileAll (coherent : registry.Coherent)
    {patterns : List String} {alternatives : List Sequence}
    (compiled : registry.compileAll patterns = .ok alternatives) :
    Sequence.EachEverywhere registry.Makes alternatives := by
  induction patterns generalizing alternatives with
  | nil =>
      cases compiled
      trivial
  | cons pattern patterns ih =>
      rcases mapM_cons_eq_ok_iff.mp compiled with ⟨items, others, first, further, rfl⟩
      exact ⟨coherent.everywhere_of_compile first, ih further⟩

/-- The matcher of a new class is made of what compilation makes. -/
theorem Coherent.everywhere_of_builds (coherent : registry.Coherent) {definition : Definition}
    {matcher : Matcher} (builds : registry.Builds definition matcher) :
    matcher.Everywhere registry.Makes := by
  cases builds with
  | predicate accepts => trivial
  | alternation _ compiled => exact coherent.eachEverywhere_of_compileAll compiled
  | optional compiled =>
      apply Sequence.eachEverywhere_iff.mpr
      intro items member
      rcases List.mem_append.mp member with compiles | empty
      · exact Sequence.eachEverywhere_iff.mp (coherent.eachEverywhere_of_compileAll compiled)
          items compiles
      · rw [List.mem_singleton.mp empty]
        trivial
  | pattern compiled => exact coherent.everywhere_of_compile compiled

/-- A definition keeps a registry coherent. -/
theorem Coherent.of_define {definition : Definition} (coherent : registry.Coherent)
    (defined : registry.define name definition = .ok extended) : extended.Coherent := by
  rcases find?_of_define defined with ⟨-, made, built, finds⟩
  intro other matcher found
  rw [finds] at found
  apply Matcher.Everywhere.mono (extends_of_define defined).makes
  split at found
  · cases found
    exact coherent.everywhere_of_builds built
  · exact coherent other matcher found

/-- Predefined classes have no items inside them. -/
theorem everywhere_of_find?_empty {property : Item → Prop} {matcher : Matcher}
    (found : empty.find? name = some matcher) : matcher.Everywhere property := by
  cases named : Builtin.ofName? name with
  | none => simp [find?, empty, named] at found
  | some builtin =>
      simp only [find?, named, Option.some.injEq] at found
      subst found
      cases builtin <;> trivial

theorem coherent_empty : empty.Coherent := fun _ _ found => everywhere_of_find?_empty found

theorem coherent_registerAll (registrations : List (String × Definition)) :
    (empty.registerAll registrations).Coherent :=
  registerAll_induction (fun defined coherent => coherent.of_define defined) coherent_empty
    registrations

end Registry

end PatternLexer
