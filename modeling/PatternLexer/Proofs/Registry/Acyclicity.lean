import PatternLexer.Proofs.Registry.Coherence

/-!
# Acyclic registries

A class is compiled before its name is known, so nothing inside its matcher, at any depth,
refers to it. This holds of all registries that come about by registrations
(`acyclic_registerAll`), since a class is never defined again.
-/

namespace PatternLexer

namespace Registry

variable {registry extended : Registry} {name : String} {matcher : Matcher}

/-- No class is referred to inside its own matcher, at any depth. -/
def Acyclic (registry : Registry) : Prop :=
  ∀ name matcher, registry.find? name = some matcher → matcher.Lacks name

/-- A definition keeps a registry acyclic: the new class is made of classes that were
known before its name. -/
theorem Acyclic.of_define {definition : Definition} (acyclic : registry.Acyclic)
    (coherent : registry.Coherent) (defined : registry.define name definition = .ok extended) :
    extended.Acyclic := by
  rcases find?_of_define defined with ⟨unknown, made, builds, finds⟩
  intro other matcher found
  rw [finds] at found
  split at found
  · rename_i same
    cases found
    subst same
    apply Matcher.Everywhere.mono _ (coherent.everywhere_of_builds builds)
    intro item makes
    exact makes.capture_ne unknown
  · exact acyclic other matcher found

theorem acyclic_empty : empty.Acyclic := fun _ _ found => everywhere_of_find?_empty found

theorem acyclic_registerAll (registrations : List (String × Definition)) :
    (empty.registerAll registrations).Acyclic := by
  let property (registry : Registry) : Prop := registry.Coherent ∧ registry.Acyclic
  have both : property (empty.registerAll registrations) := by
    apply registerAll_induction
    · intro registry extended name definition defined both
      exact ⟨both.1.of_define defined, both.2.of_define both.1 defined⟩
    · exact ⟨coherent_empty, acyclic_empty⟩
  exact both.2

end Registry

end PatternLexer
