import PatternLexer.Proofs.Pattern.DocumentOrder
import PatternLexer.Proofs.Pattern.Paths
import PatternLexer.Proofs.Registry.Snapshots

/-!
# How deep captures nest

A class refers to predefined classes and to classes that were registered before it, so on a
path down the captures of a match the classes become older with every step. A predefined
class captures nothing, so it only stands at the end. A path therefore is no longer than
there are classes, and one more for the predefined one (`Captures.Path.descends`).

Main statement: `snapshots_registerAll`, with what the matchers of a history say about each
other.
-/

namespace PatternLexer

open Registry

/-- Behind a class that has something inside stand predefined classes and classes that were
registered before it. -/
def Registry.Above (registrations : List (String × Definition)) (outer inner : String) : Prop :=
  Builtin.ofName? outer = none ∧
    (Builtin.ofName? inner = none → RegisteredBefore registrations inner outer)

/-- What holds of the tokens on a path: their classes become older with every step and none
comes twice, predefined classes capture nothing, and there are no more tokens than classes,
and one more. -/
structure Captures.Descends (registrations : List (String × Definition))
    (path : List (String × Token)) : Prop where
  decreasing : ((path.map (·.1)).filter fun name => (Builtin.ofName? name).isNone).Pairwise
    fun outer inner => RegisteredBefore registrations inner outer
  nodup : (path.map (·.1)).Nodup
  captures_builtin : ∀ builtin token, (Builtin.name builtin, token) ∈ path → token.captures = []
  length_le : path.length ≤ (empty.registerAll registrations).sortedNames.length + 1

section Names

variable {registrations : List (String × Definition)} {names : List String}

theorem Registry.Above.ne {outer inner : String} (above : Above registrations outer inner) :
    outer ≠ inner := by
  rintro rfl
  exact (above.2 above.1).ne rfl

theorem nodup_of_above (above : names.Pairwise (Above registrations)) : names.Nodup :=
  above.imp Above.ne

theorem pairwise_registeredBefore (above : names.Pairwise (Above registrations)) :
    (names.filter fun name => (Builtin.ofName? name).isNone).Pairwise fun outer inner =>
      RegisteredBefore registrations inner outer := by
  apply (above.filter _).imp_of_mem
  intro outer inner _ member before
  apply before.2
  simpa using (List.mem_filter.mp member).2

/-- All names but the last are names of classes that are held. -/
theorem length_le_of_above (above : names.Pairwise (Above registrations))
    (known : ∀ name ∈ names, Builtin.ofName? name = none →
      name ∈ (empty.registerAll registrations).sortedNames) :
    names.length ≤ (empty.registerAll registrations).sortedNames.length + 1 := by
  cases names.eq_nil_or_concat with
  | inl nothing => simp [nothing]
  | inr ends =>
      obtain ⟨others, last, rfl⟩ := ends
      rw [List.concat_eq_append] at *
      obtain ⟨apart, -, older⟩ := List.pairwise_append.mp above
      have held : others ⊆ (empty.registerAll registrations).sortedNames := by
        intro name member
        apply known name (List.mem_append_left _ member)
        exact (older name member last (List.mem_singleton_self last)).1
      have fewer := (nodup_of_above apart).length_le_of_subset held
      simp only [List.length_append, List.length_singleton]
      omega

end Names

section Paths

variable {registrations : List (String × Definition)} {forest : Forest} {reference : Reference}

/-- What stands inside a predefined class, or inside one that is held. -/
theorem Reference.From.above (comes : reference.From (empty.registerAll registrations).Makes) :
    (∀ inner ∈ Forest.postOrder reference.inside, Above registrations reference.name inner.name) ∧
      (Builtin.ofName? reference.name = none →
        reference.name ∈ (empty.registerAll registrations).sortedNames) ∧
      ((Builtin.ofName? reference.name).isSome → reference.inside = []) := by
  obtain ⟨matcher, cursor, found, -, inside⟩ := comes
  rcases builtin_or_mem_of_find? found with ⟨builtin, named, rfl⟩ | ⟨unnamed, held⟩
  · have nothing : reference.inside = [] := by
      rw [inside]
      cases builtin <;> rfl
    rw [nothing]
    refine ⟨by simp, ?_, fun _ => rfl⟩
    intro unnamed
    rw [unnamed] at named
    cases named
  · refine ⟨?_, fun _ => mem_sortedNames.mpr ⟨matcher, held⟩, ?_⟩
    · rw [inside]
      intro inner member
      obtain ⟨_, _, older, -⟩ :=
        Matcher.from_references matcher cursor (everywhere_registeredBefore held) inner member
      refine ⟨unnamed, fun user => (older inner.name rfl).resolve_left ?_⟩
      simp [user]
    · intro named
      simp [unnamed] at named

/-- On a path every class is above all that follow. -/
theorem Captures.Path.pairwise_above {source : String} {captures : Captures}
    {path : List (String × Token)} (isPath : captures.Path path)
    (same : captures = forest.captures source)
    (comes : ∀ reference ∈ forest.postOrder,
      reference.From (empty.registerAll registrations).Makes) :
    (path.map (·.1)).Pairwise (Above registrations) := by
  induction isPath generalizing forest with
  | nil => exact .nil
  | @cons captures name token below member isPath ih =>
      subst same
      obtain ⟨reference, inForest, rfl, rfl⟩ := exists_reference_of_mem member
      have inside := reference.captures_token source
      have further := ih inside fun inner deeper =>
        comes inner (Forest.mem_postOrder_of_inside inForest deeper)
      refine List.pairwise_cons.mpr ⟨?_, further⟩
      intro inner named
      obtain ⟨⟨tag, token⟩, onPath, rfl⟩ := List.mem_map.mp named
      obtain ⟨deeper, inReference, rfl, -⟩ := isPath.exists_reference inside onPath
      exact (comes reference inForest).above.1 deeper inReference

theorem Captures.Path.descends {source : String} {captures : Captures}
    {path : List (String × Token)} (isPath : captures.Path path)
    (same : captures = forest.captures source)
    (comes : ∀ reference ∈ forest.postOrder,
      reference.From (empty.registerAll registrations).Makes) :
    Captures.Descends registrations path := by
  have above := isPath.pairwise_above same comes
  constructor
  · exact pairwise_registeredBefore above
  · exact nodup_of_above above
  · intro builtin token member
    obtain ⟨reference, inForest, named, rfl⟩ := isPath.exists_reference same member
    have leaf := (comes reference inForest).above.2.2
    rw [named, Builtin.ofName?_name] at leaf
    rw [Reference.captures_token, leaf rfl, Forest.captures_nil]
  · rw [← List.length_map (·.1)]
    apply length_le_of_above above
    intro name named
    obtain ⟨⟨tag, token⟩, onPath, rfl⟩ := List.mem_map.mp named
    obtain ⟨reference, inForest, rfl, -⟩ := isPath.exists_reference same onPath
    exact (comes reference inForest).above.2.1

end Paths

/-- In a history of registrations all matchers agree. What an item holds for a class, inside
the classes or in a pattern compiled at some earlier moment, is what the class resolves to in
the end, and a class refers only to predefined ones and to those registered before it. So the
captures of a match of such a pattern nest along ever older classes. -/
theorem Registry.snapshots_registerAll (earlier later : List (String × Definition)) :
    (∀ name matcher, (name, matcher) ∈ (empty.registerAll (earlier ++ later)).classes →
      matcher.Everywhere (empty.registerAll (earlier ++ later)).Resolves ∧
        matcher.Lacks name ∧
        matcher.Everywhere fun item => ∀ inner, item.capture = some inner →
          (Builtin.ofName? inner).isSome ∨ RegisteredBefore (earlier ++ later) inner name) ∧
    ∀ pattern items, (empty.registerAll earlier).compile pattern = .ok items →
      Sequence.Everywhere (empty.registerAll (earlier ++ later)).Resolves items ∧
        ∀ (cursor next : Cursor) (found : Match), cursor.match? items = (some found, next) →
          ∀ path, found.captures.Path path → Captures.Descends earlier path := by
  constructor
  · intro name matcher held
    refine ⟨everywhere_resolves_of_mem held, ?_, everywhere_registeredBefore held⟩
    exact acyclic_registerAll (earlier ++ later) name matcher (find?_of_mem held)
  · intro pattern items compiled
    refine ⟨everywhere_resolves_of_compile compiled, ?_⟩
    intro cursor next found matched path isPath
    have made := (coherent_registerAll earlier).everywhere_of_compile compiled
    obtain ⟨last, scanned⟩ := Cursor.scanItems_of_match? matched
    have tagged := Sequence.Everywhere.mono Cursor.wellTagged_of_makes made
    apply isPath.descends (Sequence.captures_scanItems items tagged scanned)
    exact Sequence.from_references items cursor.save made

/-- The path through both classes and down to a word is as long as a path can be. -/
theorem Registry.snapshots_registerAll_entry :
    ∃ items found next path,
      (empty.registerAll [("pair", .pattern "{word}:{word}"),
        ("entry", .alternation ["{pair};", "{pair}"])]).compile "{entry}" = .ok items ∧
      (Cursor.start "a:b").match? items = (some found, next) ∧
      found.captures.Path path ∧ path.map (·.1) = ["entry", "pair", "word"] ∧
      Captures.Descends [("pair", .pattern "{word}:{word}"),
        ("entry", .alternation ["{pair};", "{pair}"])] path := by
  have leads : (((empty.registerAll [("pair", .pattern "{word}:{word}"),
      ("entry", .alternation ["{pair};", "{pair}"])]).compile "{entry}").toOption.bind
    fun items => ((Cursor.start "a:b").match? items).1).any
      (fun found => found.captures.leadsTo ["entry", "pair", "word"]) = true := by decide +kernel
  obtain ⟨items, found, next, path, compiled, matched, isPath, names⟩ :=
    Captures.exists_path_of_match? leads
  exact ⟨items, found, next, path, compiled, matched, isPath, names,
    ((snapshots_registerAll _ []).2 _ items compiled).2 _ _ found matched path isPath⟩

end PatternLexer
