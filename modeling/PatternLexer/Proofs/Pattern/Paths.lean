import PatternLexer.Proofs.Pattern.References

/-!
# Paths down a tree of captures

A path goes from a token to one captured inside it, and on from there. Every step names the
class that the token is filed under. A token is filed on every level above it, so there are
paths that leave levels out; what holds on all paths holds on those that do not.

The captures of a match are those of its references, and so are the tokens on its paths
(`Path.exists_reference`).
-/

namespace PatternLexer

namespace Captures

/-- Tokens with the classes they are filed under, each captured inside the one before it. -/
inductive Path : Captures → List (String × Token) → Prop where
  | nil {captures : Captures} : Path captures []
  | cons {captures : Captures} {name : String} {token : Token} {below : List (String × Token)}
      (member : (name, token) ∈ captures) (path : Path token.captures below) :
      Path captures ((name, token) :: below)

/-- Whether there is a path along some classes. -/
def leadsTo : List String → Captures → Bool
  | [], _ => true
  | name :: names, captures =>
      captures.any fun (tag, token) => tag = name && leadsTo names token.captures

theorem exists_path_of_leadsTo {names : List String} {captures : Captures}
    (leads : captures.leadsTo names = true) :
    ∃ path, captures.Path path ∧ path.map (·.1) = names := by
  induction names generalizing captures with
  | nil => exact ⟨[], .nil, rfl⟩
  | cons name names ih =>
      simp only [leadsTo, List.any_eq_true, Bool.and_eq_true, decide_eq_true_eq] at leads
      obtain ⟨⟨tag, token⟩, member, rfl, further⟩ := leads
      obtain ⟨below, isPath, same⟩ := ih further
      exact ⟨(tag, token) :: below, .cons member isPath, by simp [same]⟩

/-- A pattern that compiles and matches, with a path in its match, can be found by running
both. -/
theorem exists_path_of_match? {ε : Type} {compiled : Except ε Sequence} {cursor : Cursor}
    {names : List String}
    (leads : (compiled.toOption.bind fun items => (cursor.match? items).1).any
      (fun found => found.captures.leadsTo names) = true) :
    ∃ items found next path, compiled = .ok items ∧
      cursor.match? items = (some found, next) ∧
        found.captures.Path path ∧ path.map (·.1) = names := by
  obtain ⟨found, read, leads⟩ := (Option.any_eq_true _ _).mp leads
  obtain ⟨items, present, read⟩ := Option.bind_eq_some_iff.mp read
  obtain ⟨path, isPath, same⟩ := exists_path_of_leadsTo leads
  have matched : cursor.match? items = (some found, (cursor.match? items).2) :=
    Prod.ext read rfl
  exact ⟨items, found, _, path, eq_ok_of_toOption_eq_some present, matched, isPath, same⟩

theorem exists_reference_of_mem {source : String} {forest : Forest} {name : String} {token : Token}
    (member : (name, token) ∈ forest.captures source) :
    ∃ reference ∈ forest.postOrder, reference.name = name ∧ reference.token source = token := by
  rw [Forest.captures_eq_map] at member
  obtain ⟨reference, inForest, same⟩ := List.mem_map.mp member
  cases same
  exact ⟨reference, inForest, rfl, rfl⟩

/-- The tokens on a path are those of references. -/
theorem Path.exists_reference {source : String} {forest : Forest} {captures : Captures}
    {path : List (String × Token)} {name : String} {token : Token} (isPath : captures.Path path)
    (same : captures = forest.captures source) (member : (name, token) ∈ path) :
    ∃ reference ∈ forest.postOrder, reference.name = name ∧ reference.token source = token := by
  induction isPath generalizing forest with
  | nil => cases member
  | @cons captures first outer below here _ ih =>
      subst same
      obtain ⟨reference, inForest, named, rfl⟩ := exists_reference_of_mem here
      cases member with
      | head => exact ⟨reference, inForest, named, rfl⟩
      | tail _ deeper =>
          obtain ⟨inside, inReference, found⟩ := ih (reference.captures_token source) deeper
          exact ⟨inside, Forest.mem_postOrder_of_inside inForest inReference, found⟩

end Captures

end PatternLexer
