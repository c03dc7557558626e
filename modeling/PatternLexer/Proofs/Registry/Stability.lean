import PatternLexer.Proofs.Registry.Rejection
import PatternLexer.Proofs.Registry.Snapshots

/-!
# Patterns while the registry grows

A class that is known keeps its matcher, and errors are found from the left. So a pattern
that compiles goes on to compile to the same items, and one that does not compile fails in
the same way as long as the class is missing that it failed for, if it was one
(`Extends.keeps`). A class that is defined later has no influence on a pattern of which an
earlier part is wrong.

Main statement: `stable_registerAll`, for all registrations.
-/

namespace PatternLexer

variable {registry : Registry} {segment : Segment} {error : PatternError}

/-- What is wrong with a segment stays wrong, unless it is a name that has become known. -/
theorem Segment.Faulty.kept (faulty : segment.Faulty registry error) (extended : Registry) :
    segment.Faulty extended error ∨
      ∃ name, error = .unknownClass name ∧ extended.contains name = true := by
  cases faulty with
  | unclosed => exact .inl .unclosed
  | nested first => exact .inl (.nested first)
  | stray first => exact .inl (.stray first)
  | @unknown offset name unopened unknown =>
      cases known : extended.contains (String.ofList name) with
      | true => exact .inr ⟨_, rfl, known⟩
      | false => exact .inl (.unknown unopened known)

namespace Registry

variable {extended : Registry} {registrations : List (String × Definition)} {name : String}
  {matcher : Matcher} {definition : Definition}

/-- What becomes of patterns in a second registry: items stay as they are, and so do errors,
unless they are about a class that is known there. -/
structure Keeps (registry extended : Registry) : Prop where
  items (pattern : String) (items : Sequence) :
    registry.sequenceOf pattern = .ok items → extended.sequenceOf pattern = .ok items
  error (pattern : String) (error : PatternError) :
    registry.sequenceOf pattern = .error error →
      extended.sequenceOf pattern = .error error ∨
        ∃ name, error = .unknownClass name ∧ extended.contains name = true

theorem Extends.segment_compile_eq_ok (known : registry.Extends extended) {item : Item}
    (compiled : segment.compile registry = .ok item) : segment.compile extended = .ok item := by
  cases segment with
  | unclosed offset text => cases compiled
  | literal offset text => exact compiled
  | reference offset name =>
      rw [compile_reference_eq_ok_iff] at compiled ⊢
      obtain ⟨unopened, matcher, found, same⟩ := compiled
      exact ⟨unopened, matcher, known _ _ found, same⟩

theorem Extends.keeps (known : registry.Extends extended) : registry.Keeps extended := by
  constructor
  · intro pattern items compiled
    obtain ⟨canonical, written⟩ := sequenceOf_eq_ok_iff.mp compiled
    exact sequenceOf_eq_ok_iff.mpr ⟨canonical.mono known, written⟩
  · intro pattern error fails
    rw [sequenceOf_eq_mapM, mapM_eq_error_iff] at fails
    obtain ⟨before, failing, after, split, succeed, fails⟩ := fails
    apply ((Segment.compile_eq_error_iff.mp fails).kept extended).imp_left
    intro faulty
    rw [sequenceOf_eq_mapM, mapM_eq_error_iff]
    refine ⟨before, failing, after, split, ?_, Segment.compile_eq_error_iff.mpr faulty⟩
    intro earlier member
    obtain ⟨item, compiled⟩ := succeed earlier member
    exact ⟨item, known.segment_compile_eq_ok compiled⟩

/-- A definition makes its name known and has no influence on others. -/
theorem resolve_register_of_ok (defined : registry.define name definition = .ok extended) :
    registry.resolve name = .error (.unknownClass name) ∧
      (∃ matcher, (registry.register name definition).resolve name = .ok matcher) ∧
      ∀ other, other ≠ name →
        (registry.register name definition).resolve other = registry.resolve other := by
  obtain ⟨unknown, matcher, -, finds⟩ := find?_of_define defined
  rw [register_of_define defined]
  refine ⟨?_, ⟨matcher, ?_⟩, ?_⟩
  · rw [resolve, unknown]
  · rw [resolve, finds, if_pos rfl]
  · intro other different
    rw [resolve, finds, if_neg different, resolve]

/-- A class that is held passed the check of its name when it was registered. -/
theorem name_of_mem (member : (name, matcher) ∈ (empty.registerAll registrations).classes) :
    '{' ∉ name.toList ∧ '}' ∉ name.toList ∧ Builtin.ofName? name = none := by
  obtain ⟨before, definition, extended, after, -, defined, -⟩ :=
    exists_builds_of_mem member List.not_mem_nil
  obtain ⟨checked, -⟩ := define_eq_ok_iff.mp defined
  obtain ⟨unopened, unclosed, fresh⟩ := checkName_eq_ok_iff.mp checked
  refine ⟨unopened, unclosed, ?_⟩
  cases named : Builtin.ofName? name with
  | none => rfl
  | some builtin => simp [contains, find?, named] at fresh

/-- Whatever is registered: further registrations keep what patterns compile to and why they
fail, a registration that fails changes no name, one that succeeds makes its own name known and
changes no other, and no class that is held has a brace in its name or the name of a predefined
class. -/
theorem stable_registerAll (registrations : List (String × Definition)) :
    let registry := empty.registerAll registrations
    (∀ later, registry.Keeps (registry.registerAll later)) ∧
    (∀ name definition error, registry.define name definition = .error error →
      ∀ other, (registry.register name definition).resolve other = registry.resolve other) ∧
    (∀ name definition extended, registry.define name definition = .ok extended →
      registry.resolve name = .error (.unknownClass name) ∧
      (∃ matcher, (registry.register name definition).resolve name = .ok matcher) ∧
      ∀ other, other ≠ name →
        (registry.register name definition).resolve other = registry.resolve other) ∧
    ∀ name matcher, (name, matcher) ∈ registry.classes →
      '{' ∉ name.toList ∧ '}' ∉ name.toList ∧ Builtin.ofName? name = none := by
  intro registry
  refine ⟨?_, ?_, ?_, ?_⟩
  · intro later
    exact (extends_registerAll registry later).keeps
  · intro name definition error fails other
    rw [register_of_error fails]
  · intro name definition extended defined
    exact resolve_register_of_ok defined
  · intro name matcher member
    exact name_of_mem member

/-- The stray brace is found before the class behind it is looked up. The second definition of
a class fails and does not replace the first one. -/
theorem stable_registerAll_sign :
    let registry := empty.registerAll [("digit", .predicate Char.isDigit)]
    let extended := registry.registerAll [("digit", .pattern "0"), ("sign", .alternation ["-"])]
    registry.sequenceOf "\x7bdigit\x7d\x7d\x7bsign\x7d" = .error (.unexpectedBrace 7) ∧
      extended.sequenceOf "\x7bdigit\x7d\x7d\x7bsign\x7d" = .error (.unexpectedBrace 7) ∧
      registry.define "digit" (.pattern "0") = .error (.duplicateClass "digit") ∧
      (registry.register "digit" (.pattern "0")).resolve "digit" = registry.resolve "digit" ∧
      (∃ matcher, (registry.register "sign" (.alternation ["-"])).resolve "sign" = .ok matcher) ∧
      registry.classes.map (·.1) = ["digit"] ∧ Builtin.ofName? "digit" = none := by
  intro registry extended
  obtain ⟨keeps, fails, succeeds, held⟩ :=
    stable_registerAll [("digit", .predicate Char.isDigit)]
  have stray : registry.sequenceOf "\x7bdigit\x7d\x7d\x7bsign\x7d" =
      .error (.unexpectedBrace 7) := rfl
  have duplicate : registry.define "digit" (.pattern "0") = .error (.duplicateClass "digit") := rfl
  refine ⟨stray, ?_, duplicate, ?_, ?_, rfl, ?_⟩
  · rcases (keeps _).error _ _ stray with kept | ⟨name, other, -⟩
    · exact kept
    · cases other
  · exact fails "digit" (.pattern "0") _ duplicate "digit"
  · obtain ⟨-, known, -⟩ := succeeds "sign" (.alternation ["-"]) _ rfl
    exact known
  · exact (held "digit" _ List.mem_cons_self).2.2

end Registry

end PatternLexer
