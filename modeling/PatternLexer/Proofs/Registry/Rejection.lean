import PatternLexer.Proofs.Registry.Canonical

/-!
# Rejected patterns

A pattern splits from the left into segments (`Segment.Splits`). A registry accepts a
segment that is literal text without braces or the name of a known class between braces.
The first segment that it does not accept decides why the pattern is rejected, with the
offset in the pattern, whatever stands behind it (`sequenceOf_eq_error_iff`).
-/

namespace PatternLexer

open Text

theorem mapM_cons_eq_error_iff {ε α β : Type} {make : α → Except ε β} {first : α}
    {others : List α} {error : ε} :
    (first :: others).mapM make = .error error ↔
      make first = .error error ∨
        ∃ result, make first = .ok result ∧ others.mapM make = .error error := by
  rw [List.mapM_cons]
  cases make first with
  | error failure => simp [bind, Except.bind]
  | ok result =>
      cases others.mapM make <;> simp [bind, Except.bind, pure, Except.pure]

/-- What is made of a list fails with the first element of which nothing can be made. -/
theorem mapM_eq_error_iff {ε α β : Type} {make : α → Except ε β} {elements : List α} {error : ε} :
    elements.mapM make = .error error ↔
      ∃ before failing after, elements = before ++ failing :: after ∧
        (∀ earlier ∈ before, ∃ result, make earlier = .ok result) ∧
        make failing = .error error := by
  induction elements with
  | nil => simp [pure, Except.pure]
  | cons element elements ih =>
      rw [mapM_cons_eq_error_iff, ih]
      constructor
      · intro fails
        rcases fails with fails | ⟨result, made, before, failing, after, rfl, succeed, fails⟩
        · exact ⟨[], element, elements, rfl, by simp, fails⟩
        · exact ⟨element :: before, failing, after, rfl,
            List.forall_mem_cons.mpr ⟨⟨result, made⟩, succeed⟩, fails⟩
      · intro first
        rcases first with ⟨before, failing, after, split, succeed, fails⟩
        cases before with
        | nil =>
            cases split
            exact .inl fails
        | cons earlier before =>
            cases split
            rcases List.forall_mem_cons.mp succeed with ⟨⟨result, made⟩, succeed⟩
            exact .inr ⟨result, made, before, failing, after, rfl, succeed, fails⟩

theorem Registry.resolve_eq_error_iff {registry : Registry} {name : String} {error : PatternError} :
    registry.resolve name = .error error ↔
      registry.contains name = false ∧ error = .unknownClass name := by
  rw [resolve, contains]
  cases registry.find? name with
  | none => simp [eq_comm]
  | some matcher => simp

namespace Segment

/-- How a text that stands at an offset of a pattern splits into segments. What starts
with an opening brace ends at the next closing brace, and anything else goes on to the next
opening brace or to the end. -/
inductive Splits : (offset : Nat) → (text : List Char) → List Segment → Prop where
  | finish {offset : Nat} : Splits offset [] []
  | reference {offset : Nat} {name rest : List Char} {others : List Segment}
      (unclosed : '}' ∉ name) (further : Splits (offset + size name + 2) rest others) :
      Splits offset ('{' :: (name ++ '}' :: rest)) (.reference offset name :: others)
  | unclosed {offset : Nat} {rest : List Char} (unclosed : '}' ∉ rest) :
      Splits offset ('{' :: rest) [.unclosed offset rest]
  | literal {offset : Nat} {text rest : List Char} {others : List Segment}
      (nonempty : text ≠ []) (unopened : '{' ∉ text)
      (boundary : rest.head?.all (· = '{') = true)
      (further : Splits (offset + size text) rest others) :
      Splits offset (text ++ rest) (.literal offset text :: others)

/-- A registry accepts literal text without braces, and a name without braces that is that
of a class. -/
def Accepted (registry : Registry) : Segment → Prop
  | .literal _ text => '{' ∉ text ∧ '}' ∉ text
  | .reference _ name =>
      '{' ∉ name ∧ '}' ∉ name ∧ registry.contains (String.ofList name) = true
  | .unclosed _ _ => False

/-- Why a registry does not accept a segment: a brace is not closed, an opening brace stands
in a name, a class is not known, or a closing brace stands in literal text. Of several braces
the first one counts. -/
inductive Faulty (registry : Registry) : Segment → PatternError → Prop where
  | unclosed {offset : Nat} {text : List Char} :
      Faulty registry (.unclosed offset text) (.unclosedClass offset)
  | nested {offset : Nat} {before after : List Char} (first : '{' ∉ before) :
      Faulty registry (.reference offset (before ++ '{' :: after))
        (.unexpectedBrace (offset + 1 + size before))
  | unknown {offset : Nat} {name : List Char} (unopened : '{' ∉ name)
      (unknown : registry.contains (String.ofList name) = false) :
      Faulty registry (.reference offset name) (.unknownClass (String.ofList name))
  | stray {offset : Nat} {before after : List Char} (first : '}' ∉ before) :
      Faulty registry (.literal offset (before ++ '}' :: after))
        (.unexpectedBrace (offset + size before))

variable {registry : Registry} {segment : Segment} {segments : List Segment} {offset : Nat}
  {text : List Char} {error : PatternError}

/-- A text splits in one way, which reading it from the left finds. -/
theorem splits_iff : Splits offset text segments ↔ segmentsFrom 0 offset text = segments := by
  constructor
  · intro splits
    induction splits with
    | finish => rfl
    | reference unclosed _ ih => rw [segmentsFrom_reference unclosed, ih]
    | unclosed unclosed => exact segmentsFrom_unclosed unclosed _
    | literal nonempty unopened boundary _ ih =>
        rw [segmentsFrom_literal nonempty unopened boundary, ih]
  · intro read
    subst read
    induction text using Segment.induction generalizing offset with
    | nil => exact .finish
    | reference name rest unclosed ih =>
        rw [segmentsFrom_reference unclosed]
        exact .reference unclosed ih
    | unclosed rest unclosed =>
        rw [segmentsFrom_unclosed unclosed]
        exact .unclosed unclosed
    | literal text rest nonempty unopened boundary ih =>
        rw [segmentsFrom_literal nonempty unopened boundary]
        exact .literal nonempty unopened boundary ih

/-- A registry accepts just the segments that compile. -/
theorem Splits.accepted_iff (splits : Splits offset text segments) (member : segment ∈ segments) :
    segment.Accepted registry ↔ ∃ item, segment.compile registry = .ok item := by
  induction splits with
  | finish => cases member
  | reference unclosed _ ih =>
      rcases List.mem_cons.mp member with rfl | member
      · simp only [Accepted, unclosed, Registry.compile_reference_eq_ok_iff, Registry.contains,
          Option.isSome_iff_exists, not_false_eq_true, true_and]
        constructor
        · intro known
          rcases known with ⟨unopened, matcher, found⟩
          exact ⟨_, unopened, matcher, found, rfl⟩
        · intro compiles
          rcases compiles with ⟨item, unopened, matcher, found, -⟩
          exact ⟨unopened, matcher, found⟩
      · exact ih member
  | unclosed =>
      rw [List.mem_singleton.mp member]
      simp [Accepted, compile]
  | literal _ unopened _ _ ih =>
      rcases List.mem_cons.mp member with rfl | member
      · simp [Accepted, unopened, Registry.compile_literal_eq_ok_iff]
      · exact ih member

/-- A segment fails to compile for what is wrong with it. -/
theorem compile_eq_error_iff :
    segment.compile registry = .error error ↔ segment.Faulty registry error := by
  constructor
  · intro fails
    cases segment with
    | unclosed offset text =>
        cases fails
        exact .unclosed
    | reference offset name =>
        rw [compile] at fails
        cases nested : offset? '{' name with
        | some place =>
            rcases offset?_eq_some_iff.mp nested with ⟨before, after, rfl, first, rfl⟩
            rw [nested] at fails
            cases fails
            exact .nested first
        | none =>
            rw [nested] at fails
            cases resolved : registry.resolve (String.ofList name) with
            | ok matcher =>
                rw [resolved] at fails
                cases fails
            | error unresolved =>
                rcases Registry.resolve_eq_error_iff.mp resolved with ⟨unknown, rfl⟩
                rw [resolved] at fails
                cases fails
                exact .unknown (offset?_eq_none_iff.mp nested) unknown
    | literal offset text =>
        rw [compile] at fails
        cases stray : offset? '}' text with
        | some place =>
            rcases offset?_eq_some_iff.mp stray with ⟨before, after, rfl, first, rfl⟩
            rw [stray] at fails
            cases fails
            exact .stray first
        | none =>
            rw [stray] at fails
            cases fails
  · intro faulty
    cases faulty with
    | unclosed => rfl
    | @nested offset before after first =>
        have place : offset? '{' (before ++ '{' :: after) = some (size before) :=
          offset?_eq_some_iff.mpr ⟨before, after, rfl, first, rfl⟩
        rw [compile, place]
    | unknown unopened unknown =>
        have unresolved := Registry.resolve_eq_error_iff.mpr ⟨unknown, rfl⟩
        rw [compile, offset?_eq_none_iff.mpr unopened, unresolved]
        rfl
    | @stray offset before after first =>
        have place : offset? '}' (before ++ '}' :: after) = some (size before) :=
          offset?_eq_some_iff.mpr ⟨before, after, rfl, first, rfl⟩
        rw [compile, place]

end Segment

namespace Registry

/-- A pattern is rejected with an error just when this is what is wrong with the first of
its segments that is not accepted. The segments behind it may be any. -/
theorem sequenceOf_eq_error_iff (registry : Registry) (pattern : String) (error : PatternError) :
    registry.sequenceOf pattern = .error error ↔
      ∃ before segment after, Segment.Splits 0 pattern.toList (before ++ segment :: after) ∧
        (∀ earlier ∈ before, earlier.Accepted registry) ∧ ¬ segment.Accepted registry ∧
        segment.Faulty registry error := by
  rw [sequenceOf_eq_mapM, mapM_eq_error_iff]
  constructor
  · intro first
    rcases first with ⟨before, segment, after, split, succeed, fails⟩
    have splits : Segment.Splits 0 pattern.toList (before ++ segment :: after) :=
      Segment.splits_iff.mpr split
    refine ⟨before, segment, after, splits, ?_, ?_, Segment.compile_eq_error_iff.mp fails⟩
    · intro earlier member
      exact (splits.accepted_iff (List.mem_append_left _ member)).mpr (succeed earlier member)
    · intro accepted
      rcases (splits.accepted_iff (by simp)).mp accepted with ⟨item, compiles⟩
      rw [fails] at compiles
      cases compiles
  · intro first
    rcases first with ⟨before, segment, after, splits, accepted, -, faulty⟩
    refine ⟨before, segment, after, Segment.splits_iff.mp splits, ?_,
      Segment.compile_eq_error_iff.mpr faulty⟩
    intro earlier member
    exact (splits.accepted_iff (List.mem_append_left _ member)).mp (accepted earlier member)

-- The brace that is not closed counts, not the one inside the text behind it.
example : empty.sequenceOf "é\x7bword\x7d\x7ba\x7bb" = .error (.unclosedClass 8) := rfl

end Registry

end PatternLexer
