import PatternLexer.Proofs.Pattern.Concatenation
import PatternLexer.Proofs.Registry.Coherence

/-!
# Inlining classes

A class that was defined by a pattern can be replaced by this pattern wherever it is
referred to: the same texts match, with the same spans. Where the pattern stands in
place of the reference its literals may become one with those around it, and nothing
is captured under the class any more; all other captures stay (`match?_inline`).
-/

namespace PatternLexer

open Text

mutual

/-- Without references to a class there are no captures under it. -/
theorem Matcher.ofClass_captured {name : String} (source : String) (matcher : Matcher) (place : Place)
    (absent : matcher.Lacks name) :
    Captures.ofClass name (matcher.captured source place) = [] := by
  cases matcher with
  | literal | run | line | quoted => rfl
  | alternation alternatives =>
      exact Sequence.ofClass_firstCaptured source alternatives place absent
  | pattern items => exact Sequence.ofClass_captured source items place absent

theorem Sequence.ofClass_firstCaptured {name : String} (source : String)
    (alternatives : List Sequence) (place : Place)
    (absent : Sequence.EachEverywhere (fun item => item.capture ≠ some name) alternatives) :
    Captures.ofClass name (Sequence.firstCaptured source alternatives place) = [] := by
  cases alternatives with
  | nil => rfl
  | cons items others =>
      rw [Sequence.firstCaptured]
      cases Sequence.consumed? items place.rest with
      | some taken => exact Sequence.ofClass_captured source items place absent.1
      | none => exact Sequence.ofClass_firstCaptured source others place absent.2

theorem Sequence.ofClass_captured {name : String} (source : String) (items : Sequence)
    (place : Place) (absent : items.Lacks name) :
    Captures.ofClass name (items.captured source place) = [] := by
  cases items with
  | nil => rfl
  | cons item others =>
      rcases item with ⟨matcher, capture⟩
      rcases absent with ⟨different, inside, further⟩
      rw [Sequence.captured]
      cases matcher.consumed? place.rest with
      | none => rfl
      | some taken =>
          have behind := Sequence.ofClass_captured source others (place.past taken) further
          have below := Matcher.ofClass_captured source matcher place inside
          cases capture with
          | none => simpa using behind
          | some other =>
              have apart : other ≠ name := fun same => different (by rw [same])
              simp [below, behind, apart]

end

namespace Sequence

variable {source : String} {place : Place} {first middle second inner : Sequence}
  {before during taken : List Char}

theorem consumed?_join_eq_some_iff :
    consumed? (first.join second) place.rest = some taken ↔
      ∃ before behind, consumed? first place.rest = some before ∧
        consumed? second (place.past before).rest = some behind ∧ before ++ behind = taken := by
  simp only [consumed?_join, consumed?_append, Option.bind_eq_some_iff, Option.map_eq_some_iff]
  constructor
  · intro parts
    rcases parts with ⟨before, consumed, behind, further, whole⟩
    exact ⟨before, behind, consumed, further, whole⟩
  · intro parts
    rcases parts with ⟨before, behind, consumed, further, whole⟩
    exact ⟨before, consumed, behind, further, whole⟩

theorem captured_join_of_some (source : String) (second : Sequence)
    (consumed : consumed? first place.rest = some before) :
    captured source (first.join second) place =
      captured source first place ++ captured source second (place.past before) := by
  rw [captured_join, captured_append consumed]

/-- A reference to a sub-pattern consumes what the sub-pattern does. -/
theorem consumed?_reference (inner : Sequence) (name : String) (text : List Char) :
    consumed? [⟨.pattern inner, some name⟩] text = consumed? inner text := by
  rw [consumed?_singleton, Matcher.consumed?]

theorem consumed?_inline (first inner second : Sequence) (name : String) (text : List Char) :
    consumed? ((first.join [⟨.pattern inner, some name⟩]).join second) text =
      consumed? ((first.join inner).join second) text := by
  simp only [consumed?_join, consumed?_append, consumed?_reference]

/-- It captures what the sub-pattern does, and then the sub-pattern itself. -/
theorem captured_reference (consumed : consumed? inner place.rest = some taken) (name : String) :
    captured source [⟨.pattern inner, some name⟩] place =
      captured source inner place ++ [(name, (inner.matched source place taken).toToken source)] := by
  have whole : (Matcher.pattern inner).consumed? place.rest = some taken := by
    rwa [Matcher.consumed?]
  rw [captured_cons_of_some whole]
  simp [Sequence.captured, Matcher.matched, Sequence.matched, Matcher.captured, Matcher.lexeme]

end Sequence

/-! ## The class and its pattern -/

/-- How the match with a class in it, `whole`, compares to the one with the pattern of
the class in its place, `inlined`. The spans are the same, and so are the captures under
other classes. Where the three parts match one after another, the class has the token
of the match in the middle, between the captures of its own in the first part and those
in the last. -/
structure Cursor.Inlines (cursor : Cursor) (name : String) (first inner second : Sequence)
    (whole inlined : Match) : Prop where
  start_eq : whole.start = inlined.start
  stop_eq : whole.stop = inlined.stop
  other_eq (other : String) (different : other ≠ name) :
    Captures.ofClass other whole.captures = Captures.ofClass other inlined.captures
  parts : ∃ before during behind next after last,
    cursor.match? first = (some before, next) ∧ next.match? inner = (some during, after) ∧
      after.match? second = (some behind, last) ∧
      Captures.ofClass name whole.captures = Captures.ofClass name before.captures ++
        during.toToken cursor.text :: Captures.ofClass name behind.captures ∧
      Captures.ofClass name inlined.captures =
        Captures.ofClass name before.captures ++ Captures.ofClass name behind.captures

/-- A reference to a sub-pattern and the items of the sub-pattern match alike between
the same parts. -/
theorem Cursor.Settled.rel_inlines {cursor : Cursor} (settled : cursor.Settled) {name : String}
    (first second : Sequence) {inner : Sequence}
    (absent : inner.Lacks name) :
    Option.Rel (cursor.Inlines name first inner second)
      (cursor.match? ((first.join [⟨.pattern inner, some name⟩]).join second)).1
      (cursor.match? ((first.join inner).join second)).1 := by
  have same := Sequence.consumed?_inline first inner second name cursor.position.rest
  cases consumed : ((first.join inner).join second).consumed? cursor.position.rest with
  | none =>
      rw [consumed] at same
      rw [settled.match?_of_not_consumed same, settled.match?_of_not_consumed consumed]
      exact .none
  | some taken =>
      rw [consumed] at same
      rw [(settled.match?_of_consumed same).2, (settled.match?_of_consumed consumed).2]
      rcases Sequence.consumed?_join_eq_some_iff.mp consumed with ⟨_, behind, pair, last, rfl⟩
      rcases Sequence.consumed?_join_eq_some_iff.mp pair with ⟨before, during, start, middle, rfl⟩
      have classy : (first.join [⟨.pattern inner, some name⟩]).consumed? cursor.position.rest =
          some (before ++ during) :=
        Sequence.consumed?_join_eq_some_iff.mpr
          ⟨before, during, start, by rw [Sequence.consumed?_reference, middle], rfl⟩
      have whole := Sequence.captured_join_of_some cursor.text second classy
      rw [Sequence.captured_join_of_some _ _ start, Sequence.captured_reference middle] at whole
      have inlined := Sequence.captured_join_of_some cursor.text second pair
      rw [Sequence.captured_join_of_some _ _ start] at inlined
      have none := Sequence.ofClass_captured cursor.text inner (cursor.position.past before) absent
      refine .some ⟨rfl, rfl, ?_, ?_⟩
      · intro other different
        simp [Sequence.matched, whole, inlined, Ne.symm different]
      · have one := (settled.match?_of_consumed start).2
        have two := ((settled_advance cursor before).match?_of_consumed middle).2
        have three := ((settled_advance cursor (before ++ during)).match?_of_consumed last).2
        rw [advance_advance] at two
        refine ⟨_, _, _, _, _, _, one, two, three, ?_, ?_⟩
        · simp [Sequence.matched, whole, none]
        · simp [Sequence.matched, inlined, none]

namespace Registry

/-- A reference to a class as it is written in a pattern. -/
def reference (name : String) : String := String.ofList ('{' :: (name.toList ++ ['}']))

/-- A reference to a known class compiles to the matcher of the class under its name. -/
theorem compile_reference {registry : Registry} {name : String} {matcher : Matcher}
    (unopened : '{' ∉ name.toList) (unclosed : '}' ∉ name.toList)
    (found : registry.find? name = some matcher) :
    registry.compile (reference name) = .ok [⟨matcher, some name⟩] := by
  apply compile_eq_ok_iff.mpr
  exact ⟨.reference unopened unclosed found .nil, by simp [reference, Item.written]⟩

/-- A sequence as compilation makes it does not refer to a class that is not known. -/
theorem lacks_of_everywhere {registry : Registry} {name : String} {items : Sequence}
    (unknown : registry.find? name = none) (made : Sequence.Everywhere registry.Makes items) :
    items.Lacks name := by
  apply Sequence.Everywhere.mono _ made
  intro item makes
  exact makes.capture_ne unknown

/-- A class that was defined by a pattern has the items of the pattern, which have no
reference to the class in them, and a reference to it compiles to these items. -/
theorem compile_of_define_pattern {registry defined extended : Registry} {name pattern : String}
    (coherent : registry.Coherent)
    (definition : registry.define name (.pattern pattern) = .ok defined)
    (known : defined.Extends extended) :
    ∃ inner, extended.compile pattern = .ok inner ∧
      extended.compile (reference name) = .ok [⟨.pattern inner, some name⟩] ∧
      inner.Lacks name := by
  rcases define_eq_ok_iff.mp definition with ⟨checked, -⟩
  rcases checkName_eq_ok_iff.mp checked with ⟨unopened, unclosed, -⟩
  rcases find?_of_define definition with ⟨fresh, matcher, builds, finds⟩
  cases builds with
  | @pattern _ inner compiled =>
      rcases compile_eq_ok_iff.mp compiled with ⟨canonical, written⟩
      have found : extended.find? name = some (.pattern inner) := by
        apply known
        rw [finds, if_pos rfl]
      refine ⟨inner, ?_, ?_, ?_⟩
      · exact compile_eq_ok_iff.mpr
          ⟨canonical.mono ((extends_of_define definition).trans known), written⟩
      · exact compile_reference unopened unclosed found
      · exact lacks_of_everywhere fresh (coherent.everywhere_of_compile compiled)

/-- Where a class was defined by a pattern, the pattern can stand in place of a reference
to the class: both patterns compile and match alike at every settled cursor, except
that nothing is captured under the class where its pattern stands. -/
theorem match?_inline (before after : List (String × Definition)) {name pattern : String}
    {defined : Registry}
    (definition : (empty.registerAll before).define name (.pattern pattern) = .ok defined)
    {left right : String} {first second : Sequence}
    (compiledLeft : (defined.registerAll after).compile left = .ok first)
    (compiledRight : (defined.registerAll after).compile right = .ok second) :
    ∃ inner whole inlined,
      (defined.registerAll after).compile pattern = .ok inner ∧
      (defined.registerAll after).compile (left ++ reference name ++ right) = .ok whole ∧
      (defined.registerAll after).compile (left ++ pattern ++ right) = .ok inlined ∧
      ∀ cursor : Cursor, cursor.Settled →
        Option.Rel (cursor.Inlines name first inner second)
          (cursor.match? whole).1 (cursor.match? inlined).1 := by
  obtain ⟨inner, compiled, refers, absent⟩ :=
    compile_of_define_pattern (coherent_registerAll before) definition
      (extends_registerAll defined after)
  refine ⟨inner, _, _, compiled,
    compile_append (compile_append compiledLeft refers) compiledRight,
    compile_append (compile_append compiledLeft compiled) compiledRight, ?_⟩
  intro cursor settled
  exact settled.rel_inlines first second absent

/-- In place of its class the pattern is put between literals that meet its own. -/
theorem match?_inline_word :
    ∃ defined first second inner whole inlined,
      empty.define "quoted" (.pattern "-{word}-") = .ok defined ∧
      defined.compile "<" = .ok first ∧ defined.compile ">" = .ok second ∧
      defined.compile "<{quoted}>" = .ok whole ∧ defined.compile "<-{word}->" = .ok inlined ∧
      Option.Rel ((Cursor.start "<-a->").Inlines "quoted" first inner second)
        ((Cursor.start "<-a->").match? whole).1 ((Cursor.start "<-a->").match? inlined).1 := by
  have succeeds : ((empty.define "quoted" (.pattern "-{word}-")).toOption.bind fun defined =>
      (defined.compile "<").toOption.bind fun _ => (defined.compile ">").toOption).isSome = true :=
    by decide +kernel
  rcases Option.isSome_iff_exists.mp succeeds with ⟨second, succeeds⟩
  rcases Option.bind_eq_some_iff.mp succeeds with ⟨defined, defines, succeeds⟩
  rcases Option.bind_eq_some_iff.mp succeeds with ⟨first, left, right⟩
  have definition := eq_ok_of_toOption_eq_some defines
  have compiledLeft := eq_ok_of_toOption_eq_some left
  have compiledRight := eq_ok_of_toOption_eq_some right
  obtain ⟨inner, whole, inlined, -, classy, plain, alike⟩ :=
    match?_inline [] [] definition compiledLeft compiledRight
  exact ⟨defined, first, second, inner, whole, inlined, definition, compiledLeft, compiledRight,
    classy, plain, alike _ (Cursor.settled_start _)⟩

end Registry

end PatternLexer
