import PatternLexer.Proofs.Registry.Compilation
import PatternLexer.Proofs.Registry.History

/-!
# Compiled sequences

A sequence that compilation can give is canonical: literals and references to known
classes, without two literals in a row. It is determined by how it is written, and
compiling what is written gives it back (`sequenceOf_eq_ok_iff`).

Patterns can therefore be put together as texts. Where a literal ends the first one
and another begins the second one, the two become one literal (`Sequence.join`).
-/

namespace PatternLexer

open Text

/-- An item as it is written in a pattern. -/
def Item.written : Item → List Char
  | ⟨_, some name⟩ => '{' :: (name.toList ++ ['}'])
  | ⟨.literal text, none⟩ => text
  | ⟨_, none⟩ => []

/-- A sequence as it is written in a pattern. -/
def Sequence.written (items : Sequence) : List Char := items.flatMap Item.written

@[simp] theorem Sequence.written_nil : Sequence.written [] = [] := rfl

@[simp] theorem Sequence.written_cons (item : Item) (items : Sequence) :
    Sequence.written (item :: items) = item.written ++ Sequence.written items := by
  simp [written]

/-- Put two sequences together, with the literals where they meet made one. -/
def Sequence.join : Sequence → Sequence → Sequence
  | [], second => second
  | [⟨.literal text, none⟩], ⟨.literal more, none⟩ :: second =>
      ⟨.literal (text ++ more), none⟩ :: second
  | item :: first, second => item :: Sequence.join first second

@[simp] theorem Sequence.written_join (first second : Sequence) :
    (first.join second).written = first.written ++ second.written := by
  fun_induction Sequence.join first second with
  | case1 second => rfl
  | case2 text more second => simp [Item.written]
  | case3 item first second _ ih => simp [ih]

@[simp] theorem Sequence.join_cons_cons (item other : Item) (first second : Sequence) :
    Sequence.join (item :: other :: first) second =
      item :: Sequence.join (other :: first) second := by
  simp [Sequence.join]

@[simp] theorem Sequence.reference_join (matcher : Matcher) (name : String)
    (first second : Sequence) :
    Sequence.join (⟨matcher, some name⟩ :: first) second =
      ⟨matcher, some name⟩ :: first.join second := by
  simp [Sequence.join]

/-- A reference never becomes part of what stands before it. -/
theorem Sequence.join_reference (first : Sequence) (matcher : Matcher) (name : String)
    (second : Sequence) :
    first.join (⟨matcher, some name⟩ :: second) = first ++ ⟨matcher, some name⟩ :: second := by
  induction first with
  | nil => rfl
  | cons item first ih => simp [Sequence.join, ih]

namespace Registry

/-- Sequences as compilation gives them. -/
inductive Canonical (registry : Registry) : Sequence → Prop where
  | nil : Canonical registry []
  | literal {text : List Char} {items : Sequence} (nonempty : text ≠ []) (unopened : '{' ∉ text)
      (unclosed : '}' ∉ text) (separate : items.head?.all (·.capture.isSome) = true)
      (others : Canonical registry items) : Canonical registry (⟨.literal text, none⟩ :: items)
  | reference {name : String} {matcher : Matcher} {items : Sequence}
      (unopened : '{' ∉ name.toList) (unclosed : '}' ∉ name.toList)
      (found : registry.find? name = some matcher) (others : Canonical registry items) :
      Canonical registry (⟨matcher, some name⟩ :: items)

variable {registry extended : Registry} {items first second : Sequence}

theorem resolve_eq_ok_iff {name : String} {matcher : Matcher} :
    registry.resolve name = .ok matcher ↔ registry.find? name = some matcher := by
  rw [resolve]
  split <;> simp_all

/-- A canonical sequence starts with a reference where its text starts with a brace
or is empty. -/
theorem Canonical.separate_iff (canonical : registry.Canonical items) :
    items.head?.all (·.capture.isSome) = items.written.head?.all (· = '{') := by
  cases canonical with
  | nil => rfl
  | @literal text items nonempty unopened unclosed separate others =>
      cases text with
      | nil => exact absurd rfl nonempty
      | cons c text =>
          simp only [List.mem_cons, not_or] at unopened
          simp [Item.written, Ne.symm unopened.1]
  | reference => simp [Item.written]

/-- The segments of what is written compile to the items. -/
theorem Canonical.mapM_compile (canonical : registry.Canonical items) (offset : Nat) :
    (Segment.segmentsFrom 0 offset items.written).mapM (Segment.compile registry) = .ok items := by
  induction canonical generalizing offset with
  | nil => rfl
  | @literal text items nonempty unopened unclosed separate others ih =>
      have boundary := others.separate_iff.symm.trans separate
      have stray := offset?_eq_none_iff.mpr unclosed
      rw [Sequence.written_cons, Item.written,
        Segment.segmentsFrom_literal nonempty unopened boundary, List.mapM_cons,
        Segment.compile, stray, ih]
      rfl
  | @reference name matcher items unopened unclosed found others ih =>
      have nested := offset?_eq_none_iff.mpr unopened
      have resolved := resolve_eq_ok_iff.mpr found
      have written : Sequence.written (⟨matcher, some name⟩ :: items) =
          '{' :: (name.toList ++ '}' :: items.written) := by simp [Item.written]
      rw [written, Segment.segmentsFrom_reference unclosed, List.mapM_cons, Segment.compile,
        nested, String.ofList_toList, resolved, ih]
      rfl

/-- A reference compiles when its name has no brace and the class is known. -/
theorem compile_reference_eq_ok_iff {offset : Nat} {name : List Char} {item : Item} :
    (Segment.reference offset name).compile registry = .ok item ↔
      '{' ∉ name ∧ ∃ matcher, registry.find? (String.ofList name) = some matcher ∧
        item = ⟨matcher, some (String.ofList name)⟩ := by
  cases nested : offset? '{' name with
  | some nested =>
      have member : '{' ∈ name := mem_of_offset?_eq_some nested
      simp [Segment.compile, nested, member]
  | none =>
      simp only [Segment.compile, nested, offset?_eq_none_iff.mp nested, not_false_eq_true,
        true_and]
      cases resolved : registry.resolve (String.ofList name) with
      | error error =>
          have unknown : ∀ matcher, registry.find? (String.ofList name) ≠ some matcher := by
            intro matcher found
            rw [resolve_eq_ok_iff.mpr found] at resolved
            cases resolved
          simp [Except.map, unknown]
      | ok matcher =>
          simp [Except.map, resolve_eq_ok_iff.mp resolved, eq_comm]

/-- A literal compiles when it has no closing brace. -/
theorem compile_literal_eq_ok_iff {offset : Nat} {text : List Char} {item : Item} :
    (Segment.literal offset text).compile registry = .ok item ↔
      '}' ∉ text ∧ item = ⟨.literal text, none⟩ := by
  cases stray : offset? '}' text with
  | some stray =>
      have member : '}' ∈ text := mem_of_offset?_eq_some stray
      simp [Segment.compile, stray, member]
  | none => simp [Segment.compile, stray, offset?_eq_none_iff.mp stray, eq_comm]

/-- Segments that compile are a canonical sequence, written as they are. -/
theorem canonical_of_mapM_compile {pattern : List Char} {offset : Nat}
    (compiled : (Segment.segmentsFrom 0 offset pattern).mapM (Segment.compile registry) =
      .ok items) :
    registry.Canonical items ∧ items.written = pattern := by
  induction pattern using Segment.induction generalizing offset items with
  | nil =>
      cases compiled
      exact ⟨.nil, rfl⟩
  | reference name rest unclosed ih =>
      rw [Segment.segmentsFrom_reference unclosed, mapM_cons_eq_ok_iff] at compiled
      rcases compiled with ⟨item, others, first, further, rfl⟩
      rcases compile_reference_eq_ok_iff.mp first with ⟨unopened, matcher, found, rfl⟩
      rcases ih further with ⟨canonical, written⟩
      refine ⟨.reference ?_ ?_ found canonical, by simp [Item.written, written]⟩
      · rw [String.toList_ofList]
        exact unopened
      · rw [String.toList_ofList]
        exact unclosed
  | unclosed rest unclosed =>
      rw [Segment.segmentsFrom_unclosed unclosed, mapM_cons_eq_ok_iff] at compiled
      rcases compiled with ⟨item, others, first, -, -⟩
      cases first
  | literal text rest nonempty unopened boundary ih =>
      rw [Segment.segmentsFrom_literal nonempty unopened boundary,
        mapM_cons_eq_ok_iff] at compiled
      rcases compiled with ⟨item, others, first, further, rfl⟩
      rcases compile_literal_eq_ok_iff.mp first with ⟨unclosed, rfl⟩
      rcases ih further with ⟨canonical, written⟩
      rw [← written, ← canonical.separate_iff] at boundary
      exact ⟨.literal nonempty unopened unclosed boundary canonical,
        by simp [Item.written, written]⟩

/-- A pattern compiles to just the canonical sequence that is written as it is. -/
theorem sequenceOf_eq_ok_iff {pattern : String} :
    registry.sequenceOf pattern = .ok items ↔
      registry.Canonical items ∧ items.written = pattern.toList := by
  rw [sequenceOf_eq_mapM]
  constructor
  · exact canonical_of_mapM_compile
  · intro both
    rcases both with ⟨canonical, written⟩
    have compiled := canonical.mapM_compile 0
    rwa [written] at compiled

theorem compile_eq_ok_iff {pattern : String} :
    registry.compile pattern = .ok items ↔
      registry.Canonical items ∧ items.written = pattern.toList := by
  rw [← sequenceOf_eq_ok_iff, compile]
  cases registry.sequenceOf pattern with
  | error error =>
      constructor
      · intro absurd
        cases absurd
      · intro absurd
        cases absurd
  | ok found =>
      constructor
      · intro same
        cases same
        rfl
      · intro same
        cases same
        rfl

/-- A sequence that is canonical stays so when further classes are known. -/
theorem Canonical.mono (canonical : registry.Canonical items)
    (known : registry.Extends extended) : extended.Canonical items := by
  induction canonical with
  | nil => exact .nil
  | literal nonempty unopened unclosed separate _ ih =>
      exact .literal nonempty unopened unclosed separate ih
  | reference unopened unclosed found _ ih =>
      exact .reference unopened unclosed (known _ _ found) ih

theorem Canonical.join (before : registry.Canonical first) (behind : registry.Canonical second) :
    registry.Canonical (first.join second) := by
  induction before with
  | nil => exact behind
  | reference unopened unclosed found _ ih =>
      rw [Sequence.reference_join]
      exact .reference unopened unclosed found ih
  | @literal text items nonempty unopened unclosed separate others ih =>
      cases others with
      | nil =>
          cases behind with
          | nil => exact .literal nonempty unopened unclosed separate .nil
          | reference unopened' unclosed' found others =>
              rw [Sequence.join_reference]
              exact .literal nonempty unopened unclosed rfl
                (.reference unopened' unclosed' found others)
          | literal nonempty' unopened' unclosed' separate others =>
              refine .literal (by simp [nonempty]) ?_ ?_ separate others
              · simp [unopened, unopened']
              · simp [unclosed, unclosed']
      | literal => cases separate
      | reference =>
          rw [Sequence.join_cons_cons]
          rw [Sequence.reference_join] at ih ⊢
          exact .literal nonempty unopened unclosed rfl ih

/-- Patterns that compile can be written one after another. -/
theorem compile_append {before behind : String} (compiled : registry.compile before = .ok first)
    (also : registry.compile behind = .ok second) :
    registry.compile (before ++ behind) = .ok (first.join second) := by
  rcases compile_eq_ok_iff.mp compiled with ⟨canonical, written⟩
  rcases compile_eq_ok_iff.mp also with ⟨canonical', written'⟩
  exact compile_eq_ok_iff.mpr ⟨canonical.join canonical', by simp [written, written']⟩

end Registry

end PatternLexer
