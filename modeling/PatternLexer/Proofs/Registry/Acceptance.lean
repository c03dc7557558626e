import Mathlib.Data.List.Chain
import PatternLexer.Proofs.Registry.Canonical

/-!
# Accepted patterns

A pattern compiles just where it is put together from literal text without braces and
from the names of known classes between braces. What it compiles to are alternating
items: no two pieces of literal text stand side by side. Between these patterns and the
alternating sequences, compiling and writing are inverse to each other
(`sequenceOf_eq_ok_iff_alternating`).

That a sequence needs no condition on the names in it comes from the registry: names with
braces cannot be registered (`unbraced_registerAll`).
-/

namespace PatternLexer

namespace Registry

variable {registry : Registry} {items : Sequence} {pattern : List Char}

/-- A piece of a pattern: text without braces, or the name of a known class without braces,
between braces. -/
inductive Piece (registry : Registry) : List Char → Prop where
  | text {text : List Char} (unopened : '{' ∉ text) (unclosed : '}' ∉ text) : Piece registry text
  | reference {name : String} (unopened : '{' ∉ name.toList) (unclosed : '}' ∉ name.toList)
      (known : registry.contains name = true) : Piece registry ('{' :: (name.toList ++ ['}']))

/-- The pattern consists of such pieces, one after another. -/
def Composes (registry : Registry) (pattern : List Char) : Prop :=
  ∃ pieces : List (List Char), pieces.flatten = pattern ∧ ∀ piece ∈ pieces, registry.Piece piece

/-- An item that stands for literal text, which is not empty and has no braces, or for a class,
with the matcher that the name of the class resolves to. -/
inductive Admits (registry : Registry) : Item → Prop where
  | literal {text : List Char} (nonempty : text ≠ []) (unopened : '{' ∉ text)
      (unclosed : '}' ∉ text) : Admits registry ⟨.literal text, none⟩
  | reference {name : String} {matcher : Matcher}
      (resolved : registry.resolve name = .ok matcher) : Admits registry ⟨matcher, some name⟩

/-- A sequence of such items in which no two pieces of literal text are side by side. -/
structure Alternating (registry : Registry) (items : Sequence) : Prop where
  admitted : ∀ item ∈ items, registry.Admits item
  apart : items.IsChain fun item next => item.capture.isSome ∨ next.capture.isSome

/-- No known name has a brace in it. -/
def Unbraced (registry : Registry) : Prop :=
  ∀ name, registry.contains name = true → '{' ∉ name.toList ∧ '}' ∉ name.toList

theorem unbraced_empty : empty.Unbraced := by
  intro name known
  cases named : Builtin.ofName? name with
  | none => simp [contains, find?, empty, named] at known
  | some builtin =>
      rw [← Builtin.name_of_ofName? named]
      cases builtin <;> decide

theorem Unbraced.of_define {extended : Registry} {name : String} {definition : Definition}
    (unbraced : registry.Unbraced) (defined : registry.define name definition = .ok extended) :
    extended.Unbraced := by
  rcases define_eq_ok_iff.mp defined with ⟨checked, -⟩
  rcases checkName_eq_ok_iff.mp checked with ⟨unopened, unclosed, -⟩
  rcases find?_of_define defined with ⟨-, matcher, -, finds⟩
  intro other known
  rw [contains, finds] at known
  split at known
  · rename_i same
    rw [same]
    exact ⟨unopened, unclosed⟩
  · exact unbraced other known

theorem unbraced_registerAll (registrations : List (String × Definition)) :
    (empty.registerAll registrations).Unbraced :=
  registerAll_induction (fun defined unbraced => unbraced.of_define defined) unbraced_empty
    registrations

theorem alternating_cons_iff {item : Item} :
    registry.Alternating (item :: items) ↔
      registry.Admits item ∧
        (∀ next ∈ items.head?, item.capture.isSome ∨ next.capture.isSome) ∧
        registry.Alternating items := by
  constructor
  · intro alternating
    rcases alternating with ⟨admitted, apart⟩
    rcases List.forall_mem_cons.mp admitted with ⟨here, admitted⟩
    rcases List.isChain_cons.mp apart with ⟨beside, apart⟩
    exact ⟨here, beside, admitted, apart⟩
  · intro parts
    rcases parts with ⟨here, beside, admitted, apart⟩
    exact ⟨List.forall_mem_cons.mpr ⟨here, admitted⟩, List.isChain_cons.mpr ⟨beside, apart⟩⟩

theorem Canonical.alternating (canonical : registry.Canonical items) :
    registry.Alternating items := by
  induction canonical with
  | nil => exact ⟨by simp, .nil⟩
  | literal nonempty unopened unclosed separate _ ih =>
      apply alternating_cons_iff.mpr
      refine ⟨.literal nonempty unopened unclosed, ?_, ih⟩
      intro next head
      right
      rw [Option.mem_def.mp head] at separate
      exact separate
  | reference _ _ found _ ih =>
      apply alternating_cons_iff.mpr
      exact ⟨.reference (resolve_eq_ok_iff.mpr found), fun _ _ => .inl rfl, ih⟩

theorem Alternating.canonical (alternating : registry.Alternating items)
    (unbraced : registry.Unbraced) : registry.Canonical items := by
  induction items with
  | nil => exact .nil
  | cons item items ih =>
      rcases alternating_cons_iff.mp alternating with ⟨admitted, beside, others⟩
      cases admitted with
      | literal nonempty unopened unclosed =>
          refine .literal nonempty unopened unclosed ?_ (ih others)
          cases head : items.head? with
          | none => rfl
          | some next => simpa using beside next head
      | @reference name matcher resolved =>
          have found := resolve_eq_ok_iff.mp resolved
          rcases unbraced name (by simp [contains, found]) with ⟨unopened, unclosed⟩
          exact .reference unopened unclosed found (ih others)

theorem Canonical.composes (canonical : registry.Canonical items) :
    registry.Composes items.written := by
  induction canonical with
  | nil => exact ⟨[], rfl, by simp⟩
  | @literal text items nonempty unopened unclosed separate others ih =>
      rcases ih with ⟨pieces, whole, each⟩
      refine ⟨text :: pieces, by simp [whole, Item.written], ?_⟩
      exact List.forall_mem_cons.mpr ⟨.text unopened unclosed, each⟩
  | @reference name matcher items unopened unclosed found others ih =>
      rcases ih with ⟨pieces, whole, each⟩
      refine ⟨('{' :: (name.toList ++ ['}'])) :: pieces, by simp [whole, Item.written], ?_⟩
      exact List.forall_mem_cons.mpr ⟨.reference unopened unclosed (by simp [contains, found]), each⟩

/-- A piece is written as a canonical sequence of one item, or of none where it is empty. -/
theorem Piece.canonical {piece : List Char} (accepted : registry.Piece piece) :
    ∃ items, registry.Canonical items ∧ items.written = piece := by
  cases accepted with
  | text unopened unclosed =>
      by_cases empty : piece = []
      · exact ⟨[], .nil, empty.symm⟩
      · exact ⟨_, .literal empty unopened unclosed rfl .nil, by simp [Item.written]⟩
  | @reference name unopened unclosed known =>
      rcases Option.isSome_iff_exists.mp known with ⟨matcher, found⟩
      exact ⟨_, .reference unopened unclosed found .nil, by simp [Item.written]⟩

theorem Composes.canonical (composes : registry.Composes pattern) :
    ∃ items, registry.Canonical items ∧ items.written = pattern := by
  rcases composes with ⟨pieces, rfl, each⟩
  induction pieces with
  | nil => exact ⟨[], .nil, rfl⟩
  | cons piece pieces ih =>
      rcases List.forall_mem_cons.mp each with ⟨accepted, each⟩
      rcases accepted.canonical with ⟨first, canonical, written⟩
      rcases ih each with ⟨second, canonical', written'⟩
      exact ⟨first.join second, canonical.join canonical', by simp [written, written']⟩

/-- The patterns that compile are those put together from accepted pieces. A pattern compiles
to a sequence just where the sequence alternates and is written as the pattern: so every
accepted pattern has one such sequence, and every such sequence is compiled from the one
pattern that it is written as. -/
theorem sequenceOf_eq_ok_iff_alternating (registrations : List (String × Definition)) :
    let registry := empty.registerAll registrations
    (∀ pattern, (∃ items, registry.sequenceOf pattern = .ok items) ↔
      registry.Composes pattern.toList) ∧
    ∀ pattern items, registry.sequenceOf pattern = .ok items ↔
      registry.Alternating items ∧ String.ofList items.written = pattern := by
  intro registry
  have unbraced : registry.Unbraced := unbraced_registerAll registrations
  constructor
  · intro pattern
    constructor
    · intro compiles
      rcases compiles with ⟨items, compiled⟩
      rcases sequenceOf_eq_ok_iff.mp compiled with ⟨canonical, written⟩
      exact written ▸ canonical.composes
    · intro composes
      rcases composes.canonical with ⟨items, canonical, written⟩
      exact ⟨items, sequenceOf_eq_ok_iff.mpr ⟨canonical, written⟩⟩
  · intro pattern items
    rw [sequenceOf_eq_ok_iff]
    constructor
    · intro both
      rcases both with ⟨canonical, written⟩
      exact ⟨canonical.alternating, by rw [written, String.ofList_toList]⟩
    · intro both
      rcases both with ⟨alternating, rfl⟩
      exact ⟨alternating.canonical unbraced, by rw [String.toList_ofList]⟩

end Registry

end PatternLexer
