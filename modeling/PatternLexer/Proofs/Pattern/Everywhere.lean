import PatternLexer.Pattern.Basic

/-!
# Properties of all items of a pattern

A matcher holds items inside its sub-patterns and alternatives, at any depth.
`Sequence.Everywhere property` says that all items of a sequence and all items inside
them have the property.
-/

namespace PatternLexer

variable {property implied : Item → Prop}

mutual

/-- All items inside a matcher have the property. -/
def Matcher.Everywhere (property : Item → Prop) : Matcher → Prop
  | .alternation alternatives => Sequence.EachEverywhere property alternatives
  | .pattern items => Sequence.Everywhere property items
  | .literal _ | .run _ _ _ | .line | .quoted _ => True

/-- All items of some sequences and inside them have the property. -/
def Sequence.EachEverywhere (property : Item → Prop) : List Sequence → Prop
  | [] => True
  | items :: others => Sequence.Everywhere property items ∧ Sequence.EachEverywhere property others

/-- All items of a sequence and inside them have the property. -/
def Sequence.Everywhere (property : Item → Prop) : Sequence → Prop
  | [] => True
  | ⟨matcher, capture⟩ :: others =>
      property ⟨matcher, capture⟩ ∧ matcher.Everywhere property ∧
        Sequence.Everywhere property others

end

@[simp] theorem Sequence.everywhere_nil : Sequence.Everywhere property [] := trivial

@[simp] theorem Sequence.everywhere_cons {item : Item} {others : Sequence} :
    Sequence.Everywhere property (item :: others) ↔
      property item ∧ item.matcher.Everywhere property ∧
        Sequence.Everywhere property others := Iff.rfl

theorem Sequence.eachEverywhere_iff {alternatives : List Sequence} :
    Sequence.EachEverywhere property alternatives ↔
      ∀ items ∈ alternatives, Sequence.Everywhere property items := by
  induction alternatives with
  | nil => simp [EachEverywhere]
  | cons items others ih => simp [EachEverywhere, ih]

mutual

theorem Matcher.Everywhere.mono (weaker : ∀ item, property item → implied item)
    {matcher : Matcher} (holds : matcher.Everywhere property) : matcher.Everywhere implied := by
  cases matcher with
  | alternation alternatives =>
      have each : Sequence.EachEverywhere property alternatives := holds
      exact Sequence.EachEverywhere.mono weaker each
  | pattern items =>
      have inside : Sequence.Everywhere property items := holds
      exact Sequence.Everywhere.mono weaker inside
  | literal | run | line | quoted => trivial

theorem Sequence.EachEverywhere.mono (weaker : ∀ item, property item → implied item)
    {alternatives : List Sequence} (holds : Sequence.EachEverywhere property alternatives) :
    Sequence.EachEverywhere implied alternatives := by
  cases alternatives with
  | nil => trivial
  | cons items others =>
      exact ⟨Sequence.Everywhere.mono weaker holds.1, Sequence.EachEverywhere.mono weaker holds.2⟩

theorem Sequence.Everywhere.mono (weaker : ∀ item, property item → implied item)
    {items : Sequence} (holds : Sequence.Everywhere property items) :
    Sequence.Everywhere implied items := by
  cases items with
  | nil => trivial
  | cons item others =>
      rcases item with ⟨matcher, capture⟩
      rcases holds with ⟨here, inside, further⟩
      exact ⟨weaker _ here, Matcher.Everywhere.mono weaker inside,
        Sequence.Everywhere.mono weaker further⟩

end

/-- Nothing inside a matcher refers to the class. -/
abbrev Matcher.Lacks (name : String) (matcher : Matcher) : Prop :=
  matcher.Everywhere fun item => item.capture ≠ some name

/-- Nothing in a sequence, at any depth, refers to the class. -/
abbrev Sequence.Lacks (name : String) (items : Sequence) : Prop :=
  items.Everywhere fun item => item.capture ≠ some name

end PatternLexer
