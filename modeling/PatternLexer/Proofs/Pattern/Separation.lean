import PatternLexer.Proofs.Pattern.Lookup

/-!
# Patterns that avoid a character

A pattern avoids a character when no literal in it holds the character and no run in it
accepts the character. Lines and quotes avoid nothing, since what they look for may stand
anywhere.

Such a pattern cannot tell the character from the end of the text: what it consumes does
not depend on anything from there on (`consumed?_separated`).
-/

namespace PatternLexer

open Text

/-- A run ends where a character is not accepted, as it ends where the text does. -/
theorem Text.run_separated {accepts : Char → Bool} {separator : Char}
    (rejects : accepts separator = false) (max : Option Nat) (before after : List Char) :
    Text.run accepts max (before ++ separator :: after) = Text.run accepts max before := by
  induction before generalizing max with
  | nil => simp [run_cons, rejects]
  | cons c before ih => rw [List.cons_append, run_cons, run_cons, ih]

/-- A text without the character that stands before it does not reach over it. -/
theorem Text.isPrefix_separated_iff {separator : Char} {text : List Char}
    (absent : separator ∉ text) (before after : List Char) :
    text <+: before ++ separator :: after ↔ text <+: before := by
  constructor
  · intro reaches
    cases List.prefix_or_prefix_of_prefix reaches (List.prefix_append before _) with
    | inl shorter => exact shorter
    | inr longer =>
        obtain ⟨further, rfl⟩ := longer
        rw [List.prefix_append_right_inj] at reaches
        cases further with
        | nil => simp
        | cons c further =>
            rw [List.cons_prefix_cons] at reaches
            obtain ⟨rfl, -⟩ := reaches
            simp at absent
  · intro reaches
    exact reaches.trans (List.prefix_append before _)

/-- What a matcher reads itself does not hold the character. What it has inside it is not
looked at. -/
def Matcher.Rejects (separator : Char) : Matcher → Prop
  | .literal text => separator ∉ text
  | .run test _ _ => test.accepts separator = false
  | .line | .quoted _ => False
  | .alternation _ | .pattern _ => True

/-- The sequence is built only from literals that do not hold the character, runs that do
not accept it, alternations and sub-patterns. -/
def Sequence.Avoids (separator : Char) (items : Sequence) : Prop :=
  items.Everywhere fun item => item.matcher.Rejects separator

mutual

theorem Matcher.consumed?_separated {separator : Char} (matcher : Matcher)
    (rejects : matcher.Rejects separator)
    (inside : matcher.Everywhere fun item => item.matcher.Rejects separator)
    (before after : List Char) :
    matcher.consumed? (before ++ separator :: after) = matcher.consumed? before := by
  cases matcher with
  | literal text =>
      have absent : separator ∉ text := rejects
      simp only [Matcher.consumed?, isPrefix_separated_iff absent]
  | run test min max =>
      have refused : test.accepts separator = false := rejects
      simp only [Matcher.consumed?, run_separated refused]
  | line => cases rejects
  | quoted quote => cases rejects
  | alternation alternatives =>
      exact Sequence.firstConsumed?_separated alternatives inside before after
  | pattern items => exact Sequence.consumed?_separated items inside before after

theorem Sequence.firstConsumed?_separated {separator : Char} (alternatives : List Sequence)
    (avoid : Sequence.EachEverywhere (fun item => item.matcher.Rejects separator) alternatives)
    (before after : List Char) :
    Sequence.firstConsumed? alternatives (before ++ separator :: after) =
      Sequence.firstConsumed? alternatives before := by
  cases alternatives with
  | nil => rfl
  | cons items others =>
      obtain ⟨here, further⟩ := avoid
      rw [Sequence.firstConsumed?, Sequence.firstConsumed?,
        Sequence.consumed?_separated items here before after,
        Sequence.firstConsumed?_separated others further before after]

/-- A sequence that avoids a character consumes of a text before this character what it
consumes where the text ends. -/
theorem Sequence.consumed?_separated {separator : Char} (items : Sequence)
    (avoids : items.Avoids separator) (before after : List Char) :
    Sequence.consumed? items (before ++ separator :: after) = Sequence.consumed? items before := by
  cases items with
  | nil => rfl
  | cons item others =>
      obtain ⟨matcher, capture⟩ := item
      obtain ⟨rejects, inside, further⟩ := avoids
      have first := Matcher.consumed?_separated matcher rejects inside before after
      rw [Sequence.consumed?, Sequence.consumed?, first]
      cases consumed : matcher.consumed? before with
      | none => rfl
      | some taken =>
          have within := (Matcher.isPrefix_of_consumed? consumed).length_le
          have left := Sequence.consumed?_separated others further (before.drop taken.length) after
          simp only [List.drop_append_of_le_length within, left]

end

end PatternLexer
