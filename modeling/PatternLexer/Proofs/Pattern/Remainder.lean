import Mathlib.Data.List.TakeWhile
import PatternLexer.Proofs.Pattern.Concatenation

/-!
# What a pattern leaves

The rest of a text behind what a pattern consumes. The items of a sequence pass it on to
one another, so what a sequence leaves is what its items leave one after another
(`Sequence.leaves?_cons`).
-/

namespace PatternLexer

open Text

theorem Text.drop_takeWhile (accepts : Char → Bool) (text : List Char) :
    text.drop (text.takeWhile accepts).length = text.dropWhile accepts := by
  induction text with
  | nil => rfl
  | cons c text ih => cases passes : accepts c <;> simp [passes, ih]

/-- The text behind what a matcher consumes. -/
def Matcher.leaves? (matcher : Matcher) (text : List Char) : Option (List Char) :=
  (matcher.consumed? text).map fun taken => text.drop taken.length

/-- The text behind what a sequence consumes. -/
def Sequence.leaves? (items : Sequence) (text : List Char) : Option (List Char) :=
  (items.consumed? text).map fun taken => text.drop taken.length

namespace Matcher

variable {text : List Char}

/-- A run that may be empty. -/
@[simp] theorem leaves?_run_zero (test : CharTest) (text : List Char) :
    (Matcher.run test 0 none).leaves? text = some (text.dropWhile test.accepts) := by
  simp [leaves?, consumed?, Text.run, drop_takeWhile]

theorem consumed?_run_one (test : CharTest) (text : List Char) :
    (Matcher.run test 1 none).consumed? text =
      if text.takeWhile test.accepts = [] then none else some (text.takeWhile test.accepts) := by
  simp only [consumed?, Text.run, Nat.lt_one_iff, List.length_eq_zero_iff]

/-- A run of at least one character. -/
theorem leaves?_run_one (test : CharTest) (text : List Char) :
    (Matcher.run test 1 none).leaves? text =
      if text.takeWhile test.accepts = [] then none else some (text.dropWhile test.accepts) := by
  rw [leaves?, consumed?_run_one]
  split
  · rfl
  · rw [Option.map_some, drop_takeWhile]

@[simp] theorem leaves?_literal_nil (c : Char) : (Matcher.literal [c]).leaves? [] = none := by
  simp [leaves?, consumed?]

@[simp] theorem leaves?_literal_cons (c d : Char) (text : List Char) :
    (Matcher.literal [c]).leaves? (d :: text) = if c = d then some text else none := by
  by_cases same : c = d <;> simp [leaves?, consumed?, same]

end Matcher

namespace Sequence

theorem leaves?_eq_some_iff {items : Sequence} {text rest : List Char} :
    items.leaves? text = some rest ↔
      ∃ taken, items.consumed? text = some taken ∧ text.drop taken.length = rest :=
  Option.map_eq_some_iff

@[simp] theorem leaves?_eq_none_iff {items : Sequence} {text : List Char} :
    items.leaves? text = none ↔ items.consumed? text = none :=
  Option.map_eq_none_iff

@[simp] theorem leaves?_nil (text : List Char) : leaves? [] text = some text := by
  simp [leaves?, consumed?]

theorem leaves?_cons (item : Item) (others : Sequence) (text : List Char) :
    leaves? (item :: others) text = (item.matcher.leaves? text).bind (leaves? others) := by
  rw [leaves?, Matcher.leaves?, consumed?_cons]
  cases item.matcher.consumed? text with
  | none => rfl
  | some taken => simp [leaves?, Function.comp_def]

theorem leaves?_append (first second : Sequence) (text : List Char) :
    leaves? (first ++ second) text = (leaves? first text).bind (leaves? second) := by
  induction first generalizing text with
  | nil => simp
  | cons item first ih =>
      rw [List.cons_append, leaves?_cons, leaves?_cons, Option.bind_assoc]
      exact congrArg _ (funext ih)

end Sequence

end PatternLexer
