import PatternLexer.Proofs.Pattern.Consumption
import PatternLexer.Proofs.Pattern.Everywhere
import PatternLexer.Proofs.Registry.Canonical

/-!
# Sequences one after another

What two sequences consume and capture when they are put together: the second goes on
where the first one ends. To make one literal of two that meet makes no difference
(`consumed?_join`, `captured_join`).
-/

namespace PatternLexer

namespace Sequence

variable {source : String} {place : Place} {taken text : List Char}

theorem consumed?_cons (item : Item) (others : Sequence) (text : List Char) :
    consumed? (item :: others) text =
      (item.matcher.consumed? text).bind fun taken =>
        (consumed? others (text.drop taken.length)).map (taken ++ ·) := by
  rw [consumed?]
  cases item.matcher.consumed? text <;> rfl

/-- A single item consumes what its matcher does. -/
@[simp] theorem consumed?_singleton (item : Item) (text : List Char) :
    consumed? [item] text = item.matcher.consumed? text := by
  rw [consumed?_cons]
  cases item.matcher.consumed? text <;> simp [consumed?]

theorem consumed?_append (first second : Sequence) (text : List Char) :
    consumed? (first ++ second) text =
      (consumed? first text).bind fun taken =>
        (consumed? second (text.drop taken.length)).map (taken ++ ·) := by
  induction first generalizing text with
  | nil => cases consumed : consumed? second text <;> simp [consumed?, consumed]
  | cons item first ih =>
      rw [List.cons_append, consumed?_cons, consumed?_cons]
      cases item.matcher.consumed? text with
      | none => rfl
      | some taken =>
          simp only [Option.bind_some, ih]
          cases consumed? first (text.drop taken.length) with
          | none => rfl
          | some further =>
              cases consumed : consumed? second (text.drop (taken.length + further.length)) <;>
                simp [consumed]

theorem captured_cons_of_some {item : Item}
    (consumed : item.matcher.consumed? place.rest = some taken) (others : Sequence) :
    captured source (item :: others) place =
      (item.matcher.matched source place taken).filed source item.capture ++
        captured source others (place.past taken) := by
  rw [captured, consumed]
  rfl

theorem captured_cons_of_none {item : Item}
    (fails : item.matcher.consumed? place.rest = none) (others : Sequence) :
    captured source (item :: others) place = [] := by
  rw [captured, fails]

/-- Behind the items that have consumed something the others capture. -/
theorem captured_append {first : Sequence} (consumed : consumed? first place.rest = some taken)
    (second : Sequence) :
    captured source (first ++ second) place =
      captured source first place ++ captured source second (place.past taken) := by
  induction first generalizing place taken with
  | nil =>
      cases consumed
      simp [captured, Place.past]
  | cons item first ih =>
      rw [consumed?_cons, Option.bind_eq_some_iff] at consumed
      rcases consumed with ⟨here, passed, further⟩
      rcases Option.map_eq_some_iff.mp further with ⟨there, behind, rfl⟩
      rw [List.cons_append, captured_cons_of_some passed, captured_cons_of_some passed,
        ih behind, Place.past_past, List.append_assoc]

private theorem consumed?_literals (text more : List Char) (others : Sequence)
    (rest : List Char) :
    consumed? (⟨.literal (text ++ more), none⟩ :: others) rest =
      consumed? (⟨.literal text, none⟩ :: ⟨.literal more, none⟩ :: others) rest := by
  by_cases begins : text <+: rest
  · rcases begins with ⟨rest, rfl⟩
    by_cases further : more <+: rest
    · simp [consumed?_cons, Matcher.consumed?, further, List.prefix_append_right_inj,
        Function.comp_def]
    · simp [consumed?_cons, Matcher.consumed?, further, List.prefix_append_right_inj]
  · have shorter : ¬ text ++ more <+: rest := fun whole =>
      begins ((List.prefix_append text more).trans whole)
    simp [consumed?_cons, Matcher.consumed?, begins, shorter]

private theorem captured_literals (text more : List Char) (others : Sequence) (place : Place) :
    captured source (⟨.literal (text ++ more), none⟩ :: others) place =
      captured source (⟨.literal text, none⟩ :: ⟨.literal more, none⟩ :: others) place := by
  by_cases begins : text <+: place.rest
  · rcases begins with ⟨rest, split⟩
    by_cases further : more <+: rest
    · simp [captured, Matcher.consumed?, ← split, further, List.prefix_append_right_inj]
    · simp [captured, Matcher.consumed?, ← split, further, List.prefix_append_right_inj]
  · have shorter : ¬ text ++ more <+: place.rest := fun whole =>
      begins ((List.prefix_append text more).trans whole)
    simp [captured, Matcher.consumed?, begins, shorter]

theorem consumed?_join (first second : Sequence) (text : List Char) :
    consumed? (first.join second) text = consumed? (first ++ second) text := by
  fun_induction Sequence.join first second generalizing text with
  | case1 second => rfl
  | case2 before more second => exact consumed?_literals before more second text
  | case3 item first second apart ih => simp only [List.cons_append, consumed?_cons, ih]

theorem captured_join (first second : Sequence) (place : Place) :
    captured source (first.join second) place = captured source (first ++ second) place := by
  fun_induction Sequence.join first second generalizing place with
  | case1 second => rfl
  | case2 before more second => exact captured_literals before more second place
  | case3 item first second apart ih =>
      cases consumed : item.matcher.consumed? place.rest with
      | none => rw [List.cons_append, captured_cons_of_none consumed, captured_cons_of_none consumed]
      | some taken =>
          rw [List.cons_append, captured_cons_of_some consumed, captured_cons_of_some consumed, ih]

end Sequence

end PatternLexer
