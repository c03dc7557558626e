import PatternLexer.Proofs.Tokenizer.Tiling

/-!
# What a run emits

What the callbacks emit stands in the trace of a run between its own events. A run that
succeeds has dealt with all visits of its input, so it emits what the callbacks emit
there, one visit after another (`emitted_run`). What is emitted in a run inside a run
comes with its depth.
-/

namespace PatternLexer

variable {ε error α β : Type}

namespace Outcome

@[simp] theorem emitted_of (result : Except error α) :
    (of result : Outcome ε error α).emitted = [] := rfl

/-- A step that goes on has succeeded. -/
theorem result_of_andThen {first : Outcome ε error α} {next : α → Outcome ε error β} {last : β}
    (succeeds : (first.andThen next).result = .ok last) :
    ∃ value, first.result = .ok value ∧ (next value).result = .ok last := by
  rcases first with ⟨trace, result⟩
  cases result with
  | error failure => cases succeeds
  | ok value => exact ⟨value, rfl, succeeds⟩

theorem emitted_andThen {first : Outcome ε error α} {value : α}
    (succeeds : first.result = .ok value) (next : α → Outcome ε error β) :
    (first.andThen next).emitted = first.emitted ++ (next value).emitted := by
  rw [andThen_of_result succeeds]
  simp [emitted, prepend]

end Outcome

namespace Tokenizer

variable {tokenizer : Tokenizer ε} {runOn : String → Option (Outcome ε RunError Unit)}

/-- What the callback of the rule that matched at a visit emits. -/
def emittedAt (tokenizer : Tokenizer ε) (runOn : String → Option (Outcome ε RunError Unit))
    (visit : Visit) : List (Nat × ε) :=
  match visit.hit with
  | none => []
  | some (rule, token) =>
      ((tokenizer.callback rule token).perform runOn tokenizer.accepts).emitted

theorem emitted_call (tokenizer : Tokenizer ε)
    (runOn : String → Option (Outcome ε RunError Unit)) (visit : Visit) :
    (tokenizer.call runOn visit.hit).emitted = tokenizer.emittedAt runOn visit := by
  rcases visit with ⟨pos, hit, dropped⟩
  cases hit <;> rfl

/-- To drop a character emits nothing. -/
theorem emitted_drop (tokenizer : Tokenizer ε) (pos : Nat) (c : Char) :
    (tokenizer.drop pos c).emitted = [] := by
  rw [drop]
  split <;> rfl

theorem emitted_attend {visit : Visit} (succeeds : (tokenizer.attend runOn visit).result = .ok ()) :
    (tokenizer.attend runOn visit).emitted = tokenizer.emittedAt runOn visit := by
  rcases Outcome.result_of_andThen succeeds with ⟨value, called, -⟩
  rw [attend, Outcome.emitted_andThen called, emitted_call]
  cases visit.dropped with
  | none => simp
  | some c => simp [emitted_drop]

theorem emitted_follow {visits : List Visit}
    (succeeds : (tokenizer.follow runOn visits).result = .ok ()) :
    (tokenizer.follow runOn visits).emitted = visits.flatMap (tokenizer.emittedAt runOn) := by
  induction visits with
  | nil => rfl
  | cons visit visits ih =>
      rcases Outcome.result_of_andThen succeeds with ⟨value, attended, followed⟩
      rw [follow, Outcome.emitted_andThen attended, emitted_attend attended, ih followed,
        List.flatMap_cons]

/-- A run that succeeds emits what the callbacks emit at the visits of the input. -/
theorem emitted_run {nesting : Nat} {input : String}
    (succeeds : (tokenizer.run nesting input).result = .ok ()) :
    (tokenizer.run nesting input).emitted =
      (Visit.visits tokenizer.patterns input).flatMap
        (tokenizer.emittedAt (tokenizer.answers nesting)) := by
  cases pending : tokenizer.pending with
  | some failure =>
      rw [run_of_pending pending] at succeeds
      cases succeeds
  | none =>
      rw [run_eq_runWith, runWith_eq_follow pending] at succeeds ⊢
      exact emitted_follow succeeds

end Tokenizer

end PatternLexer
