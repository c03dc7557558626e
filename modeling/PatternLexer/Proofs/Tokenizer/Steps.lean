import PatternLexer.Proofs.Tokenizer.Tiling

/-!
# The steps of a run

Dealing with a visit is a call, if a rule matched, and then a drop, if a character is left. A
call that fails ends the run (`follow_of_call_error`), otherwise the run goes on
(`follow_of_call_ok`). All that happens in a run is due at some visit
(`exists_visit_of_mem_follow`), and a run fails for a dropped character or because a callback
that it calls fails (`follow_eq_error_cases`).
-/

namespace PatternLexer

variable {ε error α β : Type}

namespace Outcome

theorem prepend_andThen (trace : List (Entry ε)) (first : Outcome ε error α)
    (next : α → Outcome ε error β) :
    (first.prepend trace).andThen next = (first.andThen next).prepend trace := by
  obtain ⟨begun, result⟩ := first
  cases result <;> simp [andThen, prepend]

theorem mem_ownEvents_andThen {first : Outcome ε error α} {next : α → Outcome ε error β}
    {event : Event ε} (member : event ∈ (first.andThen next).ownEvents) :
    event ∈ first.ownEvents ∨ ∃ value, event ∈ (next value).ownEvents := by
  cases result : first.result with
  | error failure =>
      rw [andThen_of_error result] at member
      exact .inl member
  | ok value =>
      rw [andThen_of_result result, ownEvents_prepend] at member
      exact (List.mem_append.mp member).imp_right fun further => ⟨value, further⟩

/-- The calls of a run are in its trace, and no run inside the run has calls there. -/
theorem mem_trace_matched_iff {outcome : Outcome ε error α} {rule : Nat} {token : Token} :
    ⟨0, .matched rule token⟩ ∈ outcome.trace ↔ .matched rule token ∈ outcome.ownEvents := by
  rw [ownEvents, List.mem_filterMap]
  constructor
  · intro member
    exact ⟨_, member, rfl⟩
  · rintro ⟨⟨depth, event⟩, member, own⟩
    cases depth <;> cases event <;> cases own
    exact member

end Outcome

namespace Tokenizer

variable {tokenizer : Tokenizer ε} {runOn : String → Option (Outcome ε RunError Unit)}
  {visit : Visit} {visits : List Visit} {failure : RunError}

theorem ownEvents_call (tokenizer : Tokenizer ε)
    (runOn : String → Option (Outcome ε RunError Unit)) (hit : Option (Nat × Token)) :
    (tokenizer.call runOn hit).ownEvents =
      hit.toList.map fun (rule, token) => .matched rule token := by
  cases hit with
  | none => rfl
  | some found => exact (tokenizer.call_eq runOn found.1 found.2).2.1

theorem mem_ownEvents_call_iff (tokenizer : Tokenizer ε)
    (runOn : String → Option (Outcome ε RunError Unit)) (hit : Option (Nat × Token))
    {rule : Nat} {token : Token} :
    .matched rule token ∈ (tokenizer.call runOn hit).ownEvents ↔ hit = some (rule, token) := by
  rw [ownEvents_call]
  cases hit with
  | none => simp
  | some found => simp [Prod.ext_iff, eq_comm]

/-- A call fails because its callback does. -/
theorem call_eq_error {hit : Option (Nat × Token)}
    (fails : (tokenizer.call runOn hit).result = .error failure) :
    ∃ rule token raised, hit = some (rule, token) ∧
      ((tokenizer.callback rule token).perform runOn tokenizer.accepts).result = .error raised ∧
        failure = .ofFailure raised := by
  cases hit with
  | none => cases fails
  | some found =>
      obtain ⟨rule, token⟩ := found
      change (((tokenizer.callback rule token).perform runOn tokenizer.accepts).result.mapError
        RunError.ofFailure) = _ at fails
      cases performed : ((tokenizer.callback rule token).perform runOn tokenizer.accepts).result with
      | ok value =>
          rw [performed] at fails
          cases fails
      | error raised =>
          rw [performed] at fails
          cases fails
          exact ⟨rule, token, raised, rfl, performed, rfl⟩

/-- Deal with the character that is dropped at a visit, if one is. -/
def dropAt (tokenizer : Tokenizer ε) (visit : Visit) : Outcome ε RunError Unit :=
  match visit.dropped with
  | none => .of (.ok ())
  | some c => tokenizer.drop visit.pos c

theorem attend_eq_andThen (tokenizer : Tokenizer ε)
    (runOn : String → Option (Outcome ε RunError Unit)) (visit : Visit) :
    tokenizer.attend runOn visit =
      (tokenizer.call runOn visit.hit).andThen fun _ => tokenizer.dropAt visit := rfl

theorem mem_events_of_mem_dropAt {event : Event ε}
    (member : event ∈ (tokenizer.dropAt visit).ownEvents) :
    event ∈ visit.events tokenizer.unmatched := by
  apply List.mem_append_right
  rw [dropAt] at member
  cases dropped : visit.dropped with
  | none => simp [dropped] at member
  | some c =>
      simp only [dropped] at member ⊢
      rwa [← (tokenizer.drop_eq visit.pos c).2]

theorem not_mem_ownEvents_dropAt {rule : Nat} {token : Token} :
    .matched rule token ∉ (tokenizer.dropAt visit).ownEvents := by
  rw [dropAt]
  cases visit.dropped with
  | none => exact List.not_mem_nil
  | some c =>
      rw [(tokenizer.drop_eq visit.pos c).2]
      cases tokenizer.unmatched <;> simp [UnmatchedPolicy.events]

theorem dropAt_eq_error (fails : (tokenizer.dropAt visit).result = .error failure) :
    ∃ pos c, failure = .unmatched pos c := by
  rw [dropAt] at fails
  cases dropped : visit.dropped with
  | none =>
      rw [dropped] at fails
      cases fails
  | some c =>
      rw [dropped, (tokenizer.drop_eq visit.pos c).1] at fails
      cases policy : tokenizer.unmatched with
      | skip | log =>
          rw [policy] at fails
          cases fails
      | error =>
          rw [policy] at fails
          cases fails
          exact ⟨visit.pos, c, rfl⟩

theorem follow_of_call_error (fails : (tokenizer.call runOn visit.hit).result = .error failure)
    (visits : List Visit) :
    tokenizer.follow runOn (visit :: visits) =
      ⟨(tokenizer.call runOn visit.hit).trace, .error failure⟩ := by
  rw [follow, attend_eq_andThen, Outcome.andThen_of_error fails]
  rfl

theorem follow_of_call_ok (succeeds : (tokenizer.call runOn visit.hit).result = .ok ())
    (visits : List Visit) :
    tokenizer.follow runOn (visit :: visits) =
      ((tokenizer.dropAt visit).andThen fun _ => tokenizer.follow runOn visits).prepend
        (tokenizer.call runOn visit.hit).trace := by
  rw [follow, attend_eq_andThen, Outcome.andThen_of_result succeeds, Outcome.prepend_andThen]

theorem mem_events_of_mem_attend {event : Event ε}
    (member : event ∈ (tokenizer.attend runOn visit).ownEvents) :
    event ∈ visit.events tokenizer.unmatched := by
  rw [attend_eq_andThen] at member
  rcases Outcome.mem_ownEvents_andThen member with called | ⟨_, reported⟩
  · rw [ownEvents_call] at called
    apply List.mem_append_left
    cases hit : visit.hit with
    | none => simp [hit] at called
    | some found => simpa [hit] using called
  · exact mem_events_of_mem_dropAt reported

/-- All that happens in the run itself is due at some visit. -/
theorem exists_visit_of_mem_follow {event : Event ε}
    (member : event ∈ (tokenizer.follow runOn visits).ownEvents) :
    ∃ visit ∈ visits, event ∈ visit.events tokenizer.unmatched := by
  induction visits with
  | nil => cases member
  | cons visit visits ih =>
      rw [follow] at member
      rcases Outcome.mem_ownEvents_andThen member with attended | ⟨_, followed⟩
      · exact ⟨visit, List.mem_cons_self, mem_events_of_mem_attend attended⟩
      · obtain ⟨later, inVisits, due⟩ := ih followed
        exact ⟨later, List.mem_cons_of_mem visit inVisits, due⟩

variable {rule : Nat} {token : Token} {raised : Failure}

/-- A callback that is called and fails ends the run with its failure. -/
theorem follow_of_matched (called : .matched rule token ∈ (tokenizer.follow runOn visits).ownEvents)
    (fails : ((tokenizer.callback rule token).perform runOn tokenizer.accepts).result =
      .error raised) :
    (tokenizer.follow runOn visits).result = .error (.ofFailure raised) := by
  have ends : (tokenizer.call runOn (some (rule, token))).result = .error (.ofFailure raised) :=
    congrArg (Except.mapError RunError.ofFailure) fails
  induction visits with
  | nil => cases called
  | cons visit visits ih =>
      cases result : (tokenizer.call runOn visit.hit).result with
      | error failure =>
          rw [follow_of_call_error result] at called ⊢
          have hit := (tokenizer.mem_ownEvents_call_iff runOn visit.hit).mp called
          rw [hit, ends] at result
          exact result.symm
      | ok value =>
          rw [follow_of_call_ok result] at called ⊢
          rw [Outcome.ownEvents_prepend] at called
          rcases List.mem_append.mp called with here | further
          · have hit := (tokenizer.mem_ownEvents_call_iff runOn visit.hit).mp here
            rw [hit, ends] at result
            cases result
          · cases dropped : (tokenizer.dropAt visit).result with
            | error failure =>
                rw [Outcome.andThen_of_error dropped] at further
                exact absurd further not_mem_ownEvents_dropAt
            | ok value =>
                rw [Outcome.andThen_of_result dropped] at further ⊢
                rw [Outcome.ownEvents_prepend] at further
                rcases List.mem_append.mp further with here | later
                · exact absurd here not_mem_ownEvents_dropAt
                · exact ih later

/-- A run fails for a character that it drops, or with the failure of a callback that it calls. -/
theorem follow_eq_error_cases (fails : (tokenizer.follow runOn visits).result = .error failure) :
    (∃ pos c, failure = .unmatched pos c) ∨
      ∃ rule token raised, .matched rule token ∈ (tokenizer.follow runOn visits).ownEvents ∧
        ((tokenizer.callback rule token).perform runOn tokenizer.accepts).result = .error raised ∧
          failure = .ofFailure raised := by
  induction visits with
  | nil => cases fails
  | cons visit visits ih =>
      cases result : (tokenizer.call runOn visit.hit).result with
      | error ended =>
          rw [follow_of_call_error result] at fails ⊢
          cases fails
          obtain ⟨rule, token, raised, hit, raises, same⟩ := call_eq_error result
          exact .inr ⟨rule, token, raised,
            (tokenizer.mem_ownEvents_call_iff runOn visit.hit).mpr hit, raises, same⟩
      | ok value =>
          rw [follow_of_call_ok result] at fails ⊢
          cases dropped : (tokenizer.dropAt visit).result with
          | error ended =>
              rw [Outcome.andThen_of_error dropped] at fails
              cases fails
              exact .inl (dropAt_eq_error dropped)
          | ok value =>
              rw [Outcome.andThen_of_result dropped] at fails ⊢
              refine (ih fails).imp_right ?_
              rintro ⟨rule, token, raised, called, raises, same⟩
              refine ⟨rule, token, raised, ?_, raises, same⟩
              rw [Outcome.ownEvents_prepend, Outcome.ownEvents_prepend]
              exact List.mem_append_right _ (List.mem_append_right _ called)

end Tokenizer

end PatternLexer
