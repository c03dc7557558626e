import PatternLexer.Proofs.Tokenizer.Visits

/-!
# A run tiles its input

When all callbacks of a run succeed, what happens in it and what it comes to are determined
by its visits and by the policy for characters that nothing consumes (`follow_eq_course`).
When such characters are passed over as well, the run succeeds, and its tokens and the
dropped characters, put together in order, are the input (`run_tiles`).

What callbacks emit and what happens in the runs inside a run is in its trace as well;
`Outcome.ownEvents` leaves it out.
-/

namespace PatternLexer

open Text

variable {ε error α : Type}

/-- The text that an event stands for. -/
def Event.text : Event ε → List Char
  | .matched _ token => token.lexeme.toList
  | .skipped _ c | .warned _ c => [c]
  | .emitted _ => []

/-- Where a callback is called. -/
def Event.calledAt? : Event ε → Option Nat
  | .matched _ token => some token.pos
  | .skipped _ _ | .warned _ _ | .emitted _ => none

/-- The event of an entry, if it happens in the run itself and is not the work of a
callback. -/
def Entry.own? : Entry ε → Option (Event ε)
  | ⟨0, .emitted _⟩ => none
  | ⟨0, event⟩ => some event
  | ⟨_ + 1, _⟩ => none

/-- What happens in a run itself, in order. -/
def Outcome.ownEvents (outcome : Outcome ε error α) : List (Event ε) :=
  outcome.trace.filterMap Entry.own?

/-- How a dropped character is reported. -/
def UnmatchedPolicy.events (pos : Nat) (c : Char) : UnmatchedPolicy → List (Event ε)
  | .skip => [.skipped pos c]
  | .log => [.warned pos c]
  | .error => []

/-- What a dropped character comes to: the policy may not allow it. -/
def UnmatchedPolicy.result (pos : Nat) (c : Char) : UnmatchedPolicy → Except RunError Unit
  | .skip | .log => .ok ()
  | .error => .error (.unmatched pos c)

/-- What happens at a visit: the callback of the rule that matched is called, and then
the dropped character is reported. -/
def Visit.events (policy : UnmatchedPolicy) (visit : Visit) : List (Event ε) :=
  (match visit.hit with
    | some (rule, token) => [.matched rule token]
    | none => []) ++
  (match visit.dropped with
    | some c => policy.events visit.pos c
    | none => [])

/-- What a visit comes to when its callback succeeds. -/
def Visit.result (policy : UnmatchedPolicy) (visit : Visit) : Except RunError Unit :=
  match visit.dropped with
  | some c => policy.result visit.pos c
  | none => .ok ()

/-- What happens at visits in order, and what this comes to, when all callbacks succeed. The
first visit that fails is the last one. -/
def Visit.course (policy : UnmatchedPolicy) : List Visit → List (Event ε) × Except RunError Unit
  | [] => ([], .ok ())
  | visit :: visits =>
      match visit.result policy with
      | .ok _ => (visit.events policy ++ (course policy visits).1, (course policy visits).2)
      | .error failure => (visit.events policy, .error failure)

namespace Visit

variable {policy : UnmatchedPolicy} {visit : Visit} {visits : List Visit}

theorem result_of_passesOver (passesOver : policy ≠ .error) (visit : Visit) :
    visit.result policy = .ok () := by
  rw [result]
  cases visit.dropped with
  | none => rfl
  | some c =>
      cases policy with
      | skip | log => rfl
      | error => exact absurd rfl passesOver

/-- Where dropped characters are passed over all visits take their turn. -/
theorem course_of_passesOver (passesOver : policy ≠ .error) (visits : List Visit) :
    (course policy visits : List (Event ε) × _) = (visits.flatMap (events policy), .ok ()) := by
  induction visits with
  | nil => rfl
  | cons visit visits ih => simp only [course, result_of_passesOver passesOver, ih, List.flatMap_cons]

/-- A run that takes its course ends well or with a character that may not be dropped. -/
theorem course_result (policy : UnmatchedPolicy) (visits : List Visit) :
    (course policy visits : List (Event ε) × _).2 = .ok () ∨
      ∃ pos c, (course policy visits : List (Event ε) × _).2 = .error (.unmatched pos c) := by
  induction visits with
  | nil => exact .inl rfl
  | cons visit visits ih =>
      rw [course]
      cases here : visit.result policy with
      | ok value => exact ih
      | error failure =>
          right
          rw [result] at here
          cases dropped : visit.dropped with
          | none =>
              rw [dropped] at here
              cases here
          | some c =>
              rw [dropped] at here
              cases policy with
              | skip | log => cases here
              | error =>
                  cases here
                  exact ⟨visit.pos, c, rfl⟩

/-- The events of visits stand for what the visits pass over. -/
theorem flatMap_text_flatMap_events (passesOver : policy ≠ .error) (visits : List Visit) :
    (visits.flatMap (events policy) : List (Event ε)).flatMap Event.text =
      visits.flatMap passed := by
  rw [List.flatMap_assoc]
  congr 1
  funext visit
  rcases visit with ⟨pos, hit, dropped⟩
  cases policy with
  | skip | log =>
      cases hit <;> cases dropped <;> simp [events, passed, UnmatchedPolicy.events, Event.text]
  | error => exact absurd rfl passesOver

/-- The calls of a visit are that of its token. -/
theorem calledAt?_eq_some {event : Event ε} {pos : Nat} (member : event ∈ visit.events policy)
    (called : event.calledAt? = some pos) :
    ∃ rule token, visit.hit = some (rule, token) ∧ token.pos = pos := by
  rcases visit with ⟨place, hit, dropped⟩
  rcases List.mem_append.mp member with call | drop
  · cases hit with
    | none => cases call
    | some found =>
        rw [List.mem_singleton.mp call] at called
        exact ⟨found.1, found.2, rfl, by simpa [Event.calledAt?] using called⟩
  · cases dropped with
    | none => cases drop
    | some c =>
        cases policy with
        | error => cases drop
        | skip | log =>
            rw [List.mem_singleton.mp drop] at called
            cases called

/-- Where visits are further and further on, so are the calls. -/
theorem pairwise_calledAt (increasing : visits.Pairwise (·.pos < ·.pos))
    (here : ∀ visit ∈ visits, ∀ rule token, visit.hit = some (rule, token) →
      token.pos = visit.pos) :
    ((visits.flatMap (events policy) : List (Event ε)).filterMap
      Event.calledAt?).Pairwise (· < ·) := by
  rw [List.pairwise_filterMap, List.pairwise_flatMap]
  constructor
  · -- Within a visit there is one call at most, and it comes first.
    intro visit _
    rcases visit with ⟨pos, hit, dropped⟩
    cases policy <;> cases hit <;> cases dropped <;>
      simp [events, UnmatchedPolicy.events, Event.calledAt?]
  · apply increasing.imp_of_mem
    intro first second inFirst inSecond less event member event' member' pos called pos' called'
    rcases calledAt?_eq_some member called with ⟨rule, token, hit, rfl⟩
    rcases calledAt?_eq_some member' called' with ⟨rule', token', hit', rfl⟩
    rw [here first inFirst rule token hit, here second inSecond rule' token' hit']
    exact less

end Visit

namespace Outcome

@[simp] theorem ownEvents_of (result : Except error α) :
    (of result : Outcome ε error α).ownEvents = [] := rfl

@[simp] theorem ownEvents_prepend (trace : List (Entry ε)) (outcome : Outcome ε error α) :
    (outcome.prepend trace).ownEvents = trace.filterMap Entry.own? ++ outcome.ownEvents := by
  simp [ownEvents, prepend]

@[simp] theorem ownEvents_mapError {error' : Type} (change : error → error')
    (outcome : Outcome ε error α) : (outcome.mapError change).ownEvents = outcome.ownEvents := rfl

/-- What comes first stays in the trace, whatever it came to. -/
theorem mem_trace_andThen {β : Type} {first : Outcome ε error α} {entry : Entry ε}
    (member : entry ∈ first.trace) (next : α → Outcome ε error β) :
    entry ∈ (first.andThen next).trace := by
  rw [andThen]
  split
  · exact List.mem_append_left _ member
  · exact member

/-- Where the first step succeeds the next one follows. -/
theorem andThen_of_result {β : Type} {first : Outcome ε error α} {value : α}
    (succeeds : first.result = .ok value) (next : α → Outcome ε error β) :
    first.andThen next = (next value).prepend first.trace := by
  simp [andThen, succeeds]

/-- Where the first step fails nothing follows. -/
theorem andThen_of_error {β : Type} {first : Outcome ε error α} {failure : error}
    (fails : first.result = .error failure) (next : α → Outcome ε error β) :
    first.andThen next = ⟨first.trace, .error failure⟩ := by
  simp [andThen, fails]

end Outcome

/-- A callback does nothing that happens in the run itself. -/
theorem Reaction.ownEvents_perform (reaction : Reaction ε α)
    (runOn : String → Option (Outcome ε RunError Unit))
    (test : String → String → Except RunError Bool) :
    (reaction.perform runOn test).ownEvents = [] := by
  induction reaction with
  | done value => rfl
  | fail failure => rfl
  | emit value next ih => simp [perform, ih, Entry.own?]
  | run input next ih =>
      have deeper (trace : List (Entry ε)) :
          (trace.map Entry.deeper).filterMap Entry.own? = [] := by
        simp [List.filterMap_eq_nil_iff, Entry.deeper, Entry.own?]
      rw [perform]
      split
      · exact ih none
      · rw [Outcome.ownEvents_prepend, deeper, ih, List.append_nil]
  | test input pattern next ih => exact ih _

namespace Tokenizer

variable {tokenizer : Tokenizer ε} {runOn : String → Option (Outcome ε RunError Unit)}

/-- All callbacks that are called in an outcome succeed. -/
def CallbacksSucceed (tokenizer : Tokenizer ε)
    (runOn : String → Option (Outcome ε RunError Unit)) (outcome : Outcome ε RunError Unit) :
    Prop :=
  ∀ rule token, ⟨0, .matched rule token⟩ ∈ outcome.trace →
    ((tokenizer.callback rule token).perform runOn tokenizer.accepts).result = .ok ()

theorem drop_eq (tokenizer : Tokenizer ε) (pos : Nat) (c : Char) :
    (tokenizer.drop pos c).result = tokenizer.unmatched.result pos c ∧
      (tokenizer.drop pos c).ownEvents = tokenizer.unmatched.events pos c := by
  rw [drop]
  cases tokenizer.unmatched <;> exact ⟨rfl, rfl⟩

/-- A call is recorded, and comes to what the callback does. -/
theorem call_eq (tokenizer : Tokenizer ε)
    (runOn : String → Option (Outcome ε RunError Unit)) (rule : Nat) (token : Token) :
    ⟨0, .matched rule token⟩ ∈ (tokenizer.call runOn (some (rule, token))).trace ∧
      (tokenizer.call runOn (some (rule, token))).ownEvents = [.matched rule token] ∧
      (((tokenizer.callback rule token).perform runOn tokenizer.accepts).result = .ok () →
        (tokenizer.call runOn (some (rule, token))).result = .ok ()) := by
  refine ⟨List.mem_cons_self, ?_, ?_⟩
  · simp [call, Reaction.ownEvents_perform, Entry.own?]
  · intro succeeds
    simp only [call, Outcome.prepend, Outcome.mapError, succeeds]
    rfl

/-- Dealing with a visit whose callback succeeds. -/
theorem attend_eq (visit : Visit)
    (succeeds : tokenizer.CallbacksSucceed runOn (tokenizer.attend runOn visit)) :
    (tokenizer.attend runOn visit).result = visit.result tokenizer.unmatched ∧
      (tokenizer.attend runOn visit).ownEvents = visit.events tokenizer.unmatched := by
  obtain ⟨pos, hit, dropped⟩ := visit
  have calls : (tokenizer.call runOn hit).result = .ok () ∧
      (tokenizer.call runOn hit).ownEvents = Visit.events tokenizer.unmatched ⟨pos, hit, none⟩ := by
    cases hit with
    | none => exact ⟨rfl, rfl⟩
    | some found =>
        obtain ⟨called, events, result⟩ := tokenizer.call_eq runOn found.1 found.2
        exact ⟨result (succeeds _ _ (Outcome.mem_trace_andThen called _)), events⟩
  rw [attend, Outcome.andThen_of_result calls.1]
  cases dropped with
  | none =>
      constructor
      · rfl
      · rw [Outcome.ownEvents_prepend, Outcome.ownEvents_of, List.append_nil, ← calls.2]
        rfl
  | some c =>
      obtain ⟨result, events⟩ := tokenizer.drop_eq pos c
      constructor
      · exact result
      · rw [Outcome.ownEvents_prepend, events]
        change (tokenizer.call runOn hit).ownEvents ++ _ = _
        rw [calls.2]
        simp [Visit.events]

/-- Dealing with visits whose callbacks succeed takes its course. -/
theorem follow_eq_course (visits : List Visit)
    (succeeds : tokenizer.CallbacksSucceed runOn (tokenizer.follow runOn visits)) :
    (tokenizer.follow runOn visits).result =
        (Visit.course tokenizer.unmatched visits : List (Event ε) × _).2 ∧
      (tokenizer.follow runOn visits).ownEvents = (Visit.course tokenizer.unmatched visits).1 := by
  induction visits with
  | nil => exact ⟨rfl, rfl⟩
  | cons visit visits ih =>
      obtain ⟨result, events⟩ := attend_eq visit fun rule token called =>
        succeeds rule token (Outcome.mem_trace_andThen called _)
      rw [Visit.course, ← result]
      cases attended : (tokenizer.attend runOn visit).result with
      | error failure =>
          have ends : tokenizer.follow runOn (visit :: visits) =
              ⟨(tokenizer.attend runOn visit).trace, .error failure⟩ :=
            Outcome.andThen_of_error attended _
          rw [ends]
          exact ⟨rfl, events⟩
      | ok value =>
          have split : tokenizer.follow runOn (visit :: visits) =
              (tokenizer.follow runOn visits).prepend (tokenizer.attend runOn visit).trace :=
            Outcome.andThen_of_result attended _
          rw [split] at succeeds ⊢
          have others := ih fun rule token called =>
            succeeds rule token (List.mem_append_right _ called)
          refine ⟨others.1, ?_⟩
          rw [Outcome.ownEvents_prepend, others.2, ← events]
          rfl

/-- Dealing with visits whose callbacks succeed, where dropped characters are passed over. -/
theorem follow_eq (passesOver : tokenizer.unmatched ≠ .error) (visits : List Visit)
    (succeeds : tokenizer.CallbacksSucceed runOn (tokenizer.follow runOn visits)) :
    (tokenizer.follow runOn visits).result = .ok () ∧
      (tokenizer.follow runOn visits).ownEvents =
        visits.flatMap (Visit.events tokenizer.unmatched) := by
  have course := follow_eq_course visits succeeds
  rwa [Visit.course_of_passesOver passesOver] at course

/-! ## Runs -/

/-- What the runs that callbacks ask for come to, if they are not refused. -/
def answers (tokenizer : Tokenizer ε) : (nesting : Nat) → (input : String) →
    Option (Outcome ε RunError Unit)
  | 0, _ => none
  | nesting + 1, input => some (tokenizer.run nesting input)

theorem run_eq_runWith (tokenizer : Tokenizer ε) (nesting : Nat) :
    tokenizer.run nesting = tokenizer.runWith (tokenizer.answers nesting) := by
  cases nesting <;> rfl

/-- What happens in a run whose callbacks succeed, and what it comes to, is the course of the
visits of its input. -/
theorem run_eq_course {nesting : Nat} {input : String} (pending : tokenizer.pending = none)
    (succeeds : tokenizer.CallbacksSucceed (tokenizer.answers nesting)
      (tokenizer.run nesting input)) :
    (tokenizer.run nesting input).result =
        (Visit.course tokenizer.unmatched (Visit.visits tokenizer.patterns input) :
          List (Event ε) × _).2 ∧
      (tokenizer.run nesting input).ownEvents =
        (Visit.course tokenizer.unmatched (Visit.visits tokenizer.patterns input)).1 := by
  rw [run_eq_runWith, runWith_eq_follow pending] at succeeds ⊢
  exact follow_eq_course _ succeeds

/-- A run that succeeds and tiles its input by the visits of some places. Every visit
reports what is at its place, and all that happens in the run is what is due at the
visits: a call for the first rule that matches, and a report for the character that is
dropped. The end is visited only where the input is empty, and then nothing is dropped. -/
structure Tiles (tokenizer : Tokenizer ε) (input : String) (visits : List Visit)
    (outcome : Outcome ε RunError Unit) : Prop where
  succeeds : outcome.result = .ok ()
  events_eq : outcome.ownEvents = visits.flatMap (Visit.events tokenizer.unmatched)
  covers : outcome.ownEvents.flatMap Event.text = input.toList
  reports (visit : Visit) (member : visit ∈ visits) : ∃ before rest,
    before ++ rest = input.toList ∧ (rest = [] → input = "") ∧
      visit.Reports tokenizer.patterns before rest
  increasing : visits.Pairwise (·.pos < ·.pos)
  calls_increasing : (outcome.ownEvents.filterMap Event.calledAt?).Pairwise (· < ·)
  empty : input = "" → ∃ hit, visits = [⟨0, hit, none⟩]

/-- A run without a registration error in which all callbacks succeed, and which does not
fail for characters that nothing consumes, succeeds and tiles its input. -/
theorem run_tiles (tokenizer : Tokenizer ε) (nesting : Nat) (input : String)
    (pending : tokenizer.pending = none) (passesOver : tokenizer.unmatched ≠ .error)
    (succeeds : tokenizer.CallbacksSucceed (tokenizer.answers nesting)
      (tokenizer.run nesting input)) :
    ∃ visits, tokenizer.Tiles input visits (tokenizer.run nesting input) := by
  rw [run_eq_runWith, runWith_eq_follow pending] at succeeds ⊢
  rcases follow_eq passesOver _ succeeds with ⟨result, events⟩
  have increasing := Visit.pairwise_pos_visits tokenizer.patterns input
  refine ⟨Visit.visits tokenizer.patterns input, result, events, ?_,
    fun visit => Visit.reports_visits tokenizer.patterns, increasing, ?_, ?_⟩
  · rw [events, Visit.flatMap_text_flatMap_events passesOver, Visit.flatMap_passed_visits]
  · rw [events]
    apply Visit.pairwise_calledAt increasing
    intro visit member rule token hit
    rcases Visit.reports_visits tokenizer.patterns member with ⟨before, rest, -, -, reports⟩
    exact (reports.token_at rule token hit).1
  · intro empty
    subst empty
    refine ⟨Visit.foundAt tokenizer.patterns "" (.start []), ?_⟩
    simp [Visit.visits_empty, Visit.of, Place.start]

/-- Letters are tokens, blanks are dropped with an empty token of the second rule. -/
theorem run_tiles_words :
    ∃ visits, Tiles (ε := Unit)
      { rules := [⟨[⟨Builtin.word.matcher, some "word"⟩], fun _ => .done ()⟩,
          ⟨[], fun _ => .done ()⟩] }
      "ab é" visits
      (run { rules := [⟨[⟨Builtin.word.matcher, some "word"⟩], fun _ => .done ()⟩,
          ⟨[], fun _ => .done ()⟩] } 0 "ab é") := by
  apply run_tiles _ 0 "ab é" rfl (by decide)
  intro rule token _
  match rule with
  | 0 | 1 | _ + 2 => rfl

end Tokenizer

end PatternLexer
