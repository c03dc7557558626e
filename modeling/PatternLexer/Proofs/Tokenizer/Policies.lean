import PatternLexer.Proofs.Tokenizer.Coverage
import PatternLexer.Proofs.Tokenizer.Steps

/-!
# Policies for characters that nothing consumes

A tokenizer visits the same places and finds the same tokens under every policy. Skipping with
a warning differs from skipping in the warnings alone, also in runs inside runs
(`unwarned_run_log`). Failing stops a run where skipping would drop its first character, and
changes nothing before (`stopsAtDrop_run`). A callback that runs the tokenizer again can see
the failure of the run inside, so this is said of callbacks that do not.

Main statement: `run_of_policies`.
-/

namespace PatternLexer

variable {ε error error' α β : Type}

/-- The same event, with a warning left out. -/
def Event.unwarned : Event ε → Event ε
  | .warned pos c => .skipped pos c
  | event => event

/-- The same entry, with a warning left out. -/
def Entry.unwarned (entry : Entry ε) : Entry ε := { entry with event := entry.event.unwarned }

namespace Outcome

/-- The same outcome, with all warnings left out, at any depth. -/
def unwarned (outcome : Outcome ε error α) : Outcome ε error α :=
  ⟨outcome.trace.map Entry.unwarned, outcome.result⟩

@[simp] theorem result_unwarned (outcome : Outcome ε error α) :
    outcome.unwarned.result = outcome.result := rfl

@[simp] theorem trace_unwarned (outcome : Outcome ε error α) :
    outcome.unwarned.trace = outcome.trace.map Entry.unwarned := rfl

@[simp] theorem unwarned_mapError (change : error → error') (outcome : Outcome ε error α) :
    (outcome.mapError change).unwarned = outcome.unwarned.mapError change := rfl

@[simp] theorem unwarned_prepend (trace : List (Entry ε)) (outcome : Outcome ε error α) :
    (outcome.prepend trace).unwarned = outcome.unwarned.prepend (trace.map Entry.unwarned) := by
  simp [unwarned, prepend]

theorem unwarned_andThen (first : Outcome ε error α) (next : α → Outcome ε error β) :
    (first.andThen next).unwarned = first.unwarned.andThen fun value => (next value).unwarned := by
  cases result : first.result with
  | ok value =>
      have same : first.unwarned.result = .ok value := result
      rw [andThen_of_result result, andThen_of_result same, unwarned_prepend]
      rfl
  | error failure =>
      have same : first.unwarned.result = .error failure := result
      rw [andThen_of_error result, andThen_of_error same]
      rfl

end Outcome

/-- Without the warnings a callback does what it would do without the warnings of the runs
inside. -/
theorem Reaction.unwarned_perform (reaction : Reaction ε α)
    (runOn : String → Option (Outcome ε RunError Unit))
    (test : String → String → Except RunError Bool) :
    (reaction.perform runOn test).unwarned =
      reaction.perform (fun input => (runOn input).map Outcome.unwarned) test := by
  induction reaction with
  | done value => rfl
  | fail failure => rfl
  | emit value next ih => simp [perform, ih, Entry.unwarned, Event.unwarned]
  | run input next ih =>
      simp only [perform]
      cases runOn input with
      | none => exact ih none
      | some inner =>
          have deeper : Entry.unwarned ∘ Entry.deeper (ε := ε) = Entry.deeper ∘ Entry.unwarned := rfl
          simp [ih, deeper]
  | test input pattern next ih => exact ih _

namespace Tokenizer

variable {tokenizer : Tokenizer ε} {policy : UnmatchedPolicy}
  {runOn runOn' : String → Option (Outcome ε RunError Unit)}

@[simp] theorem unmatched_setUnmatched (tokenizer : Tokenizer ε) (policy : UnmatchedPolicy) :
    (tokenizer.setUnmatched policy).unmatched = policy := rfl

@[simp] theorem patterns_setUnmatched (tokenizer : Tokenizer ε) (policy : UnmatchedPolicy) :
    (tokenizer.setUnmatched policy).patterns = tokenizer.patterns := rfl

@[simp] theorem call_setUnmatched (tokenizer : Tokenizer ε) (policy : UnmatchedPolicy) :
    (tokenizer.setUnmatched policy).call = tokenizer.call := rfl

theorem unwarned_call (tokenizer : Tokenizer ε)
    (runOn : String → Option (Outcome ε RunError Unit)) (hit : Option (Nat × Token)) :
    (tokenizer.call runOn hit).unwarned =
      tokenizer.call (fun input => (runOn input).map Outcome.unwarned) hit := by
  cases hit with
  | none => rfl
  | some found => simp [call, Reaction.unwarned_perform, Entry.unwarned, Event.unwarned]

theorem unwarned_attend (tokenizer : Tokenizer ε)
    (runOn : String → Option (Outcome ε RunError Unit)) (visit : Visit) :
    ((tokenizer.setUnmatched .log).attend runOn visit).unwarned =
      (tokenizer.setUnmatched .skip).attend
        (fun input => (runOn input).map Outcome.unwarned) visit := by
  rw [attend, attend, Outcome.unwarned_andThen, call_setUnmatched, call_setUnmatched,
    unwarned_call]
  cases visit.dropped <;> rfl

theorem unwarned_follow (tokenizer : Tokenizer ε)
    (runOn : String → Option (Outcome ε RunError Unit)) (visits : List Visit) :
    ((tokenizer.setUnmatched .log).follow runOn visits).unwarned =
      (tokenizer.setUnmatched .skip).follow
        (fun input => (runOn input).map Outcome.unwarned) visits := by
  induction visits with
  | nil => rfl
  | cons visit visits ih => rw [follow, follow, Outcome.unwarned_andThen, unwarned_attend, ih]

/-- Under both policies that pass over characters the same happens, at any depth, except for the
warnings. -/
theorem unwarned_run_log (tokenizer : Tokenizer ε) (nesting : Nat) (input : String) :
    ((tokenizer.setUnmatched .log).run nesting input).unwarned =
      (tokenizer.setUnmatched .skip).run nesting input := by
  cases pending : tokenizer.pending with
  | some error =>
      have logs : (tokenizer.setUnmatched .log).pending = some error := pending
      have skips : (tokenizer.setUnmatched .skip).pending = some error := pending
      rw [run_of_pending logs, run_of_pending skips]
      rfl
  | none =>
      have logs : (tokenizer.setUnmatched .log).pending = none := pending
      have skips : (tokenizer.setUnmatched .skip).pending = none := pending
      induction nesting generalizing input with
      | zero =>
          rw [run, run, runWith_eq_follow logs, runWith_eq_follow skips, unwarned_follow]
          rfl
      | succ nesting ih =>
          rw [run, run, runWith_eq_follow logs, runWith_eq_follow skips, unwarned_follow]
          simp [ih]

end Tokenizer

/-! ## Dropped characters -/

/-- The character that is dropped, with its offset. -/
def Event.drop? : Event ε → Option (Nat × Char)
  | .skipped pos c | .warned pos c => some (pos, c)
  | .matched _ _ | .emitted _ => none

/-- The rule whose callback is called, with the token. -/
def Event.call? : Event ε → Option (Nat × Token)
  | .matched rule token => some (rule, token)
  | .skipped _ _ | .warned _ _ | .emitted _ => none

theorem Visit.pos_of_drop? {policy : UnmatchedPolicy} {visit : Visit} {event : Event ε} {pos : Nat}
    {c : Char} (member : event ∈ visit.events policy) (drops : event.drop? = some (pos, c)) :
    pos = visit.pos := by
  obtain ⟨place, hit, dropped⟩ := visit
  rcases List.mem_append.mp member with called | reported
  · cases hit with
    | none => cases called
    | some found =>
        rw [List.mem_singleton.mp called] at drops
        cases drops
  · cases dropped with
    | none => cases reported
    | some c =>
        cases policy with
        | error => cases reported
        | skip | log =>
            rw [List.mem_singleton.mp reported] at drops
            cases drops
            rfl

theorem Visit.hit_of_call? {policy : UnmatchedPolicy} {visit : Visit} {event : Event ε}
    {call : Nat × Token} (member : event ∈ visit.events policy) (calls : event.call? = some call) :
    visit.hit = some call := by
  obtain ⟨place, hit, dropped⟩ := visit
  rcases List.mem_append.mp member with called | reported
  · cases hit with
    | none => cases called
    | some found =>
        rw [List.mem_singleton.mp called] at calls
        exact calls
  · cases dropped with
    | none => cases reported
    | some c =>
        cases policy with
        | error => cases reported
        | skip | log =>
            rw [List.mem_singleton.mp reported] at calls
            cases calls

/-- What is reported at visits drops nothing just where the visits drop nothing. -/
theorem Visit.findSome?_drop?_flatMap_events (visits : List Visit) :
    (visits.flatMap (events .skip) : List (Event ε)).findSome? Event.drop? = none ↔
      ∀ visit ∈ visits, visit.dropped = none := by
  induction visits with
  | nil => simp
  | cons visit visits ih =>
      obtain ⟨pos, hit, dropped⟩ := visit
      rw [List.flatMap_cons, List.findSome?_append, Option.or_eq_none_iff, ih, List.forall_mem_cons]
      cases hit <;> cases dropped <;> simp [events, UnmatchedPolicy.events, Event.drop?]

namespace Outcome

/-- The first character that is dropped in the run itself, with its offset. -/
def firstDrop? (outcome : Outcome ε error α) : Option (Nat × Char) :=
  outcome.ownEvents.findSome? Event.drop?

/-- The calls of the callbacks in the run itself, in order. -/
def calls (outcome : Outcome ε error α) : List (Nat × Token) :=
  outcome.ownEvents.filterMap Event.call?

theorem calls_unwarned (outcome : Outcome ε error α) : outcome.unwarned.calls = outcome.calls := by
  have entries (entry : Entry ε) :
      entry.unwarned.own?.bind Event.call? = entry.own?.bind Event.call? := by
    obtain ⟨depth, event⟩ := entry
    cases depth <;> cases event <;> rfl
  rw [calls, calls, ownEvents, ownEvents, List.filterMap_filterMap, List.filterMap_filterMap,
    trace_unwarned, List.filterMap_map]
  exact List.filterMap_congr fun entry _ => entries entry

/-- The first outcome is what the second one comes to when its first dropped character is an
error. Where nothing is dropped, because there is no such character or because a callback fails
before it, they are the same. Otherwise the same happens up to this character, and the
callbacks called are those with tokens up to its offset. -/
structure StopsAtDrop (strict lenient : Outcome ε RunError Unit) : Prop where
  same : lenient.firstDrop? = none → strict = lenient
  stops (pos : Nat) (c : Char) : lenient.firstDrop? = some (pos, c) →
    strict.result = .error (.unmatched pos c) ∧ strict.firstDrop? = none ∧
      (∃ later, lenient.trace = strict.trace ++ ⟨0, .skipped pos c⟩ :: later) ∧
      strict.calls = lenient.calls.filter fun call => call.2.pos ≤ pos

variable {strict lenient : Outcome ε RunError Unit} {trace : List (Entry ε)}

theorem firstDrop?_prepend (first : Outcome ε error' β) (outcome : Outcome ε error α) :
    (outcome.prepend first.trace).firstDrop? = first.firstDrop?.or outcome.firstDrop? := by
  rw [firstDrop?, ownEvents_prepend, List.findSome?_append]
  rfl

theorem calls_prepend (first : Outcome ε error' β) (outcome : Outcome ε error α) :
    (outcome.prepend first.trace).calls = first.calls ++ outcome.calls := by
  rw [calls, ownEvents_prepend, List.filterMap_append]
  rfl

/-- Where nothing is dropped nothing is to be stopped. -/
theorem stopsAtDrop_self (nothing : lenient.firstDrop? = none) : lenient.StopsAtDrop lenient := by
  constructor
  · exact fun _ => rfl
  · intro pos c first
    rw [nothing] at first
    cases first

/-- Where the second outcome is a success, the first one is if nothing is dropped. -/
theorem StopsAtDrop.ok_iff (stops : strict.StopsAtDrop lenient) (ok : lenient.result = .ok ()) :
    strict.result = .ok () ↔ lenient.firstDrop? = none := by
  cases first : lenient.firstDrop? with
  | none =>
      rw [stops.same first]
      exact iff_of_true ok rfl
  | some drop =>
      obtain ⟨result, -⟩ := stops.stops drop.1 drop.2 first
      simp [result]

/-- What happens before both, without dropping anything, does not matter, if it happens no
further on than where the run is stopped. -/
theorem StopsAtDrop.prepend {first : Outcome ε error α} (stops : strict.StopsAtDrop lenient)
    (nothing : first.firstDrop? = none)
    (before : ∀ pos c, lenient.firstDrop? = some (pos, c) →
      ∀ call ∈ first.calls, call.2.pos ≤ pos) :
    (strict.prepend first.trace).StopsAtDrop (lenient.prepend first.trace) := by
  constructor
  · intro none
    rw [firstDrop?_prepend, nothing, Option.none_or] at none
    rw [stops.same none]
  · intro pos c drops
    rw [firstDrop?_prepend, nothing, Option.none_or] at drops
    obtain ⟨result, undropped, ⟨later, split⟩, calls⟩ := stops.stops pos c drops
    have all : first.calls.filter (fun call => call.2.pos ≤ pos) = first.calls := by
      simpa [List.filter_eq_self] using before pos c drops
    refine ⟨result, ?_, ⟨later, ?_⟩, ?_⟩
    · rw [firstDrop?_prepend, nothing, undropped]
      rfl
    · simp [Outcome.prepend, split]
    · rw [calls_prepend, calls_prepend, List.filter_append, all, calls]

/-- The run is stopped at the character that is dropped next, after what has happened before. -/
theorem stopsAtDrop_prepend {first : Outcome ε error α} {pos : Nat} {c : Char}
    (nothing : first.firstDrop? = none) (before : ∀ call ∈ first.calls, call.2.pos ≤ pos)
    (behind : ∀ call ∈ lenient.calls, pos < call.2.pos) :
    StopsAtDrop (⟨first.trace, .error (.unmatched pos c)⟩)
      ((lenient.prepend [⟨0, .skipped pos c⟩]).prepend first.trace) := by
  have drops : (lenient.prepend [⟨0, .skipped pos c⟩]).firstDrop? = some (pos, c) := rfl
  have calls : (lenient.prepend [⟨0, .skipped pos c⟩]).calls = lenient.calls := rfl
  constructor
  · intro none
    rw [firstDrop?_prepend, nothing, drops] at none
    cases none
  · intro pos' c' same
    rw [firstDrop?_prepend, nothing, drops, Option.none_or] at same
    cases same
    have all : first.calls.filter (fun call => call.2.pos ≤ pos) = first.calls := by
      simpa [List.filter_eq_self] using before
    have none : lenient.calls.filter (fun call => call.2.pos ≤ pos) = [] := by
      simpa [List.filter_eq_nil_iff] using behind
    refine ⟨rfl, nothing, ⟨lenient.trace, rfl⟩, ?_⟩
    rw [calls_prepend, calls, List.filter_append, all, none, List.append_nil]
    rfl

end Outcome

/-- A reaction that asks for no run, given the answers to its tests. -/
def Reaction.RunsNothing (test : String → String → Except RunError Bool) : Reaction ε α → Prop
  | .done _ | .fail _ => True
  | .emit _ next => next.RunsNothing test
  | .run _ _ => False
  | .test input pattern next => (next (test input pattern)).RunsNothing test

/-- What a reaction does that asks for no run does not hang on what runs come to. -/
theorem Reaction.RunsNothing.perform_eq {reaction : Reaction ε α}
    {test : String → String → Except RunError Bool} (runsNothing : reaction.RunsNothing test)
    (runOn runOn' : String → Option (Outcome ε RunError Unit)) :
    reaction.perform runOn test = reaction.perform runOn' test := by
  induction reaction with
  | done | fail => rfl
  | emit value next ih => rw [perform, perform, ih runsNothing]
  | run input next ih => cases runsNothing
  | test input pattern next ih => exact ih _ runsNothing

namespace Tokenizer

variable {tokenizer : Tokenizer ε} {runOn runOn' : String → Option (Outcome ε RunError Unit)}
  {visit : Visit} {visits : List Visit} {failure : RunError}

/-- No callback that is called in an outcome runs the tokenizer again. -/
def KeepsOut (tokenizer : Tokenizer ε) (outcome : Outcome ε RunError Unit) : Prop :=
  ∀ rule token, ⟨0, .matched rule token⟩ ∈ outcome.trace →
    (tokenizer.callback rule token).RunsNothing tokenizer.accepts

theorem firstDrop?_call (tokenizer : Tokenizer ε)
    (runOn : String → Option (Outcome ε RunError Unit)) (hit : Option (Nat × Token)) :
    (tokenizer.call runOn hit).firstDrop? = none := by
  rw [Outcome.firstDrop?, ownEvents_call]
  cases hit <;> rfl

theorem calls_call (tokenizer : Tokenizer ε)
    (runOn : String → Option (Outcome ε RunError Unit)) (hit : Option (Nat × Token)) :
    (tokenizer.call runOn hit).calls = hit.toList := by
  rw [Outcome.calls, ownEvents_call]
  cases hit <;> rfl

theorem exists_visit_of_mem_calls {call : Nat × Token}
    (member : call ∈ (tokenizer.follow runOn visits).calls) :
    ∃ visit ∈ visits, visit.hit = some call := by
  obtain ⟨event, happens, calls⟩ := List.mem_filterMap.mp member
  obtain ⟨visit, inVisits, due⟩ := exists_visit_of_mem_follow happens
  exact ⟨visit, inVisits, Visit.hit_of_call? due calls⟩

theorem exists_visit_of_firstDrop? {pos : Nat} {c : Char}
    (first : (tokenizer.follow runOn visits).firstDrop? = some (pos, c)) :
    ∃ visit ∈ visits, pos = visit.pos := by
  obtain ⟨event, happens, drops⟩ := List.exists_of_findSome?_eq_some first
  obtain ⟨visit, inVisits, due⟩ := exists_visit_of_mem_follow happens
  exact ⟨visit, inVisits, Visit.pos_of_drop? due drops⟩

theorem KeepsOut.call_eq {hit : Option (Nat × Token)}
    (keepsOut : tokenizer.KeepsOut (tokenizer.call runOn hit))
    (runOn' : String → Option (Outcome ε RunError Unit)) :
    tokenizer.call runOn' hit = tokenizer.call runOn hit := by
  cases hit with
  | none => rfl
  | some found =>
      have runsNothing := keepsOut found.1 found.2 List.mem_cons_self
      simp only [call, runsNothing.perform_eq runOn' runOn]

theorem follow_setUnmatched_of_call_error (policy : UnmatchedPolicy)
    (fails : (tokenizer.call runOn visit.hit).result = .error failure) (visits : List Visit) :
    (tokenizer.setUnmatched policy).follow runOn (visit :: visits) =
      ⟨(tokenizer.call runOn visit.hit).trace, .error failure⟩ := by
  have ends : ((tokenizer.setUnmatched policy).call runOn visit.hit).result = .error failure := fails
  exact follow_of_call_error ends visits

theorem follow_setUnmatched_of_call_ok (policy : UnmatchedPolicy)
    (succeeds : (tokenizer.call runOn visit.hit).result = .ok ()) (visits : List Visit) :
    (tokenizer.setUnmatched policy).follow runOn (visit :: visits) =
      (((tokenizer.setUnmatched policy).dropAt visit).andThen fun _ =>
        (tokenizer.setUnmatched policy).follow runOn visits).prepend
          (tokenizer.call runOn visit.hit).trace := by
  have goesOn : ((tokenizer.setUnmatched policy).call runOn visit.hit).result = .ok () := succeeds
  exact follow_of_call_ok goesOn visits

theorem follow_setUnmatched_of_undropped (policy : UnmatchedPolicy)
    (succeeds : (tokenizer.call runOn visit.hit).result = .ok ()) (undropped : visit.dropped = none)
    (visits : List Visit) :
    (tokenizer.setUnmatched policy).follow runOn (visit :: visits) =
      ((tokenizer.setUnmatched policy).follow runOn visits).prepend
        (tokenizer.call runOn visit.hit).trace := by
  rw [follow_setUnmatched_of_call_ok policy succeeds, dropAt, undropped, Outcome.of_ok_andThen]

theorem follow_skip_of_dropped {c : Char}
    (succeeds : (tokenizer.call runOn visit.hit).result = .ok ()) (dropped : visit.dropped = some c)
    (visits : List Visit) :
    (tokenizer.setUnmatched .skip).follow runOn (visit :: visits) =
      (((tokenizer.setUnmatched .skip).follow runOn visits).prepend
        [⟨0, .skipped visit.pos c⟩]).prepend (tokenizer.call runOn visit.hit).trace := by
  rw [follow_setUnmatched_of_call_ok .skip succeeds, dropAt, dropped]
  rfl

theorem follow_error_of_dropped {c : Char}
    (succeeds : (tokenizer.call runOn visit.hit).result = .ok ()) (dropped : visit.dropped = some c)
    (visits : List Visit) :
    (tokenizer.setUnmatched .error).follow runOn (visit :: visits) =
      ⟨(tokenizer.call runOn visit.hit).trace, .error (.unmatched visit.pos c)⟩ := by
  rw [follow_setUnmatched_of_call_ok .error succeeds, dropAt, dropped]
  simp [drop, Outcome.prepend]

/-- A run that fails for the first dropped character, step by step. -/
theorem stopsAtDrop_follow (increasing : visits.Pairwise (·.pos < ·.pos))
    (inPlace : ∀ visit ∈ visits, ∀ rule token, visit.hit = some (rule, token) →
      token.pos = visit.pos)
    (keepsOut : tokenizer.KeepsOut ((tokenizer.setUnmatched .skip).follow runOn visits)) :
    ((tokenizer.setUnmatched .error).follow runOn' visits).StopsAtDrop
      ((tokenizer.setUnmatched .skip).follow runOn visits) := by
  induction visits with
  | nil => exact Outcome.stopsAtDrop_self rfl
  | cons visit visits ih =>
      obtain ⟨earlier, increasing⟩ := List.pairwise_cons.mp increasing
      obtain ⟨here, inPlace⟩ := List.forall_mem_cons.mp inPlace
      have undropped := tokenizer.firstDrop?_call runOn visit.hit
      have place : ∀ call ∈ (tokenizer.call runOn visit.hit).calls, call.2.pos = visit.pos := by
        rw [calls_call]
        intro call hit
        exact here call.1 call.2 (Option.mem_toList.mp hit)
      -- The call is the same in both runs, since its callback keeps out of them.
      have called : tokenizer.call runOn' visit.hit = tokenizer.call runOn visit.hit := by
        apply KeepsOut.call_eq
        intro rule token member
        exact keepsOut rule token
          (Outcome.mem_trace_andThen (Outcome.mem_trace_andThen member _) _)
      cases result : (tokenizer.call runOn visit.hit).result with
      | error failure =>
          rw [follow_setUnmatched_of_call_error .skip result,
            follow_setUnmatched_of_call_error .error (by rw [called, result]), called]
          exact Outcome.stopsAtDrop_self undropped
      | ok value =>
          have result' : (tokenizer.call runOn' visit.hit).result = .ok () := by rw [called, result]
          cases dropped : visit.dropped with
          | none =>
              rw [follow_setUnmatched_of_undropped .skip result dropped] at keepsOut ⊢
              rw [follow_setUnmatched_of_undropped .error result' dropped, called]
              apply (ih increasing inPlace _).prepend undropped
              · intro pos c first call member
                obtain ⟨later, inVisits, rfl⟩ := exists_visit_of_firstDrop? first
                rw [place call member]
                exact Nat.le_of_lt (earlier later inVisits)
              · intro rule token member
                exact keepsOut rule token (List.mem_append_right _ member)
          | some c =>
              rw [follow_skip_of_dropped result dropped, follow_error_of_dropped result' dropped,
                called]
              apply Outcome.stopsAtDrop_prepend undropped
              · intro call member
                exact Nat.le_of_eq (place call member)
              · intro call member
                obtain ⟨later, inVisits, hit⟩ := exists_visit_of_mem_calls member
                rw [inPlace later inVisits call.1 call.2 hit]
                exact earlier later inVisits

/-! ## Runs under the three policies -/

theorem stopsAtDrop_run (pending : tokenizer.pending = none) (nesting : Nat) (input : String)
    (keepsOut : tokenizer.KeepsOut ((tokenizer.setUnmatched .skip).run nesting input)) :
    ((tokenizer.setUnmatched .error).run nesting input).StopsAtDrop
      ((tokenizer.setUnmatched .skip).run nesting input) := by
  have skips : (tokenizer.setUnmatched .skip).pending = none := pending
  have fails : (tokenizer.setUnmatched .error).pending = none := pending
  rw [run_eq_runWith _ nesting, runWith_eq_follow skips] at keepsOut
  rw [run_eq_runWith, run_eq_runWith, runWith_eq_follow skips, runWith_eq_follow fails]
  apply stopsAtDrop_follow (Visit.pairwise_pos_visits tokenizer.patterns input) _ keepsOut
  intro visit member rule token hit
  obtain ⟨before, rest, -, -, reports⟩ := Visit.reports_visits tokenizer.patterns member
  exact (reports.token_at rule token hit).1

/-- A run that skips, and whose callbacks succeed, drops nothing just where its tokens cover its
input. -/
theorem firstDrop?_run_eq_none_iff {nesting : Nat} {input : String}
    (pending : tokenizer.pending = none) (lenient : tokenizer.unmatched = .skip)
    (succeeds : tokenizer.CallbacksSucceed (tokenizer.answers nesting)
      (tokenizer.run nesting input)) :
    (tokenizer.run nesting input).firstDrop? = none ↔
      Finding.Cover (tokenizer.run nesting input).findings 0 input.utf8ByteSize := by
  have passesOver : tokenizer.unmatched ≠ .error := by simp [lenient]
  rw [findings_run pending passesOver succeeds, Visit.cover_visits_iff, Outcome.firstDrop?,
    (run_eq_course pending succeeds).2, Visit.course_of_passesOver passesOver, lenient]
  exact Visit.findSome?_drop?_flatMap_events _

/-- The policies differ in this alone. Logging calls the same callbacks with the same tokens as
skipping and comes to the same result, whatever the callbacks do; all that happens is the same,
warnings apart. Failing comes to what skipping comes to, cut off at the first dropped character,
where no callback runs the tokenizer. So if the callbacks succeed, failing succeeds just where
the tokens that are not empty cover the input. -/
theorem run_of_policies (tokenizer : Tokenizer ε) (pending : tokenizer.pending = none)
    (nesting : Nat) (input : String) :
    let skipping := tokenizer.setUnmatched .skip
    let failing := tokenizer.setUnmatched .error
    let skips := skipping.run nesting input
    let logs := (tokenizer.setUnmatched .log).run nesting input
    let fails := failing.run nesting input
    (logs.calls = skips.calls ∧ logs.result = skips.result ∧ logs.unwarned = skips) ∧
      (tokenizer.KeepsOut skips → fails.StopsAtDrop skips) ∧
      (failing.CallbacksSucceed (failing.answers nesting) fails →
        (fails.result = .ok () ↔ Finding.Cover fails.findings 0 input.utf8ByteSize)) ∧
      (tokenizer.KeepsOut skips → skipping.CallbacksSucceed (skipping.answers nesting) skips →
        (fails.result = .ok () ↔ Finding.Cover skips.findings 0 input.utf8ByteSize)) := by
  intro skipping failing skips logs fails
  refine ⟨?_, tokenizer.stopsAtDrop_run pending nesting input, ?_, ?_⟩
  · have same : logs.unwarned = skips := tokenizer.unwarned_run_log nesting input
    rw [← same]
    exact ⟨(Outcome.calls_unwarned logs).symm, rfl, rfl⟩
  · exact run_error_ok_iff_cover pending rfl
  · intro keepsOut succeeds
    have registered : skipping.pending = none := pending
    have result : skips.result = .ok () := by
      have course := (run_eq_course registered succeeds).1
      rwa [Visit.course_of_passesOver (by simp [skipping])] at course
    have stops := tokenizer.stopsAtDrop_run pending nesting input keepsOut
    exact (stops.ok_iff result).trans (firstDrop?_run_eq_none_iff registered rfl succeeds)

/-- Words are emitted after a test, and a blank pattern calls its callback before a character is
dropped. -/
theorem run_of_policies_dash :
    let tokenizer : Tokenizer String := {
      rules := [⟨[⟨Builtin.word.matcher, some "word"⟩],
          fun token => .test token.lexeme "{word}" fun _ => .report token.lexeme⟩,
        ⟨[], fun _ => .done ()⟩] }
    let skips := (tokenizer.setUnmatched .skip).run 1 "ab-c"
    let logs := (tokenizer.setUnmatched .log).run 1 "ab-c"
    let fails := (tokenizer.setUnmatched .error).run 1 "ab-c"
    tokenizer.pending = none ∧ tokenizer.KeepsOut skips ∧
      (logs.calls = skips.calls ∧ logs.result = skips.result ∧ logs.unwarned = skips) ∧
      fails.result = .error (.unmatched 2 '-') ∧
      fails.calls.map (fun call => (call.1, call.2.pos)) = [(0, 0), (1, 2)] ∧
      skips.calls.map (fun call => (call.1, call.2.pos)) = [(0, 0), (1, 2), (0, 3)] ∧
      ¬ Finding.Cover fails.findings 0 4 ∧ ¬ Finding.Cover skips.findings 0 4 := by
  intro tokenizer skips logs fails
  have keepsOut : tokenizer.KeepsOut skips := by
    intro rule token _
    match rule with
    | 0 | 1 | _ + 2 => trivial
  have succeeds (policy : UnmatchedPolicy) (outcome : Outcome String RunError Unit) :
      (tokenizer.setUnmatched policy).CallbacksSucceed
        ((tokenizer.setUnmatched policy).answers 1) outcome := by
    intro rule token _
    match rule with
    | 0 | 1 | _ + 2 => rfl
  obtain ⟨logging, stops, strict, lenient⟩ := tokenizer.run_of_policies rfl 1 "ab-c"
  obtain ⟨result, -, -, calls⟩ := (stops keepsOut).stops 2 '-' rfl
  have called : skips.calls.map (fun call => (call.1, call.2.pos)) = [(0, 0), (1, 2), (0, 3)] := rfl
  have failed : fails.result ≠ .ok () := by
    intro absurd
    cases result.symm.trans absurd
  refine ⟨rfl, keepsOut, logging, result, ?_, called, ?_, ?_⟩
  · rw [calls]
    rfl
  · exact mt (strict (succeeds .error fails)).mpr failed
  · exact mt (lenient keepsOut (succeeds .skip skips)).mpr failed

end Tokenizer

end PatternLexer
