import PatternLexer.Proofs.Tokenizer.Policies

/-!
# Rules behind the others

A rule that is added behind the others is tried only where none of them matches. So a run with it
is the run without it as long as something matches at every place that is visited, if only with an
empty token: the same visits follow one another (`extended_visits`), and the callbacks called there
are the same (`attend_append`).

At the first place where nothing matches without the rule the two runs may part, and from then on
they visit no place before it (`partAt_follow`). Without such a place they are the same run, in
which the rule is never called (`run_addRule`).
-/

namespace PatternLexer

variable {ε α β : Type}

/-- The first pattern that matches stays the first one. -/
theorem Sequence.firstOf?_append_of_some {patterns : List Sequence} {text : List Char}
    {found : Nat × Sequence × List Char} (first : firstOf? patterns text = some found)
    (more : List Sequence) : firstOf? (patterns ++ more) text = some found := by
  obtain ⟨rule, items, taken⟩ := found
  obtain ⟨member, consumed, fail⟩ := firstOf?_eq_some_iff.mp first
  have inside : rule < patterns.length := (List.getElem?_eq_some_iff.mp member).1
  apply firstOf?_eq_some_iff.mpr
  refine ⟨by rw [List.getElem?_append_left inside, member], consumed, ?_⟩
  intro earlier less other place
  rw [List.getElem?_append_left (Nat.lt_trans less inside)] at place
  exact fail earlier less other place

namespace Visit

variable {patterns : List Sequence} {source : String} {place : Place} {path path' : List Visit}
  {visit : Visit}

/-- Visits without and with further patterns: the same ones as long as something matches, and then
two of the same place. -/
inductive Extended : List Visit → List Visit → Prop where
  | finish : Extended [] []
  | hit {visit : Visit} {visits visits' : List Visit} (hits : visit.hit ≠ none)
      (further : Extended visits visits') : Extended (visit :: visits) (visit :: visits')
  | miss {visit visit' : Visit} (misses : visit.hit = none) (same : visit'.pos = visit.pos)
      (visits visits' : List Visit) : Extended (visit :: visits) (visit' :: visits')

/-- The offset of the first visit at which nothing matches. -/
def firstMiss? (visits : List Visit) : Option Nat :=
  (visits.find? (·.hit.isNone)).map (·.pos)

/-- Where something matches, further patterns do not matter. -/
theorem of_append (hits : (of patterns source place).hit ≠ none) (more : List Sequence) :
    of (patterns ++ more) source place = of patterns source place ∧
      passedFrom (patterns ++ more) place.rest = passedFrom patterns place.rest := by
  cases first : Sequence.firstOf? patterns place.rest with
  | none => exact absurd (by simp [of, foundAt, first]) hits
  | some found =>
      have extended := Sequence.firstOf?_append_of_some first more
      simp only [of, foundAt, droppedFrom, passedFrom, first, extended, and_self]

theorem Tile.extended {more : List Sequence} (tile : Tile patterns source place path)
    (tile' : Tile (patterns ++ more) source place path') : Extended path path' := by
  induction tile generalizing path' with
  | finish ends =>
      cases tile' with
      | finish => exact .finish
      | visit nonempty => exact absurd ends nonempty
  | @visit place visits nonempty _ ih =>
      cases tile' with
      | finish ends => exact absurd ends nonempty
      | visit _ further' =>
          by_cases hits : (of patterns source place).hit = none
          · exact .miss hits (by rfl) _ _
          · obtain ⟨same, passed⟩ := of_append hits more
            rw [passed] at further'
            rw [same]
            exact .hit hits (ih further')

theorem extended_visits (patterns more : List Sequence) (input : String) :
    Extended (visits patterns input) (visits (patterns ++ more) input) := by
  by_cases empty : input = ""
  · rw [empty, visits_empty, visits_empty]
    by_cases hits : (of patterns "" (.start [])).hit = none
    · exact .miss hits (by rfl) _ _
    · rw [(of_append hits more).1]
      exact .hit hits .finish
  · exact (tile_visits patterns empty).extended (tile_visits (patterns ++ more) empty)

end Visit

/-- The offset of an event in the input of its run. -/
def Event.pos? : Event ε → Option Nat
  | .matched _ token => some token.pos
  | .skipped pos _ | .warned pos _ => some pos
  | .emitted _ => none

/-- What happens at a visit happens at its place. -/
theorem Visit.pos?_of_mem_events {policy : UnmatchedPolicy} {visit : Visit} {event : Event ε}
    (inPlace : ∀ rule token, visit.hit = some (rule, token) → token.pos = visit.pos)
    (member : event ∈ visit.events policy) : event.pos? = some visit.pos := by
  obtain ⟨pos, hit, dropped⟩ := visit
  rcases List.mem_append.mp member with called | reported
  · cases hit with
    | none => cases called
    | some found =>
        rw [List.mem_singleton.mp called]
        exact congrArg some (inPlace found.1 found.2 rfl)
  · cases dropped with
    | none => cases reported
    | some c =>
        cases policy with
        | error => cases reported
        | skip | log =>
            rw [List.mem_singleton.mp reported]
            rfl

namespace Outcome

variable {error : Type} {pos : Nat} {first second : Outcome ε error α}

/-- The same happens in both outcomes before an offset. What else happens in either of them
happens there or behind it. -/
def PartAt (pos : Nat) (first second : Outcome ε error α) : Prop :=
  ∃ begun later later', first.trace = begun ++ later ∧ second.trace = begun ++ later' ∧
    (∀ event ∈ begun.filterMap Entry.own?, ∃ before < pos, event.pos? = some before) ∧
    ∀ event ∈ (later ++ later').filterMap Entry.own?, ∃ behind ≥ pos, event.pos? = some behind

theorem partAt_of_behind
    (behind : ∀ event ∈ first.ownEvents, ∃ behind ≥ pos, event.pos? = some behind)
    (behind' : ∀ event ∈ second.ownEvents, ∃ behind ≥ pos, event.pos? = some behind) :
    first.PartAt pos second := by
  refine ⟨[], _, _, rfl, rfl, by simp, ?_⟩
  intro event member
  rw [List.filterMap_append] at member
  exact (List.mem_append.mp member).elim (behind event) (behind' event)

theorem partAt_self
    (before : ∀ event ∈ first.ownEvents, ∃ before < pos, event.pos? = some before) :
    first.PartAt pos first :=
  ⟨_, [], [], (List.append_nil _).symm, (List.append_nil _).symm, before, by simp⟩

theorem PartAt.prepend {begins : Outcome ε error β} (parts : first.PartAt pos second)
    (before : ∀ event ∈ begins.ownEvents, ∃ before < pos, event.pos? = some before) :
    (first.prepend begins.trace).PartAt pos (second.prepend begins.trace) := by
  obtain ⟨begun, later, later', split, split', earlier, behind⟩ := parts
  refine ⟨begins.trace ++ begun, later, later', ?_, ?_, ?_, behind⟩
  · rw [Outcome.prepend, split, List.append_assoc]
  · rw [Outcome.prepend, split', List.append_assoc]
  · intro event member
    rw [List.filterMap_append] at member
    exact (List.mem_append.mp member).elim (before event) (earlier event)

end Outcome

namespace Tokenizer

variable {tokenizer : Tokenizer ε} {runOn : String → Option (Outcome ε RunError Unit)}
  {visit : Visit} {visits visits' : List Visit}

/-- A tokenizer with further rules behind its own. -/
def append (tokenizer : Tokenizer ε) (more : List (Rule ε)) : Tokenizer ε :=
  { tokenizer with rules := tokenizer.rules ++ more }

theorem addRule_eq_append {pattern : String} {items : Sequence}
    (compiled : tokenizer.classes.compile pattern = .ok items)
    (callback : Token → Reaction ε Unit) :
    tokenizer.addRule pattern callback = tokenizer.append [⟨items, callback⟩] := by
  rw [addRule, compiled]
  rfl

theorem callback_append {rule : Nat} (known : rule < tokenizer.rules.length)
    (more : List (Rule ε)) (token : Token) :
    (tokenizer.append more).callback rule token = tokenizer.callback rule token := by
  simp only [callback, append, List.getElem?_append_left known]

/-- A visit at which a rule matches is dealt with as before, where its callback does not run the
tokenizer. -/
theorem attend_append (known : ∀ rule token, visit.hit = some (rule, token) →
      rule < tokenizer.rules.length)
    (keepsOut : tokenizer.KeepsOut (tokenizer.attend runOn visit)) (more : List (Rule ε))
    (runOn' : String → Option (Outcome ε RunError Unit)) :
    (tokenizer.append more).attend runOn' visit = tokenizer.attend runOn visit := by
  have called : (tokenizer.append more).call runOn' visit.hit = tokenizer.call runOn visit.hit := by
    cases hit : visit.hit with
    | none => rfl
    | some found =>
        have same := callback_append (known found.1 found.2 hit) more found.2
        have runsNothing : (tokenizer.callback found.1 found.2).RunsNothing tokenizer.accepts := by
          apply keepsOut
          apply Outcome.mem_trace_andThen
          rw [hit]
          exact List.mem_cons_self
        have tests : (tokenizer.append more).accepts = tokenizer.accepts := rfl
        simp only [call, same, tests, runsNothing.perform_eq runOn' runOn]
  rw [attend_eq_andThen, attend_eq_andThen, called]
  rfl

theorem KeepsOut.attend (keepsOut : tokenizer.KeepsOut (tokenizer.follow runOn (visit :: visits))) :
    tokenizer.KeepsOut (tokenizer.attend runOn visit) := fun rule token member =>
  keepsOut rule token (Outcome.mem_trace_andThen member _)

theorem KeepsOut.further (keepsOut : tokenizer.KeepsOut (tokenizer.follow runOn (visit :: visits)))
    (attended : (tokenizer.attend runOn visit).result = .ok ()) :
    tokenizer.KeepsOut (tokenizer.follow runOn visits) := by
  intro rule token member
  apply keepsOut
  rw [follow, Outcome.andThen_of_result attended]
  exact List.mem_append_right _ member

/-! ## Runs with further rules -/

/-- What is found at some visits of an input, further and further on, by the rules of a
tokenizer. -/
structure Course (tokenizer : Tokenizer ε) (visits : List Visit) : Prop where
  increasing : visits.Pairwise (·.pos < ·.pos)
  inPlace : ∀ visit ∈ visits, ∀ rule token, visit.hit = some (rule, token) → token.pos = visit.pos
  known : ∀ visit ∈ visits, ∀ rule token, visit.hit = some (rule, token) →
    rule < tokenizer.rules.length

theorem course_visits (tokenizer : Tokenizer ε) (input : String) :
    tokenizer.Course (Visit.visits tokenizer.patterns input) := by
  refine ⟨Visit.pairwise_pos_visits _ _, ?_, ?_⟩
  · intro visit member rule token hit
    obtain ⟨before, rest, -, -, reports⟩ := Visit.reports_visits _ member
    exact (reports.token_at rule token hit).1
  · intro visit member rule token hit
    obtain ⟨before, rest, -, -, reports⟩ := Visit.reports_visits _ member
    obtain ⟨⟨items, found, chosen, -⟩, -⟩ := (reports.finds rule token).mp hit
    simpa [patterns] using (List.getElem?_eq_some_iff.mp chosen).1

theorem Course.tail (course : tokenizer.Course (visit :: visits)) : tokenizer.Course visits :=
  ⟨(List.pairwise_cons.mp course.increasing).2, (List.forall_mem_cons.mp course.inPlace).2,
    (List.forall_mem_cons.mp course.known).2⟩

/-- All that happens at visits happens at the first one or behind it. -/
theorem Course.behind (course : tokenizer.Course (visit :: visits)) {event : Event ε}
    (member : event ∈ (tokenizer.follow runOn (visit :: visits)).ownEvents) :
    ∃ behind ≥ visit.pos, event.pos? = some behind := by
  obtain ⟨later, inVisits, due⟩ := exists_visit_of_mem_follow member
  refine ⟨later.pos, ?_, Visit.pos?_of_mem_events (course.inPlace later inVisits) due⟩
  rcases List.mem_cons.mp inVisits with rfl | further
  · exact Nat.le_refl _
  · exact Nat.le_of_lt ((List.pairwise_cons.mp course.increasing).1 later further)

/-- Where something matches at all visits, further rules do not matter. -/
theorem follow_append_of_hits (more : List (Rule ε))
    (runOn' : String → Option (Outcome ε RunError Unit)) (extended : Visit.Extended visits visits')
    (course : tokenizer.Course visits)
    (keepsOut : tokenizer.KeepsOut (tokenizer.follow runOn visits))
    (hits : Visit.firstMiss? visits = none) :
    (tokenizer.append more).follow runOn' visits' = tokenizer.follow runOn visits := by
  induction extended with
  | finish => rfl
  | miss misses => simp [Visit.firstMiss?, misses] at hits
  | @hit visit visits visits' here _ ih =>
      have further : Visit.firstMiss? visits = none := by
        simpa [Visit.firstMiss?, here] using hits
      have known := course.known visit List.mem_cons_self
      have attended := attend_append known keepsOut.attend more runOn'
      rw [follow, follow, attended]
      rcases result : (tokenizer.attend runOn visit).result with failure | value
      · rw [Outcome.andThen_of_error result, Outcome.andThen_of_error result]
      · rw [Outcome.andThen_of_result result, Outcome.andThen_of_result result,
          ih course.tail (keepsOut.further result) further]

/-- With further rules the same happens before the first place where nothing matches without
them. -/
theorem partAt_follow (more : List (Rule ε))
    (runOn' : String → Option (Outcome ε RunError Unit)) (extended : Visit.Extended visits visits')
    (course : tokenizer.Course visits) (course' : (tokenizer.append more).Course visits')
    (keepsOut : tokenizer.KeepsOut (tokenizer.follow runOn visits)) {pos : Nat}
    (first : Visit.firstMiss? visits = some pos) :
    (tokenizer.follow runOn visits).PartAt pos
      ((tokenizer.append more).follow runOn' visits') := by
  induction extended with
  | finish => cases first
  | @miss visit visit' misses same visits visits' =>
      have here : visit.pos = pos := by simpa [Visit.firstMiss?, misses] using first
      subst here
      apply Outcome.partAt_of_behind
      · exact fun event => course.behind
      · rw [← same]
        exact fun event => course'.behind
  | @hit visit visits visits' here _ ih =>
      have further : Visit.firstMiss? visits = some pos := by
        simpa [Visit.firstMiss?, here] using first
      have known := course.known visit List.mem_cons_self
      have attended := attend_append known keepsOut.attend more runOn'
      -- The first place where nothing matches is behind this visit.
      have before : ∀ event ∈ (tokenizer.attend runOn visit).ownEvents,
          ∃ before < pos, event.pos? = some before := by
        intro event member
        obtain ⟨later, found, rfl⟩ := Option.map_eq_some_iff.mp further
        refine ⟨visit.pos, ?_, ?_⟩
        · exact (List.pairwise_cons.mp course.increasing).1 later (List.mem_of_find?_eq_some found)
        · exact Visit.pos?_of_mem_events (course.inPlace visit List.mem_cons_self)
            (mem_events_of_mem_attend member)
      rw [follow, follow, attended]
      rcases result : (tokenizer.attend runOn visit).result with failure | value
      · rw [Outcome.andThen_of_error result, Outcome.andThen_of_error result]
        exact Outcome.partAt_self before
      · rw [Outcome.andThen_of_result result, Outcome.andThen_of_result result]
        exact (ih course.tail course'.tail (keepsOut.further result) further).prepend before

/-- Callbacks are called for rules of the tokenizer only, also in the runs inside. -/
def CallsKnown (tokenizer : Tokenizer ε) (outcome : Outcome ε α β) : Prop :=
  ∀ entry ∈ outcome.trace, ∀ rule token, entry.event = .matched rule token →
    rule < tokenizer.rules.length

theorem CallsKnown.andThen {γ : Type} {first : Outcome ε α β} {next : β → Outcome ε α γ}
    (known : tokenizer.CallsKnown first) (further : ∀ value, tokenizer.CallsKnown (next value)) :
    tokenizer.CallsKnown (first.andThen next) := by
  rcases result : first.result with failure | value
  · rwa [Outcome.andThen_of_error result]
  · rw [Outcome.andThen_of_result result]
    exact fun entry member =>
      (List.mem_append.mp member).elim (known entry) (further value entry)

/-- A reaction calls what the runs call that it asks for. -/
theorem callsKnown_perform (inner : ∀ input outcome, runOn input = some outcome →
      tokenizer.CallsKnown outcome) (test : String → String → Except RunError Bool)
    (reaction : Reaction ε α) : tokenizer.CallsKnown (reaction.perform runOn test) := by
  induction reaction with
  | done | fail => exact fun _ absurd => (List.not_mem_nil absurd).elim
  | emit value next ih =>
      intro entry member rule token calls
      rcases List.mem_cons.mp member with rfl | further
      · cases calls
      · exact ih entry further rule token calls
  | run input next ih =>
      rw [Reaction.perform]
      cases answer : runOn input with
      | none => exact ih none
      | some outcome =>
          intro entry member rule token calls
          rcases List.mem_append.mp member with inside | further
          · obtain ⟨seen, before, rfl⟩ := List.mem_map.mp inside
            exact inner input outcome answer seen before rule token calls
          · exact ih _ entry further rule token calls
  | test input pattern next ih => exact ih _

theorem callsKnown_follow (inner : ∀ input outcome, runOn input = some outcome →
      tokenizer.CallsKnown outcome)
    (known : ∀ visit ∈ visits, ∀ rule token, visit.hit = some (rule, token) →
      rule < tokenizer.rules.length) :
    tokenizer.CallsKnown (tokenizer.follow runOn visits) := by
  induction visits with
  | nil => exact fun _ absurd => (List.not_mem_nil absurd).elim
  | cons visit visits ih =>
      obtain ⟨here, further⟩ := List.forall_mem_cons.mp known
      have called : tokenizer.CallsKnown (tokenizer.call runOn visit.hit) := by
        cases hit : visit.hit with
        | none => exact fun _ absurd => (List.not_mem_nil absurd).elim
        | some found =>
            intro entry member rule token calls
            rcases List.mem_cons.mp member with rfl | reacts
            · cases calls
              exact here _ _ hit
            · exact callsKnown_perform inner _ _ entry reacts rule token calls
      have dropped : tokenizer.CallsKnown (tokenizer.dropAt visit) := by
        intro entry member rule token calls
        rw [dropAt] at member
        cases char : visit.dropped with
        | none => simp [char] at member
        | some c =>
            simp only [char, drop] at member
            cases policy : tokenizer.unmatched with
            | error => simp [policy] at member
            | skip | log =>
                simp only [policy] at member
                rw [List.mem_singleton.mp member] at calls
                cases calls
      rw [follow, attend_eq_andThen]
      exact (called.andThen fun _ => dropped).andThen fun _ => ih further

theorem callsKnown_runWith (pending : tokenizer.pending = none)
    (inner : ∀ input outcome, runOn input = some outcome → tokenizer.CallsKnown outcome)
    (input : String) : tokenizer.CallsKnown (tokenizer.runWith runOn input) := by
  rw [runWith_eq_follow pending]
  exact callsKnown_follow inner (tokenizer.course_visits input).known

theorem callsKnown_run (pending : tokenizer.pending = none) (nesting : Nat) (input : String) :
    tokenizer.CallsKnown (tokenizer.run nesting input) := by
  induction nesting generalizing input with
  | zero =>
      apply callsKnown_runWith pending
      intro other outcome absurd
      cases absurd
  | succ nesting ih =>
      apply callsKnown_runWith pending
      intro other outcome answer
      cases answer
      exact ih other

/-- A rule that is added behind the others does not disturb them. Where the callbacks keep out of
the tokenizer, the same happens with the rule as without it before the first place of the run at
which no other rule matches, not even with an empty token. If there is no such place the runs are
the same, and the callback of the rule is never called. -/
theorem run_addRule (tokenizer : Tokenizer ε) (pending : tokenizer.pending = none)
    {pattern : String} {items : Sequence}
    (compiled : tokenizer.classes.compile pattern = .ok items)
    (callback : Token → Reaction ε Unit) (nesting : Nat) (input : String)
    (keepsOut : tokenizer.KeepsOut (tokenizer.run nesting input)) :
    let miss := Visit.firstMiss? (Visit.visits tokenizer.patterns input)
    let without := tokenizer.run nesting input
    let extended := (tokenizer.addRule pattern callback).run nesting input
    (∀ pos, miss = some pos → without.PartAt pos extended) ∧
      (miss = none → extended = without ∧
        ∀ depth token, ⟨depth, .matched tokenizer.rules.length token⟩ ∉ extended.trace) := by
  intro miss without extended
  let more : List (Rule ε) := [⟨items, callback⟩]
  have appended : tokenizer.addRule pattern callback = tokenizer.append more :=
    addRule_eq_append compiled callback
  have patterns : (tokenizer.append more).patterns = tokenizer.patterns ++ [items] := by
    simp [append, more, Tokenizer.patterns]
  have plain : without =
      tokenizer.follow (tokenizer.answers nesting) (Visit.visits tokenizer.patterns input) := by
    simp only [without, run_eq_runWith, runWith_eq_follow pending]
  have wider : extended = (tokenizer.append more).follow ((tokenizer.append more).answers nesting)
      (Visit.visits (tokenizer.patterns ++ [items]) input) := by
    have pending' : (tokenizer.append more).pending = none := pending
    simp only [extended, appended, run_eq_runWith, runWith_eq_follow pending', patterns]
  have tries := Visit.extended_visits tokenizer.patterns [items] input
  have course := tokenizer.course_visits input
  have keepsOut' : tokenizer.KeepsOut
      (tokenizer.follow (tokenizer.answers nesting) (Visit.visits tokenizer.patterns input)) := by
    rwa [← plain]
  constructor
  · intro pos first
    have course' := (tokenizer.append more).course_visits input
    rw [patterns] at course'
    rw [plain, wider]
    exact partAt_follow more _ tries course course' keepsOut' first
  · intro hits
    have same : extended = without := by
      rw [plain, wider]
      exact follow_append_of_hits more _ tries course keepsOut' hits
    refine ⟨same, ?_⟩
    intro depth token called
    rw [same] at called
    exact Nat.lt_irrefl _ (callsKnown_run pending nesting input _ called _ _ rfl)

/-- A rule for anything behind a rule for words parts the runs at the blank, and it does not matter
where there is only a word. -/
theorem run_addRule_blank :
    let callback : Token → Reaction String Unit := fun token => .report token.lexeme
    let tokenizer : Tokenizer String :=
      { rules := [⟨[⟨Builtin.word.matcher, some "word"⟩], callback⟩] }
    let extended := tokenizer.addRule "{any}" callback
    (tokenizer.run 1 "ab c").PartAt 2 (extended.run 1 "ab c") ∧
      (tokenizer.run 1 "ab c").emitted = [(0, "ab"), (0, "c")] ∧
      (extended.run 1 "ab c").emitted = [(0, "ab"), (0, " c")] ∧
      extended.run 1 "ab" = tokenizer.run 1 "ab" ∧
      (extended.run 1 "ab").emitted = [(0, "ab")] := by
  intro callback tokenizer extended
  have compiles : (tokenizer.classes.compile "{any}").toOption.isSome = true := by decide +kernel
  obtain ⟨items, present⟩ := Option.isSome_iff_exists.mp compiles
  have compiled := eq_ok_of_toOption_eq_some present
  have keepsOut (input : String) : tokenizer.KeepsOut (tokenizer.run 1 input) := by
    intro rule token _
    match rule with
    | 0 | _ + 1 => trivial
  obtain ⟨parts, -⟩ := run_addRule tokenizer rfl compiled callback 1 "ab c" (keepsOut _)
  obtain ⟨-, same⟩ := run_addRule tokenizer rfl compiled callback 1 "ab" (keepsOut _)
  exact ⟨parts 2 (by decide +kernel), by decide +kernel, by decide +kernel,
    (same (by decide +kernel)).1, by decide +kernel⟩

end Tokenizer

end PatternLexer
