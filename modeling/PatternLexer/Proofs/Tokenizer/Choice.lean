import Mathlib.Data.List.Forall2
import PatternLexer.Proofs.Registry.Inlining
import PatternLexer.Proofs.Tokenizer.Tiling

/-!
# Rules and alternatives

The first of some patterns that matches can be chosen by the rules of a tokenizer or by the
alternatives of a class. Both choose alike: a tokenizer whose only rule refers to the class
goes through its input as the one with the patterns as rules does, and its tokens are those
of the patterns with the class around them (`wraps_run_ofAlternation`).
-/

namespace PatternLexer

variable {ε : Type}

/-- The token `outer` is that of a reference to a class, and `inner` is the token of the class
in it. The class is captured just once, and under the other classes stands what is captured
in `inner`, which has none of this class. -/
structure Token.Wraps (name : String) (outer inner : Token) : Prop where
  pos_eq : outer.pos = inner.pos
  length_eq : outer.length = inner.length
  getAll_eq : outer.getAll name = [inner]
  getAll_other (other : String) (different : other ≠ name) :
    outer.getAll other = inner.getAll other
  absent : inner.getAll name = []

/-- The same happens, but where a rule matched with a token of its own, the other event has
the token with the class around it. -/
inductive Event.Wraps (name : String) : Event ε → Event ε → Prop where
  | matched {rule : Nat} {outer inner : Token} (wraps : outer.Wraps name inner) :
      Wraps name (.matched 0 outer) (.matched rule inner)
  | skipped (pos : Nat) (c : Char) : Wraps name (.skipped pos c) (.skipped pos c)
  | warned (pos : Nat) (c : Char) : Wraps name (.warned pos c) (.warned pos c)

/-- Visits of the same place that drop the same, of which one has found the class and the
other what the class matched. -/
structure Visit.Wraps (name : String) (outer inner : Visit) : Prop where
  pos_eq : outer.pos = inner.pos
  dropped_eq : outer.dropped = inner.dropped
  hits : Option.Rel (fun whole part => whole.1 = 0 ∧ whole.2.Wraps name part.2) outer.hit inner.hit

/-- The outcomes of runs that go through their input in step. A run ends well, or with a
character that may not be dropped. -/
structure Outcome.Wraps (name : String) (outer inner : Outcome ε RunError Unit) : Prop where
  result_eq : outer.result = inner.result
  ends : inner.result = .ok () ∨ ∃ pos c, inner.result = .error (.unmatched pos c)
  events : List.Forall₂ (Event.Wraps name) outer.ownEvents inner.ownEvents

namespace Sequence

variable {alternatives : List Sequence} {name source : String} {place : Place} {rule : Nat}
  {items : Sequence} {taken : List Char}

/-- An alternation chooses as a list of patterns does. -/
theorem firstConsumed?_eq (alternatives : List Sequence) (text : List Char) :
    firstConsumed? alternatives text = (firstOf? alternatives text).map (·.2.2) := by
  induction alternatives with
  | nil => rfl
  | cons items others ih =>
      rw [firstConsumed?, firstOf?, ih]
      cases items.consumed? text with
      | none =>
          cases firstOf? others text <;> rfl
      | some taken => rfl

theorem firstCaptured_eq (source : String)
    (first : firstOf? alternatives place.rest = some (rule, items, taken)) :
    firstCaptured source alternatives place = items.captured source place := by
  induction alternatives generalizing rule with
  | nil => cases first
  | cons head others ih =>
      rw [firstOf?] at first
      rw [firstCaptured]
      cases consumed : head.consumed? place.rest with
      | some begins =>
          rw [consumed] at first
          cases first
          rfl
      | none =>
          rw [consumed] at first
          obtain ⟨⟨number, chosen, begins⟩, further, same⟩ := Option.map_eq_some_iff.mp first
          cases same
          exact ih further

/-- A reference to a class by itself. -/
theorem firstOf?_alternation (alternatives : List Sequence) (name : String) (text : List Char) :
    firstOf? [[⟨.alternation alternatives, some name⟩]] text =
      (firstOf? alternatives text).map fun chosen =>
        (0, [⟨.alternation alternatives, some name⟩], chosen.2.2) := by
  rw [firstOf?, consumed?_singleton, Matcher.consumed?, firstConsumed?_eq]
  cases firstOf? alternatives text <;> rfl

/-- The token of the reference has the token of the pattern that was chosen as its last
capture, behind the captures in it. -/
theorem captured_alternation (source name : String)
    (first : firstOf? alternatives place.rest = some (rule, items, taken)) :
    captured source [⟨.alternation alternatives, some name⟩] place =
      items.captured source place ++
        [(name, (items.matched source place taken).toToken source)] := by
  have consumed : (Matcher.alternation alternatives).consumed? place.rest = some taken := by
    rw [Matcher.consumed?, firstConsumed?_eq, first]
    rfl
  have chosen := firstCaptured_eq source first
  rw [captured_cons_of_some consumed]
  simp [captured, Matcher.matched, Matcher.captured, Matcher.lexeme, chosen, matched, Match.toToken]

theorem wraps_matched (lacks : items.Lacks name)
    (first : firstOf? alternatives place.rest = some (rule, items, taken)) :
    Token.Wraps name
      ((matched source [⟨.alternation alternatives, some name⟩] place taken).toToken source)
      ((items.matched source place taken).toToken source) := by
  have absent := Sequence.ofClass_captured source items place lacks
  have captures := captured_alternation source name first
  constructor
  · rfl
  · rfl
  · simp [Token.getAll, Match.toToken, matched, captures, absent]
  · intro other different
    simp [Token.getAll, Match.toToken, matched, captures, Ne.symm different]
  · exact absent

end Sequence

namespace Visit

variable {alternatives : List Sequence} {name source : String} {place : Place}
  {path path' : List Visit}

/-- What is passed over and what is dropped depend on what the pattern that is chosen
consumes. -/
theorem passedFrom_alternation (alternatives : List Sequence) (name : String)
    (text : List Char) :
    passedFrom [[⟨.alternation alternatives, some name⟩]] text = passedFrom alternatives text ∧
      droppedFrom [[⟨.alternation alternatives, some name⟩]] text =
        droppedFrom alternatives text := by
  rw [passedFrom, passedFrom, droppedFrom, droppedFrom, Sequence.firstOf?_alternation]
  cases Sequence.firstOf? alternatives text with
  | none => exact ⟨rfl, rfl⟩
  | some chosen =>
      obtain ⟨rule, items, taken⟩ := chosen
      cases taken <;> exact ⟨rfl, rfl⟩

/-- The visit of a place by the reference and the visit by the patterns. -/
theorem wraps_of (lacks : ∀ items ∈ alternatives, items.Lacks name) (source : String)
    (place : Place) :
    Visit.Wraps name (of [[⟨.alternation alternatives, some name⟩]] source place)
      (of alternatives source place) := by
  constructor
  · rfl
  · exact (passedFrom_alternation alternatives name place.rest).2
  · simp only [of, foundAt, Sequence.firstOf?_alternation]
    cases first : Sequence.firstOf? alternatives place.rest with
    | none => exact .none
    | some chosen =>
        obtain ⟨rule, items, taken⟩ := chosen
        obtain ⟨member, -⟩ := Sequence.firstOf?_eq_some_iff.mp first
        have absent := lacks items (List.mem_of_getElem? member)
        exact .some ⟨rfl, Sequence.wraps_matched absent first⟩

/-- Both kinds of visits follow one another in step. -/
theorem Tile.forall₂_wraps (lacks : ∀ items ∈ alternatives, items.Lacks name)
    (outer : Tile [[⟨.alternation alternatives, some name⟩]] source place path)
    (inner : Tile alternatives source place path') :
    List.Forall₂ (Visit.Wraps name) path path' := by
  induction inner generalizing path with
  | finish ends =>
      cases outer with
      | finish => exact .nil
      | visit nonempty => exact absurd ends nonempty
  | @visit place visits nonempty _ ih =>
      cases outer with
      | finish ends => exact absurd ends nonempty
      | visit _ further =>
          rw [(passedFrom_alternation alternatives name place.rest).1] at further
          exact .cons (wraps_of lacks source place) (ih further)

theorem forall₂_wraps_visits (lacks : ∀ items ∈ alternatives, items.Lacks name)
    (input : String) :
    List.Forall₂ (Visit.Wraps name) (visits [[⟨.alternation alternatives, some name⟩]] input)
      (visits alternatives input) := by
  by_cases empty : input = ""
  · subst empty
    rw [visits_empty, visits_empty]
    exact .cons (wraps_of lacks "" (.start [])) .nil
  · exact (tile_visits _ empty).forall₂_wraps lacks (tile_visits alternatives empty)

/-! ## The course of the visits -/

section Course

variable {outer inner : Visit} {outers inners : List Visit}

theorem Wraps.result_eq (wraps : outer.Wraps name inner) (policy : UnmatchedPolicy) :
    outer.result policy = inner.result policy := by
  rw [result, result, wraps.pos_eq, wraps.dropped_eq]

theorem forall₂_wraps_droppedEvents (policy : UnmatchedPolicy) (pos : Nat) (c : Char) :
    List.Forall₂ (Event.Wraps name) (policy.events pos c : List (Event ε))
      (policy.events pos c) := by
  cases policy with
  | skip => exact .cons (.skipped pos c) .nil
  | log => exact .cons (.warned pos c) .nil
  | error => exact .nil

/-- At each visit the same happens, in the same order. -/
theorem Wraps.forall₂_events (wraps : outer.Wraps name inner) (policy : UnmatchedPolicy) :
    List.Forall₂ (Event.Wraps name) (outer.events policy : List (Event ε))
      (inner.events policy) := by
  obtain ⟨pos, hit, dropped⟩ := outer
  obtain ⟨pos', hit', dropped'⟩ := inner
  obtain ⟨rfl, rfl, hits⟩ := wraps
  apply List.rel_append
  · cases hits with
    | none => exact .nil
    | @some whole part related =>
        obtain ⟨rule, token⟩ := whole
        obtain ⟨rfl, tokens⟩ := related
        exact .cons (.matched tokens) .nil
  · cases dropped with
    | none => exact .nil
    | some c => exact forall₂_wraps_droppedEvents policy pos c

theorem forall₂_wraps_course (policy : UnmatchedPolicy)
    (related : List.Forall₂ (Visit.Wraps name) outers inners) :
    (course policy outers : List (Event ε) × _).2 = (course policy inners : List (Event ε) × _).2 ∧
      List.Forall₂ (Event.Wraps name) (course policy outers : List (Event ε) × _).1
        (course policy inners).1 := by
  induction related with
  | nil => exact ⟨rfl, .nil⟩
  | @cons outer inner outers inners wraps further ih =>
      obtain ⟨results, events⟩ := ih
      have here := wraps.forall₂_events (ε := ε) policy
      rw [course, course, wraps.result_eq]
      cases inner.result policy with
      | ok value => exact ⟨results, List.rel_append here events⟩
      | error failure => exact ⟨rfl, here⟩

end Course

end Visit

theorem Registry.exists_compileAll {registry : Registry} {patterns : List String}
    (compile : ∀ pattern ∈ patterns, ∃ items, registry.compile pattern = .ok items) :
    ∃ alternatives, registry.compileAll patterns = .ok alternatives := by
  induction patterns with
  | nil => exact ⟨[], rfl⟩
  | cons pattern patterns ih =>
      obtain ⟨⟨items, first⟩, others⟩ := List.forall_mem_cons.mp compile
      obtain ⟨alternatives, further⟩ := ih others
      exact ⟨items :: alternatives, mapM_cons_eq_ok_iff.mpr ⟨_, _, first, further, rfl⟩⟩

namespace Tokenizer

/-- A tokenizer with the classes of a registry and some rules in order. -/
def ofRules (registry : Registry) (policy : UnmatchedPolicy)
    (rules : List (String × (Token → Reaction ε Unit))) : Tokenizer ε :=
  rules.foldl (fun tokenizer rule => tokenizer.addRule rule.1 rule.2)
    { classes := registry, unmatched := policy }

/-- A tokenizer with the classes of a registry and one more, which is an alternation of some
patterns. Its only rule is a reference to this class. -/
def ofAlternation (registry : Registry) (policy : UnmatchedPolicy) (name : String)
    (patterns : List String) (callback : Token → Reaction ε Unit) : Tokenizer ε :=
  ({ classes := registry, unmatched := policy } : Tokenizer ε)
    |>.addClass name (.alternation patterns)
    |>.addRule (Registry.reference name) callback

variable {registry : Registry} {policy : UnmatchedPolicy} {name : String}
  {patterns : List String} {alternatives : List Sequence}
  {rules : List (String × (Token → Reaction ε Unit))} {callback : Token → Reaction ε Unit}

/-- Rules that compile are added to a tokenizer, and nothing else is changed. -/
theorem foldl_addRule (tokenizer : Tokenizer ε)
    (compiled : tokenizer.classes.compileAll (rules.map (·.1)) = .ok alternatives) :
    let extended := rules.foldl (fun tokenizer rule => tokenizer.addRule rule.1 rule.2) tokenizer
    extended.patterns = tokenizer.patterns ++ alternatives ∧
      extended.pending = tokenizer.pending ∧ extended.unmatched = tokenizer.unmatched := by
  induction rules generalizing tokenizer alternatives with
  | nil =>
      cases compiled
      exact ⟨(List.append_nil _).symm, rfl, rfl⟩
  | cons rule rules ih =>
      obtain ⟨items, others, first, further, rfl⟩ := mapM_cons_eq_ok_iff.mp compiled
      have added : tokenizer.addRule rule.1 rule.2 =
          { tokenizer with rules := tokenizer.rules ++ [⟨items, rule.2⟩] } := by
        rw [addRule, first]
      rw [List.foldl_cons, added]
      obtain ⟨several, pending, unmatched⟩ :=
        ih { tokenizer with rules := tokenizer.rules ++ [⟨items, rule.2⟩] } further
      refine ⟨?_, pending, unmatched⟩
      rw [several]
      simp [Tokenizer.patterns]

theorem ofRules_eq (policy : UnmatchedPolicy)
    (compiled : registry.compileAll (rules.map (·.1)) = .ok alternatives) :
    (ofRules registry policy rules).patterns = alternatives ∧
      (ofRules registry policy rules).pending = none ∧
      (ofRules registry policy rules).unmatched = policy :=
  foldl_addRule { classes := registry, unmatched := policy } compiled

theorem ofAlternation_eq (policy : UnmatchedPolicy) (callback : Token → Reaction ε Unit)
    (fresh : registry.checkName name = .ok ()) (nonempty : patterns ≠ [])
    (compiled : registry.compileAll patterns = .ok alternatives) :
    (ofAlternation registry policy name patterns callback).patterns =
        [[⟨.alternation alternatives, some name⟩]] ∧
      (ofAlternation registry policy name patterns callback).pending = none ∧
      (ofAlternation registry policy name patterns callback).unmatched = policy := by
  obtain ⟨unopened, unclosed, unknown⟩ := Registry.checkName_eq_ok_iff.mp fresh
  have built : registry.matcherOf name (.alternation patterns) = .ok (.alternation alternatives) :=
    Registry.matcherOf_eq_ok_iff.mpr (.alternation nonempty compiled)
  have defined : registry.define name (.alternation patterns) =
      .ok (registry.insert name (.alternation alternatives)) :=
    Registry.define_eq_ok_iff.mpr ⟨fresh, _, built, rfl⟩
  have found : (registry.insert name (.alternation alternatives)).find? name =
      some (.alternation alternatives) := by
    rw [Registry.find?_insert registry name name _ unknown, if_pos rfl]
  have refers := Registry.compile_reference unopened unclosed found
  have added : ({ classes := registry, unmatched := policy } : Tokenizer ε).addClass name
      (.alternation patterns) = { classes := registry.insert name _, unmatched := policy } :=
    addClass_of_ok defined
  simp [ofAlternation, added, addRule, refers, Tokenizer.patterns]

/-- Whether some patterns are the rules of a tokenizer or the alternatives of the class that
its only rule refers to, the runs over an input that their callbacks let finish come to the
same, and the same happens in them, except that the class stands around the tokens. -/
theorem wraps_run_ofAlternation (registrations : List (String × Definition))
    (built : Registry.empty.registerAll registrations = registry) (nonempty : rules ≠ [])
    (compile : ∀ rule ∈ rules, ∃ items, registry.compile rule.1 = .ok items)
    (fresh : registry.checkName name = .ok ()) (nesting : Nat) (input : String)
    (succeeds : (ofRules registry policy rules).CallbacksSucceed
      ((ofRules registry policy rules).answers nesting)
      ((ofRules registry policy rules).run nesting input))
    (succeedsToo : (ofAlternation registry policy name (rules.map (·.1)) callback).CallbacksSucceed
      ((ofAlternation registry policy name (rules.map (·.1)) callback).answers nesting)
      ((ofAlternation registry policy name (rules.map (·.1)) callback).run nesting input)) :
    Outcome.Wraps name
      ((ofAlternation registry policy name (rules.map (·.1)) callback).run nesting input)
      ((ofRules registry policy rules).run nesting input) := by
  have each : ∀ pattern ∈ rules.map (·.1), ∃ items, registry.compile pattern = .ok items := by
    intro pattern member
    obtain ⟨rule, inRules, rfl⟩ := List.mem_map.mp member
    exact compile rule inRules
  obtain ⟨alternatives, compiled⟩ := Registry.exists_compileAll each
  have lacks : ∀ items ∈ alternatives, items.Lacks name := by
    have coherent : registry.Coherent := built ▸ Registry.coherent_registerAll registrations
    have made := Sequence.eachEverywhere_iff.mp (coherent.eachEverywhere_of_compileAll compiled)
    obtain ⟨-, -, unknown⟩ := Registry.checkName_eq_ok_iff.mp fresh
    intro items member
    exact Registry.lacks_of_everywhere (by simpa [Registry.contains] using unknown)
      (made items member)
  obtain ⟨several, pending, unmatched⟩ := ofRules_eq policy compiled
  obtain ⟨one, pendingToo, unmatchedToo⟩ := ofAlternation_eq policy callback fresh
    (by simpa using nonempty) compiled
  obtain ⟨result, events⟩ := run_eq_course pending succeeds
  obtain ⟨resultToo, eventsToo⟩ := run_eq_course pendingToo succeedsToo
  rw [several, unmatched] at result events
  rw [one, unmatchedToo] at resultToo eventsToo
  obtain ⟨results, related⟩ := Visit.forall₂_wraps_course (ε := ε) policy
    (Visit.forall₂_wraps_visits lacks input)
  constructor
  · rw [result, resultToo, results]
  · rw [result]
    exact Visit.course_result policy _
  · rw [events, eventsToo]
    exact related

/-- The second pattern shadows the third one, and its empty token is followed by a character
that may not be dropped. -/
theorem wraps_run_ofAlternation_digits :
    let rules : List (String × (Token → Reaction Unit Unit)) :=
      [("{digits}{tail}", fun _ => .done ()), ("", fun _ => .done ()),
        ("{digits}", fun _ => .done ())]
    let registry := Registry.empty.registerAll
      [("digits", .predicate Char.isDigit), ("tail", .pattern "-{digits}")]
    Outcome.Wraps "choice"
      ((ofAlternation registry .error "choice" (rules.map (·.1)) fun _ => .done ()).run 0 "1-23;4")
      ((ofRules registry .error rules).run 0 "1-23;4") := by
  intro rules registry
  have compile : ∀ rule ∈ rules, ∃ items, registry.compile rule.1 = .ok items := by
    have compiles : ∀ pattern ∈ rules.map (·.1),
        (registry.compile pattern).toOption.isSome = true := by decide +kernel
    intro rule member
    obtain ⟨items, present⟩ := Option.isSome_iff_exists.mp
      (compiles rule.1 (List.mem_map_of_mem member))
    exact ⟨items, eq_ok_of_toOption_eq_some present⟩
  apply wraps_run_ofAlternation _ rfl (List.cons_ne_nil _ _) compile rfl 0
  · intro rule token _
    match rule with
    | 0 | 1 | 2 | _ + 3 => rfl
  · intro rule token _
    match rule with
    | 0 | _ + 1 => rfl

end Tokenizer

end PatternLexer
