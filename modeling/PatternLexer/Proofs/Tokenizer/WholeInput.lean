import PatternLexer.Proofs.Tokenizer.Choice
import PatternLexer.Proofs.Tokenizer.Policies

/-!
# Patterns that match all of an input

Whether a pattern matches all of an input can be tested, or seen from a run of a tokenizer that
has this pattern as its only rule: there the first callback gets a token that is the whole input
(`accepts_iff_run`). Nothing is left to visit behind this token, so its callback is the only one
that is called, and no policy for characters that nothing consumes is asked.
-/

namespace PatternLexer

open Text

variable {ε error α : Type}

/-- The first callback that is called is that of the first rule, and its token is all of the
input. -/
structure Outcome.FirstCovers (outcome : Outcome ε error α) (input : String) (token : Token) :
    Prop where
  first_eq : outcome.calls.head? = some (0, token)
  pos_eq : token.pos = 0
  length_eq : token.length = input.utf8ByteSize

/-- The token of a pattern that consumes all of an input. -/
def Sequence.wholeToken (items : Sequence) (input : String) : Token :=
  (items.matched input (.start input.toList) input.toList).toToken input

/-- A beginning of a text that is as large as the text is all of it. -/
theorem Text.eq_of_isPrefix_of_size {first text : List Char} (begins : first <+: text)
    (same : size first = size text) : first = text := by
  rcases begins with ⟨rest, rfl⟩
  rw [size_append] at same
  have nothing : rest = [] := by
    apply size_eq_zero_iff.mp
    omega
  rw [nothing, List.append_nil]

namespace Visit

variable {patterns : List Sequence} {input : String} {place : Place} {path : List Visit}
  {items : Sequence} {rule : Nat}

/-- Where a visit passes over all that is left it is the last one. -/
theorem Tile.eq_singleton (tile : Tile patterns input place path) (nonempty : place.rest ≠ [])
    (all : passedFrom patterns place.rest = place.rest) : path = [of patterns input place] := by
  cases tile with
  | finish ends => exact absurd ends nonempty
  | visit _ further =>
      have nothing : (place.past (passedFrom patterns place.rest)).rest = [] := by
        rw [all]
        simp [Place.past]
      cases further with
      | finish => rfl
      | visit left => exact absurd nothing left

/-- Where the first pattern that matches consumes all of the input there is one visit, at which
nothing is dropped. -/
theorem visits_of_firstOf?_all
    (first : Sequence.firstOf? patterns input.toList = some (rule, items, input.toList)) :
    visits patterns input = [⟨0, some (rule, items.wholeToken input), none⟩] := by
  have start : of patterns input (.start input.toList) =
      ⟨0, some (rule, items.wholeToken input), droppedFrom patterns input.toList⟩ := by
    rw [of, foundAt, Place.start, first]
    rfl
  by_cases empty : input = ""
  · subst empty
    have undropped : droppedFrom patterns "".toList = none := droppedFrom_nil patterns
    rw [visits_empty, ← undropped]
    exact congrArg (fun visit => [visit]) start
  · have nonempty : input.toList ≠ [] := by simpa using empty
    obtain ⟨c, rest, whole⟩ := List.exists_cons_of_ne_nil nonempty
    have all : passedFrom patterns input.toList = input.toList := by
      rw [passedFrom, first, whole]
    have undropped : droppedFrom patterns input.toList = none := by
      rw [droppedFrom, first, whole]
    rw [(tile_visits patterns empty).eq_singleton nonempty all, start, undropped]

end Visit

namespace Tokenizer

variable {tokenizer : Tokenizer ε} {registry : Registry} {policy : UnmatchedPolicy}
  {pattern input : String} {items : Sequence} {callback : Token → Reaction ε Unit} {token : Token}
  {nesting : Nat}

/-- A pattern matches all of an input if this is what it consumes. -/
theorem accepts_eq_ok_true_iff (pending : tokenizer.pending = none)
    (compiled : tokenizer.classes.compile pattern = .ok items) :
    tokenizer.accepts input pattern = .ok true ↔
      items.consumed? input.toList = some input.toList := by
  have settled := Cursor.settled_start input
  have place : (Cursor.start input).position.rest = input.toList := rfl
  simp only [accepts, pending, compiled]
  cases consumed : items.consumed? input.toList with
  | none => simp [settled.match?_of_not_consumed consumed]
  | some taken =>
      obtain ⟨begins, matched⟩ := settled.match?_of_consumed consumed
      rcases begins with ⟨rest, split⟩
      rw [place] at split
      simp [matched, Sequence.matched, Place.past, place, ← split]

/-- A tokenizer with a single rule. -/
theorem ofRules_singleton (policy : UnmatchedPolicy) (callback : Token → Reaction ε Unit)
    (compiled : registry.compile pattern = .ok items) :
    ofRules registry policy [(pattern, callback)] =
      { classes := registry, rules := [⟨items, callback⟩], unmatched := policy } := by
  simp [ofRules, addRule, compiled]

theorem pending_ofRules_singleton (policy : UnmatchedPolicy)
    (callback : Token → Reaction ε Unit) (compiled : registry.compile pattern = .ok items) :
    (ofRules registry policy [(pattern, callback)]).pending = none := by
  rw [ofRules_singleton policy callback compiled]

theorem patterns_ofRules_singleton (policy : UnmatchedPolicy)
    (callback : Token → Reaction ε Unit) (compiled : registry.compile pattern = .ok items) :
    (ofRules registry policy [(pattern, callback)]).patterns = [items] := by
  rw [ofRules_singleton policy callback compiled]
  rfl

theorem callback_ofRules_singleton (policy : UnmatchedPolicy)
    (callback : Token → Reaction ε Unit) (compiled : registry.compile pattern = .ok items) :
    (ofRules registry policy [(pattern, callback)]).callback 0 = callback := by
  rw [ofRules_singleton policy callback compiled]
  rfl

/-- A run over an input that its only pattern consumes is one call. -/
theorem run_eq_call (policy : UnmatchedPolicy) (callback : Token → Reaction ε Unit)
    (compiled : registry.compile pattern = .ok items) (nesting : Nat)
    (all : items.consumed? input.toList = some input.toList) :
    let single := ofRules registry policy [(pattern, callback)]
    single.run nesting input =
      single.call (single.answers nesting) (some (0, items.wholeToken input)) := by
  intro single
  have pending : single.pending = none := pending_ofRules_singleton policy callback compiled
  have patterns : single.patterns = [items] := patterns_ofRules_singleton policy callback compiled
  have first : Sequence.firstOf? [items] input.toList = some (0, items, input.toList) := by
    rw [Sequence.firstOf?, all]
  rw [run_eq_runWith, runWith_eq_follow pending, patterns, Visit.visits_of_firstOf?_all first,
    follow, attend]
  simp [follow]

/-- A callback of the first rule that gets all of the input is called only if the pattern
consumes all of the input. -/
theorem consumed?_of_mem_calls (compiled : registry.compile pattern = .ok items)
    (called : (0, token) ∈
      ((ofRules registry policy [(pattern, callback)]).run nesting input).calls)
    (begins : token.pos = 0) (length : token.length = input.utf8ByteSize) :
    items.consumed? input.toList = some input.toList := by
  have pending := pending_ofRules_singleton policy callback compiled
  have patterns := patterns_ofRules_singleton policy callback compiled
  rw [run_eq_runWith, runWith_eq_follow pending, patterns] at called
  obtain ⟨visit, member, hit⟩ := exists_visit_of_mem_calls called
  obtain ⟨before, rest, split, -, reports⟩ := Visit.reports_visits _ member
  have nothing : before = [] := by
    apply size_eq_zero_iff.mp
    rw [← reports.pos_eq, ← (reports.token_at 0 token hit).1, begins]
  obtain ⟨⟨chosen, found, only, matched, same⟩, -⟩ := (reports.finds 0 token).mp hit
  obtain rfl : items = chosen := Option.some.inj only
  have settled : (Cursor.behind before rest []).Settled := rfl
  obtain ⟨taken, consumed, rfl⟩ := settled.match?_eq_some_iff_consumed?.mp matched
  rw [nothing, List.nil_append] at split
  have place : (Cursor.behind before rest []).position.rest = input.toList := split
  rw [place] at consumed
  have large : size taken = size input.toList := by
    rw [size_toList, ← length, same]
    exact (Sequence.length_toToken_matched items _ _ taken).symm
  rw [consumed, eq_of_isPrefix_of_size (Sequence.isPrefix_of_consumed? consumed) large]

/-- A pattern matches all of an input just where a run with this pattern as its only rule first
calls its callback with all of the input. If this callback succeeds, no other one is called in
the run, and the run succeeds. -/
theorem accepts_iff_run (tokenizer : Tokenizer ε) (pending : tokenizer.pending = none)
    (compiled : tokenizer.classes.compile pattern = .ok items) (policy : UnmatchedPolicy)
    (callback : Token → Reaction ε Unit) (nesting : Nat) (input : String) :
    let single := ofRules tokenizer.classes policy [(pattern, callback)]
    let outcome := single.run nesting input
    (tokenizer.accepts input pattern = .ok true ↔ ∃ token, outcome.FirstCovers input token) ∧
      ∀ token, outcome.FirstCovers input token →
        ((callback token).perform (single.answers nesting) single.accepts).result = .ok () →
          outcome.calls = [(0, token)] ∧ outcome.result = .ok () := by
  intro single outcome
  have covered (token : Token) (covers : outcome.FirstCovers input token) :
      items.consumed? input.toList = some input.toList :=
    consumed?_of_mem_calls compiled (List.mem_of_head? covers.first_eq) covers.pos_eq
      covers.length_eq
  have called (all : items.consumed? input.toList = some input.toList) :
      outcome = single.call (single.answers nesting) (some (0, items.wholeToken input)) :=
    run_eq_call policy callback compiled nesting all
  constructor
  · rw [accepts_eq_ok_true_iff pending compiled]
    constructor
    · intro all
      refine ⟨items.wholeToken input, ?_, rfl, ?_⟩
      · rw [called all, calls_call]
        rfl
      · rw [Sequence.wholeToken, Sequence.length_toToken_matched, size_toList]
    · rintro ⟨token, covers⟩
      exact covered token covers
  · intro token covers succeeds
    have first := covers.first_eq
    rw [called (covered token covers), calls_call] at first ⊢
    obtain rfl : items.wholeToken input = token := congrArg Prod.snd (Option.some.inj first)
    refine ⟨rfl, (call_eq _ _ 0 _).2.2 ?_⟩
    have same : single.callback 0 = callback := callback_ofRules_singleton policy callback compiled
    rw [same]
    exact succeeds

/-- The line feed that ends a line belongs to what is matched, and a run inside the callback
that fails does not matter if the callback goes on. -/
theorem accepts_iff_run_line :
    let tokenizer : Tokenizer Unit := .empty
    let callback : Token → Reaction Unit Unit := fun _ => .run "b" fun _ => .done ()
    let outcome := (ofRules tokenizer.classes .error [("{word}:{line}", callback)]).run 1 "a:é\n"
    tokenizer.accepts "a:é\n" "{word}:{line}" = .ok true ∧
      ∃ token, outcome.FirstCovers "a:é\n" token ∧ outcome.calls = [(0, token)] ∧
        outcome.result = .ok () := by
  intro tokenizer callback outcome
  have compiles : (tokenizer.classes.compile "{word}:{line}").toOption.isSome = true := by
    decide +kernel
  obtain ⟨items, present⟩ := Option.isSome_iff_exists.mp compiles
  have compiled := eq_ok_of_toOption_eq_some present
  obtain ⟨agree, only⟩ :=
    tokenizer.accepts_iff_run rfl compiled .error callback 1 "a:é\n"
  have accepts : (tokenizer.accepts "a:é\n" "{word}:{line}").toOption = some true := by
    decide +kernel
  have accepted := eq_ok_of_toOption_eq_some accepts
  obtain ⟨token, covers⟩ := agree.mp accepted
  exact ⟨accepted, token, covers, only token covers rfl⟩

end Tokenizer

end PatternLexer
