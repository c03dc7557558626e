import PatternLexer.Proofs.Pattern.Trials
import PatternLexer.Proofs.Registry.History
import PatternLexer.Proofs.Registry.Iterations
import PatternLexer.Proofs.Tokenizer.Steps

/-!
# What is tried in runs and tests

A run tries the patterns of its rules in order at every cursor that it gets to, until one matches.
What it tries there, directly or through others, is what its list holds (`mem_runTrials_iff`), and
the same is true of a test, which tries one pattern at the beginning of the input
(`mem_testTrials_iff`). Among this is what is tried where no rule matches.

A visit leaves nothing peeked, so nothing is peeked where anything is tried (`settled_throughout`).
-/

namespace PatternLexer

open Text

variable {ε : Type}

namespace Tokenizer

variable {tokenizer : Tokenizer ε} {runOn : String → Option (Outcome ε RunError Unit)}
  {cursor : Cursor}

/-- What is tried in a run from a cursor on. Nothing is tried any more where a visit fails. -/
def trialsFrom (tokenizer : Tokenizer ε) (runOn : String → Option (Outcome ε RunError Unit)) :
    (ahead : List Char) → Cursor → List Trial
  | [], _ => []
  | _ :: ahead, cursor =>
      if cursor.atEnd then []
      else
        let (visit, next) := Visit.make tokenizer.patterns cursor
        Sequence.trialsFirst tokenizer.patterns cursor ++
          match (tokenizer.attend runOn visit).result with
          | .error _ => []
          | .ok _ => tokenizer.trialsFrom runOn ahead next

/-- What is tried in a run over an input. -/
def runTrials (tokenizer : Tokenizer ε) (runOn : String → Option (Outcome ε RunError Unit))
    (input : String) : List Trial :=
  match tokenizer.pending with
  | some _ => []
  | none =>
      let cursor := Cursor.start input
      if cursor.atEnd then Sequence.trialsFirst tokenizer.patterns cursor
      else tokenizer.trialsFrom runOn input.toList cursor

/-- The patterns of the rules up to the one that is called have been tried where its token
begins. -/
def Tried (tokenizer : Tokenizer ε) (trials : List Trial) (rule : Nat) (token : Token) : Prop :=
  ∀ earlier ≤ rule, ∀ items, tokenizer.patterns[earlier]? = some items →
    ∃ begins : Cursor, begins.position = token.start ∧ .sequence items begins ∈ trials

/-- What is tried to test whether a pattern matches all of an input. -/
def testTrials (tokenizer : Tokenizer ε) (input pattern : String) : List Trial :=
  match tokenizer.pending with
  | some _ => []
  | none =>
      match tokenizer.classes.compile pattern with
      | .error _ => []
      | .ok items => (Cursor.start input).trials items

/-- The visit that a run makes at a cursor does not fail, and the run goes on where it ends. -/
structure Moves (tokenizer : Tokenizer ε) (runOn : String → Option (Outcome ε RunError Unit))
    (begins ends : Cursor) : Prop where
  goesOn : begins.atEnd = false
  succeeds : (tokenizer.attend runOn (Visit.make tokenizer.patterns begins).1).result = .ok ()
  moves : (Visit.make tokenizer.patterns begins).2 = ends

/-- At a cursor, the pattern of a rule is tried if those of the rules before it fail, and so is what
is tried in it. -/
def TriesAt (tokenizer : Tokenizer ε) (cursor : Cursor) (trial : Trial) : Prop :=
  ∃ earlier items later, tokenizer.patterns = earlier ++ items :: later ∧
    (∀ other ∈ earlier, (cursor.match? other).1 = none) ∧
      Relation.ReflTransGen Trial.Tries (.sequence items cursor) trial

/-- A run over an input tries something at the cursors that it gets to, but not at the end of an
input that is not empty. -/
structure TriesIn (tokenizer : Tokenizer ε) (runOn : String → Option (Outcome ε RunError Unit))
    (input : String) (trial : Trial) : Prop where
  pending_eq : tokenizer.pending = none
  tried : ∃ cursor, Relation.ReflTransGen (tokenizer.Moves runOn) (.start input) cursor ∧
    (cursor.atEnd = true → input = "") ∧ tokenizer.TriesAt cursor trial

/-- A test of an input tries a pattern that compiles at the beginning, and what is tried in it. -/
structure TriesInTest (tokenizer : Tokenizer ε) (input pattern : String) (trial : Trial) :
    Prop where
  pending_eq : tokenizer.pending = none
  tried : ∃ items, tokenizer.classes.compile pattern = .ok items ∧
    Relation.ReflTransGen Trial.Tries (.sequence items (.start input)) trial

/-- A visit leaves nothing peeked. -/
theorem settled_make (patterns : List Sequence) (settled : cursor.Settled) :
    (Visit.make patterns cursor).2.Settled := by
  rw [Visit.make_eq _ settled]
  exact Cursor.settled_advance _ _

theorem settled_of_moves {begins ends : Cursor} (settled : begins.Settled)
    (moves : Relation.ReflTransGen (tokenizer.Moves runOn) begins ends) : ends.Settled := by
  induction moves with
  | refl => exact settled
  | tail _ move ih => exact move.moves ▸ settled_make tokenizer.patterns ih

/-- A visit where text is left shortens it. -/
theorem length_make_lt (patterns : List Sequence) (settled : cursor.Settled)
    (goesOn : cursor.atEnd = false) :
    (Visit.make patterns cursor).2.position.rest.length < cursor.position.rest.length := by
  have nonempty : cursor.position.rest ≠ [] := by simpa [Cursor.atEnd] using goesOn
  have passes := List.length_pos_iff.mpr (Visit.passedFrom_ne_nil patterns nonempty)
  have left := List.length_pos_iff.mpr nonempty
  rw [Visit.make_eq _ settled]
  simp only [Cursor.position_advance, Place.past, List.length_drop]
  omega

theorem mem_trialsFirst_iff (settled : cursor.Settled) {trial : Trial} :
    trial ∈ Sequence.trialsFirst tokenizer.patterns cursor ↔ tokenizer.TriesAt cursor trial := by
  rw [Sequence.mem_trialsFirst_iff settled]
  simp only [Cursor.mem_trials_iff settled, TriesAt]

theorem TriesAt.settled {trial : Trial} (settled : cursor.Settled)
    (tries : tokenizer.TriesAt cursor trial) : trial.cursor.Settled := by
  obtain ⟨earlier, items, later, -, -, tried⟩ := tries
  exact settled.of_tries tried

/-- A run does not go on at the end. -/
theorem eq_of_moves_of_atEnd {begins ends : Cursor} (ended : begins.atEnd = true)
    (moves : Relation.ReflTransGen (tokenizer.Moves runOn) begins ends) : ends = begins := by
  rcases moves.cases_head with same | ⟨next, move, -⟩
  · exact same.symm
  · exact Bool.noConfusion (ended.symm.trans move.goesOn)

/-- At the end nothing is tried any more. -/
theorem not_exists_triesAt_of_atEnd (ended : cursor.atEnd = true) {trial : Trial} :
    ¬ ∃ reached, Relation.ReflTransGen (tokenizer.Moves runOn) cursor reached ∧
      reached.atEnd = false ∧ tokenizer.TriesAt reached trial := by
  rintro ⟨reached, moves, goesOn, -⟩
  rw [eq_of_moves_of_atEnd ended moves, ended] at goesOn
  cases goesOn

/-- From a cursor on, a run tries something wherever it gets to before the end. -/
theorem mem_trialsFrom_iff {ahead : List Char} (settled : cursor.Settled)
    (enough : cursor.position.rest.length ≤ ahead.length) {trial : Trial} :
    trial ∈ tokenizer.trialsFrom runOn ahead cursor ↔
      ∃ reached, Relation.ReflTransGen (tokenizer.Moves runOn) cursor reached ∧
        reached.atEnd = false ∧ tokenizer.TriesAt reached trial := by
  induction ahead generalizing cursor with
  | nil =>
      have nothing := List.eq_nil_of_length_eq_zero (Nat.le_zero.mp enough)
      have ended : cursor.atEnd = true := by simp [Cursor.atEnd, nothing]
      exact iff_of_false List.not_mem_nil (not_exists_triesAt_of_atEnd ended)
  | cons c ahead ih =>
      rw [trialsFrom]
      cases goesOn : cursor.atEnd with
      | true => exact iff_of_false (by simp) (not_exists_triesAt_of_atEnd goesOn)
      | false =>
          have shorter := length_make_lt tokenizer.patterns settled goesOn
          rw [List.length_cons] at enough
          have further := ih (settled_make tokenizer.patterns settled) (by omega)
          simp only [Bool.false_eq_true, if_false]
          rw [List.mem_append, mem_trialsFirst_iff settled]
          constructor
          · rintro (here | behind)
            · exact ⟨cursor, .refl, goesOn, here⟩
            · rcases result : (tokenizer.attend runOn
                (Visit.make tokenizer.patterns cursor).1).result with failure | value
              · rw [result] at behind
                cases behind
              · rw [result] at behind
                obtain ⟨reached, moves, tries⟩ := further.mp behind
                exact ⟨reached, .head ⟨goesOn, result, rfl⟩ moves, tries⟩
          · rintro ⟨reached, moves, before, tries⟩
            rcases moves.cases_head with rfl | ⟨next, ⟨-, succeeds, rfl⟩, moves⟩
            · exact .inl tries
            · rw [succeeds]
              exact .inr (further.mpr ⟨reached, moves, before, tries⟩)

/-- The list of a run holds what is tried in it, at any depth. -/
theorem mem_runTrials_iff {input : String} {trial : Trial} :
    trial ∈ tokenizer.runTrials runOn input ↔ tokenizer.TriesIn runOn input trial := by
  have begins := Cursor.settled_start input
  rw [runTrials]
  cases pending : tokenizer.pending with
  | some failure =>
      refine iff_of_false List.not_mem_nil fun tries => ?_
      cases pending.symm.trans tries.pending_eq
  | none =>
      by_cases empty : input = ""
      · subst empty
        have ended : (Cursor.start "").atEnd = true := rfl
        simp only [ended, if_true]
        rw [mem_trialsFirst_iff begins]
        constructor
        · exact fun tries => ⟨pending, _, .refl, fun _ => rfl, tries⟩
        · rintro ⟨-, reached, moves, -, tries⟩
          exact eq_of_moves_of_atEnd ended moves ▸ tries
      · have goesOn : (Cursor.start input).atEnd = false := by
          simpa [Cursor.atEnd, Cursor.start, Cursor.ofPlace, Place.start] using empty
        simp only [goesOn, Bool.false_eq_true, if_false]
        have enough : (Cursor.start input).position.rest.length ≤ input.toList.length :=
          Nat.le_refl _
        rw [mem_trialsFrom_iff begins enough]
        constructor
        · rintro ⟨reached, moves, before, tries⟩
          refine ⟨pending, reached, moves, fun ended => ?_, tries⟩
          cases ended.symm.trans before
        · rintro ⟨-, reached, moves, before, tries⟩
          exact ⟨reached, moves, Bool.eq_false_iff.mpr (mt before empty), tries⟩

/-- The list of a test holds what is tried in it, at any depth. -/
theorem mem_testTrials_iff {input pattern : String} {trial : Trial} :
    trial ∈ tokenizer.testTrials input pattern ↔ tokenizer.TriesInTest input pattern trial := by
  rw [testTrials]
  cases pending : tokenizer.pending with
  | some failure =>
      refine iff_of_false List.not_mem_nil fun tries => ?_
      cases pending.symm.trans tries.pending_eq
  | none =>
      cases compiled : tokenizer.classes.compile pattern with
      | error failure =>
          refine iff_of_false List.not_mem_nil fun tries => ?_
          obtain ⟨items, compiles, -⟩ := tries.tried
          cases compiled.symm.trans compiles
      | ok items =>
          simp only
          rw [Cursor.mem_trials_iff (Cursor.settled_start input)]
          constructor
          · exact fun tried => ⟨pending, items, compiled, tried⟩
          · rintro ⟨-, _, compiles, tried⟩
            cases compiled.symm.trans compiles
            exact tried

theorem TriesIn.settled {input : String} {trial : Trial}
    (tries : tokenizer.TriesIn runOn input trial) : trial.cursor.Settled := by
  obtain ⟨reached, moves, -, tried⟩ := tries.tried
  exact tried.settled (settled_of_moves (Cursor.settled_start input) moves)

theorem TriesInTest.settled {input pattern : String} {trial : Trial}
    (tries : tokenizer.TriesInTest input pattern trial) : trial.cursor.Settled := by
  obtain ⟨items, -, tried⟩ := tries.tried
  exact (Cursor.settled_start input).of_tries tried

variable {rule : Nat} {token : Token}

theorem Tried.mono {trials more : List Trial} (tried : tokenizer.Tried trials rule token)
    (subset : trials ⊆ more) : tokenizer.Tried more rule token := by
  intro earlier upTo items place
  obtain ⟨begins, there, member⟩ := tried earlier upTo items place
  exact ⟨begins, there, subset member⟩

theorem tried_of_mem_attend (settled : cursor.Settled)
    (called : .matched rule token ∈
      (tokenizer.attend runOn (Visit.make tokenizer.patterns cursor).1).ownEvents) :
    tokenizer.Tried (Sequence.trialsFirst tokenizer.patterns cursor) rule token := by
  have hit : (Visit.make tokenizer.patterns cursor).1.hit = some (rule, token) := by
    rw [attend_eq_andThen] at called
    rcases Outcome.mem_ownEvents_andThen called with here | ⟨_, dropped⟩
    · exact (tokenizer.mem_ownEvents_call_iff runOn _).mp here
    · exact absurd dropped not_mem_ownEvents_dropAt
  rw [Visit.make_eq _ settled] at hit
  obtain ⟨chosen, taken, first, rfl, -⟩ := Visit.foundAt_eq_some hit
  obtain ⟨-, -, fail⟩ := Sequence.firstOf?_eq_some_iff.mp first
  intro earlier upTo items place
  obtain ⟨inside, rfl⟩ := List.getElem?_eq_some_iff.mp place
  have split := List.take_append_drop earlier tokenizer.patterns
  rw [List.drop_eq_getElem_cons inside] at split
  refine ⟨cursor, rfl, (Sequence.mem_trialsFirst_iff settled).mpr ⟨_, _, _, split.symm, ?_,
    List.mem_cons_self⟩⟩
  intro other member
  obtain ⟨before, less, rfl⟩ := List.mem_take_iff_getElem.mp member
  have unmatched := fail before (by omega) _ (List.getElem?_eq_getElem (by omega))
  exact settled.match?_eq_none_iff_consumed?.mpr unmatched

theorem tried_of_mem_runFrom (ahead : List Char) (settled : cursor.Settled)
    (called : .matched rule token ∈ (tokenizer.runFrom runOn ahead cursor).ownEvents) :
    tokenizer.Tried (tokenizer.trialsFrom runOn ahead cursor) rule token := by
  induction ahead generalizing cursor with
  | nil => cases called
  | cons c ahead ih =>
      rw [runFrom] at called
      rw [trialsFrom]
      cases goesOn : cursor.atEnd with
      | true =>
          rw [goesOn] at called
          cases called
      | false =>
          simp only [goesOn, Bool.false_eq_true, if_false] at called ⊢
          rcases result : (tokenizer.attend runOn (Visit.make tokenizer.patterns cursor).1).result
            with failure | value
          · rw [Outcome.andThen_of_error result] at called
            exact (tried_of_mem_attend settled called).mono (List.subset_append_left _ _)
          · rw [Outcome.andThen_of_result result, Outcome.ownEvents_prepend] at called
            rcases List.mem_append.mp called with here | further
            · exact (tried_of_mem_attend settled here).mono (List.subset_append_left _ _)
            · have moved := settled_make tokenizer.patterns settled
              exact (ih moved further).mono (List.subset_append_right _ _)

theorem tried_of_called {input : String}
    (called : .matched rule token ∈ (tokenizer.runWith runOn input).ownEvents) :
    tokenizer.Tried (tokenizer.runTrials runOn input) rule token := by
  have begins := Cursor.settled_start input
  rw [runWith] at called
  rw [runTrials]
  cases pending : tokenizer.pending with
  | some failure =>
      rw [pending] at called
      cases called
  | none =>
      simp only [pending] at called ⊢
      split at called
      · rename_i ends
        rw [if_pos ends]
        exact tried_of_mem_attend begins called
      · rename_i goesOn
        rw [if_neg goesOn]
        exact tried_of_mem_runFrom _ begins called

theorem tried_of_accepts {input pattern : String} {answer : Bool}
    (accepts : tokenizer.accepts input pattern = .ok answer) :
    ∃ items, tokenizer.classes.compile pattern = .ok items ∧
      .sequence items (Cursor.start input) ∈ tokenizer.testTrials input pattern := by
  rw [Tokenizer.accepts] at accepts
  rw [testTrials]
  cases pending : tokenizer.pending with
  | some failure =>
      rw [pending] at accepts
      cases accepts
  | none =>
      cases compiled : tokenizer.classes.compile pattern with
      | error failure =>
          simp only [pending, compiled] at accepts
          cases accepts
      | ok items => exact ⟨items, rfl, List.mem_cons_self⟩

end Tokenizer

/-- Nothing is peeked where something is tried. A matcher that matches at a cursor with nothing
peeked leaves nothing peeked, and while a sequence is matched there every item and every
alternative, at any depth, begins with nothing peeked. So does every iteration of compiling a
pattern, which consumes at least one character, and so does every sequence that is tried in a run,
whatever the callbacks do, or in a test.

Nothing is left out: the lists hold all that is tried, directly or through other trials, at every
cursor that a run gets to, whether or not a rule matches there. The iterations are those that
compilation goes through, whether or not it succeeds. -/
theorem settled_throughout (ε : Type) :
    (∀ (matcher : Matcher) (cursor next : Cursor) (found : Match), cursor.Settled →
      matcher.scan cursor = (some found, next) → next.Settled) ∧
      (∀ (items : Sequence) (cursor : Cursor), cursor.Settled →
        (∀ trial, trial ∈ cursor.trials items ↔
          Relation.ReflTransGen Trial.Tries (.sequence items cursor) trial) ∧
          ∀ trial ∈ cursor.trials items, trial.cursor.Settled) ∧
      (∀ (registry : Registry) (pattern : String),
        registry.Reads (.start pattern) (registry.iterations pattern)
            (registry.sequenceOf pattern) ∧
          (∀ begins ends, (begins, ends) ∈ registry.iterations pattern →
            registry.Iterates begins ends) ∧
          ∀ items, registry.sequenceOf pattern = .ok items →
            List.Forall₂ registry.ReadIn items (registry.iterations pattern)) ∧
      ∀ (tokenizer : Tokenizer ε) (input : String),
        (∀ runOn,
          (∀ trial, trial ∈ tokenizer.runTrials runOn input ↔
            tokenizer.TriesIn runOn input trial) ∧
            (∀ trial ∈ tokenizer.runTrials runOn input, trial.cursor.Settled) ∧
            ∀ rule token, .matched rule token ∈ (tokenizer.runWith runOn input).ownEvents →
              tokenizer.Tried (tokenizer.runTrials runOn input) rule token) ∧
          ∀ pattern,
            (∀ trial, trial ∈ tokenizer.testTrials input pattern ↔
              tokenizer.TriesInTest input pattern trial) ∧
              (∀ trial ∈ tokenizer.testTrials input pattern, trial.cursor.Settled) ∧
              ∀ answer, tokenizer.accepts input pattern = .ok answer →
                ∃ items, tokenizer.classes.compile pattern = .ok items ∧
                  .sequence items (Cursor.start input) ∈
                    tokenizer.testTrials input pattern := by
  refine ⟨?_, ?_, ?_, ?_⟩
  · intro matcher cursor next found settled matched
    exact matcher.settled_scan settled matched
  · intro items cursor settled
    refine ⟨fun _ => Cursor.mem_trials_iff settled, ?_⟩
    exact fun trial member => settled.of_tries ((Cursor.mem_trials_iff settled).mp member)
  · intro registry pattern
    have reads := registry.reads_iterations pattern
    refine ⟨reads, ?_, ?_⟩
    · exact fun begins ends => reads.iterates (Cursor.settled_start pattern)
    · exact fun items => reads.forall₂_readIn
  · intro tokenizer input
    refine ⟨?_, ?_⟩
    · intro runOn
      refine ⟨fun _ => Tokenizer.mem_runTrials_iff, ?_, fun _ _ => Tokenizer.tried_of_called⟩
      exact fun trial member => (Tokenizer.mem_runTrials_iff.mp member).settled
    · intro pattern
      refine ⟨fun _ => Tokenizer.mem_testTrials_iff, ?_, fun _ => Tokenizer.tried_of_accepts⟩
      exact fun trial member => (Tokenizer.mem_testTrials_iff.mp member).settled

/-- The first alternative fails behind its reference, so the second one begins again where the first
one did. In the run a rule for numbers is tried before the one for words. At a question mark neither
matches, and both are tried. -/
theorem settled_throughout_entry :
    let registry := Registry.empty.registerAll [("pair", .pattern "{word}:{word}"),
      ("entry", .alternation ["{pair};", "{pair}"])]
    let rules : List (Rule Unit) :=
      [⟨[⟨Builtin.number.matcher, none⟩], fun _ => .done ()⟩,
        ⟨[⟨Builtin.word.matcher, none⟩], fun _ => .done ()⟩]
    let tokenizer : Tokenizer Unit := { classes := registry, rules := rules }
    ∃ items found next begins ends token,
      registry.compile "{entry}" = .ok items ∧
        (Matcher.pattern items).scan (Cursor.start "a:b") = (some found, next) ∧ next.Settled ∧
        ((Cursor.start "a:b").trials items).length = 15 ∧
        (∀ trial ∈ (Cursor.start "a:b").trials items, trial.cursor.Settled) ∧
        (registry.iterations "{entry}").head? = some (begins, ends) ∧
        registry.Iterates begins ends ∧
        (tokenizer.runWith (fun _ => none) "a").ownEvents = [.matched 1 token] ∧
        tokenizer.Tried (tokenizer.runTrials (fun _ => none) "a") 1 token ∧
        .sequence [⟨Builtin.word.matcher, none⟩] (Cursor.start "?") ∈
          tokenizer.runTrials (fun _ => none) "?" := by
  intro registry rules tokenizer
  obtain ⟨scans, tries, compiles, runs⟩ := settled_throughout Unit
  have succeeds : ((registry.compile "{entry}").toOption.bind fun items =>
      ((Matcher.pattern items).scan (Cursor.start "a:b")).1).isSome = true := by decide +kernel
  have counted : (registry.compile "{entry}").toOption.map (fun items =>
      ((Cursor.start "a:b").trials items).length) = some 15 := by decide +kernel
  have first : (registry.iterations "{entry}").head?.isSome = true := by decide +kernel
  obtain ⟨found, succeeds⟩ := Option.isSome_iff_exists.mp succeeds
  obtain ⟨items, present, matched⟩ := Option.bind_eq_some_iff.mp succeeds
  obtain ⟨⟨begins, ends⟩, first⟩ := Option.isSome_iff_exists.mp first
  obtain ⟨token, called⟩ : ∃ token,
      (tokenizer.runWith (fun _ => none) "a").ownEvents = [.matched 1 token] := ⟨_, rfl⟩
  have matches' : (Matcher.pattern items).scan (Cursor.start "a:b") =
      (some found, ((Matcher.pattern items).scan (Cursor.start "a:b")).2) := Prod.ext matched rfl
  rw [present] at counted
  have begun := Cursor.settled_start "a:b"
  have iterates := (compiles registry "{entry}").2.1 begins ends (List.mem_of_head? first)
  have tried := ((runs tokenizer "a").1 fun _ => none).2.2 1 token (called ▸ List.mem_cons_self)
  have unmatched : ∀ other ∈ [[⟨Builtin.number.matcher, none⟩]],
      ((Cursor.start "?").match? other).1 = none := by decide
  have triesAt : tokenizer.TriesAt (.start "?")
      (.sequence [⟨Builtin.word.matcher, none⟩] (.start "?")) :=
    ⟨[[⟨Builtin.number.matcher, none⟩]], _, [], rfl, unmatched, .refl⟩
  have both := (((runs tokenizer "?").1 fun _ => none).1 _).mpr
    ⟨rfl, _, .refl, fun ended => absurd ended (by decide), triesAt⟩
  exact ⟨items, found, _, begins, ends, token, eq_ok_of_toOption_eq_some present, matches',
    scans _ _ _ _ begun matches', Option.some.inj counted, (tries items _ begun).2, first,
    iterates, called, tried, both⟩

end PatternLexer
