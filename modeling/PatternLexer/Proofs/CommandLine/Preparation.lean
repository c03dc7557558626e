import PatternLexer.CommandLine.Command
import PatternLexer.Proofs.Registry.Coherence

/-!
# The tokenizer of a command line

The classes of a command line are defined first, and nothing is done when one of them is wrong. So
the patterns are added to a tokenizer that keeps no error and has no rules (`ready_of_prepare`).

Adding patterns leaves the classes alone. The rules are those of the patterns that compile, and
they all describe their tokens (`rule_of_mem_addDescribed`). Of the patterns that do not
compile, the first one leaves its error (`pending_addDescribed`).
-/

namespace PatternLexer.CommandLine

variable {options : Options} {tokenizer extended : Tokenizer String}
  {definition name pattern : String} {definitions patterns : List String}

/-- The classes of a command line come from definitions, and their names stand before the equals
signs there. -/
structure FromDefinitions (classes : Registry) : Prop where
  coherent : classes.Coherent
  unsigned : ∀ name matcher, (name, matcher) ∈ classes.classes → '=' ∉ name.toList

theorem fromDefinitions_empty : FromDefinitions Registry.empty :=
  ⟨Registry.coherent_empty, fun _ _ absurd => (List.not_mem_nil absurd).elim⟩

/-- The name of a definition ends before the first equals sign. -/
theorem unsigned_of_splitDefinition? (split : splitDefinition? definition = some (name, pattern)) :
    '=' ∉ name.toList := by
  rw [splitDefinition?] at split
  split at split
  · cases split
  · cases split
    intro member
    rw [String.toList_ofList] at member
    simpa using List.all_eq_true.mp List.all_takeWhile _ member

theorem FromDefinitions.of_define {classes more : Registry} {meaning : Definition}
    (built : FromDefinitions classes) (unsigned : '=' ∉ name.toList)
    (defined : classes.define name meaning = .ok more) : FromDefinitions more := by
  constructor
  · exact built.coherent.of_define defined
  · obtain ⟨-, matcher, -, rfl⟩ := Registry.define_eq_ok_iff.mp defined
    intro other held member
    rcases List.mem_cons.mp member with same | member
    · cases same
      exact unsigned
    · exact built.unsigned other held member

theorem FromDefinitions.addClass (built : FromDefinitions tokenizer.classes)
    (unsigned : '=' ∉ name.toList) (meaning : Definition) :
    FromDefinitions (tokenizer.addClass name meaning).classes ∧
      (tokenizer.addClass name meaning).rules = tokenizer.rules := by
  cases defined : tokenizer.classes.define name meaning with
  | error failure =>
      rw [Tokenizer.addClass_of_error defined]
      exact ⟨built, rfl⟩
  | ok classes =>
      rw [Tokenizer.addClass_of_ok defined]
      exact ⟨built.of_define unsigned defined, rfl⟩

theorem FromDefinitions.addClasses (built : FromDefinitions tokenizer.classes)
    (added : addClasses tokenizer definitions = .ok extended) :
    FromDefinitions extended.classes ∧ extended.rules = tokenizer.rules := by
  induction definitions generalizing tokenizer with
  | nil =>
      cases added
      exact ⟨built, rfl⟩
  | cons definition definitions ih =>
      rw [CommandLine.addClasses] at added
      cases split : splitDefinition? definition with
      | none =>
          rw [split] at added
          cases added
      | some parts =>
          obtain ⟨name, pattern⟩ := parts
          rw [split] at added
          have unsigned := unsigned_of_splitDefinition? split
          obtain ⟨more, rules⟩ := built.addClass unsigned (.pattern pattern)
          rw [← rules]
          exact ih more added

/-- A tokenizer to which the patterns of a command line are added. -/
structure Ready (tokenizer : Tokenizer String) : Prop where
  pending : tokenizer.pending = none
  rules : tokenizer.rules = []
  built : FromDefinitions tokenizer.classes

theorem ready_of_prepare (prepared : prepare options = .ok tokenizer) : Ready tokenizer := by
  cases added : addClasses (Tokenizer.empty.setUnmatched (options.unmatched.getD default))
      options.classes with
  | error message =>
      rw [prepare, added] at prepared
      cases prepared
  | ok extended =>
      obtain ⟨built, rules⟩ := fromDefinitions_empty.addClasses added
      cases pending : extended.pending with
      | some failure =>
          rw [prepare, added] at prepared
          simp only [bind, Except.bind, pending] at prepared
          cases prepared
      | none =>
          rw [prepare, added] at prepared
          simp only [bind, Except.bind, pending] at prepared
          cases prepared
          exact ⟨pending, rules, built⟩

/-- Add patterns in order, with callbacks that describe the tokens. -/
def addDescribed (tokenizer : Tokenizer String) (patterns : List String) : Tokenizer String :=
  patterns.foldl (fun tokenizer pattern => tokenizer.addRule pattern (.report ∘ describe)) tokenizer

theorem addPatterns_eq (options : Options) (tokenizer : Tokenizer String) :
    addPatterns options tokenizer =
      addDescribed tokenizer
        (if options.patterns.isEmpty then defaultPatterns else options.patterns) := rfl

theorem classes_addRule (tokenizer : Tokenizer String) (pattern : String)
    (callback : Token → Reaction String Unit) :
    (tokenizer.addRule pattern callback).classes = tokenizer.classes := by
  rw [Tokenizer.addRule]
  split <;> rfl

theorem classes_addDescribed (tokenizer : Tokenizer String) (patterns : List String) :
    (addDescribed tokenizer patterns).classes = tokenizer.classes := by
  induction patterns generalizing tokenizer with
  | nil => rfl
  | cons pattern patterns ih => exact (ih _).trans (classes_addRule tokenizer pattern _)

theorem rule_of_mem_addRule {rule : Rule String} {callback : Token → Reaction String Unit}
    (member : rule ∈ (tokenizer.addRule pattern callback).rules) :
    rule ∈ tokenizer.rules ∨
      rule.callback = callback ∧ tokenizer.classes.compile pattern = .ok rule.pattern := by
  rw [Tokenizer.addRule] at member
  cases compiled : tokenizer.classes.compile pattern with
  | error failure =>
      rw [compiled] at member
      exact .inl member
  | ok items =>
      rw [compiled] at member
      rcases List.mem_append.mp member with before | added
      · exact .inl before
      · cases List.mem_singleton.mp added
        exact .inr ⟨rfl, rfl⟩

/-- The error of a pattern that does not compile. -/
def failure? (classes : Registry) (pattern : String) : Option RegistrationError :=
  match classes.compile pattern with
  | .ok _ => none
  | .error error => some error

/-- The error of the first pattern that does not compile names this pattern. -/
theorem findSome?_failure? {classes : Registry}
    (first : patterns.find? (fun pattern => (failure? classes pattern).isSome) = some pattern) :
    ∃ error, patterns.findSome? (failure? classes) = some (.pattern pattern error) := by
  obtain ⟨fails, earlier, later, rfl, compile⟩ := List.find?_eq_some_iff_append.mp first
  have passed : earlier.findSome? (failure? classes) = none := by
    apply List.findSome?_eq_none_iff.mpr
    intro other member
    simpa using compile other member
  rw [failure?, Registry.compile] at fails
  cases sequence : classes.sequenceOf pattern with
  | ok items =>
      rw [sequence] at fails
      cases fails
  | error error =>
      have failed : failure? classes pattern = some (.pattern pattern error) := by
        rw [failure?, Registry.compile, sequence]
        rfl
      refine ⟨error, ?_⟩
      rw [List.findSome?_append, passed, Option.none_or, List.findSome?_cons, failed]

theorem pending_addRule (tokenizer : Tokenizer String) (pattern : String)
    (callback : Token → Reaction String Unit) :
    (tokenizer.addRule pattern callback).pending =
      tokenizer.pending.or (failure? tokenizer.classes pattern) := by
  rw [Tokenizer.addRule, failure?]
  cases tokenizer.classes.compile pattern with
  | ok items => exact Option.or_none.symm
  | error failure => rfl

/-- A rule that is added describes its tokens, and its pattern compiles. -/
theorem rule_of_mem_addDescribed {rule : Rule String}
    (member : rule ∈ (addDescribed tokenizer patterns).rules) :
    rule ∈ tokenizer.rules ∨ rule.callback = .report ∘ describe ∧
      ∃ pattern ∈ patterns, tokenizer.classes.compile pattern = .ok rule.pattern := by
  induction patterns generalizing tokenizer with
  | nil => exact .inl member
  | cons pattern patterns ih =>
      rcases ih member with earlier | ⟨describes, other, others, compiled⟩
      · refine (rule_of_mem_addRule earlier).imp_right fun ⟨describes, compiled⟩ => ?_
        exact ⟨describes, pattern, List.mem_cons_self, compiled⟩
      · rw [classes_addRule] at compiled
        exact .inr ⟨describes, other, List.mem_cons_of_mem pattern others, compiled⟩

/-- The error that is kept is the one that there was, or that of the first pattern that does not
compile. -/
theorem pending_addDescribed (tokenizer : Tokenizer String) (patterns : List String) :
    (addDescribed tokenizer patterns).pending =
      tokenizer.pending.or (patterns.findSome? (failure? tokenizer.classes)) := by
  induction patterns generalizing tokenizer with
  | nil => exact Option.or_none.symm
  | cons pattern patterns ih =>
      have further := ih (tokenizer.addRule pattern (.report ∘ describe))
      rw [pending_addRule, classes_addRule, Option.or_assoc] at further
      rw [List.findSome?_cons]
      refine further.trans ?_
      cases failure? tokenizer.classes pattern <;> rfl

end PatternLexer.CommandLine
