import PatternLexer.Proofs.CommandLine.Descriptions
import PatternLexer.Proofs.CommandLine.Preparation
import PatternLexer.Proofs.Pattern.DocumentOrder
import PatternLexer.Proofs.Pattern.Paths
import PatternLexer.Proofs.Registry.Snapshots
import PatternLexer.Proofs.Tokenizer.Emission
import PatternLexer.Proofs.Tokenizer.Policies

/-!
# Tokens that are listed

What the command line prints for a text are the descriptions of the tokens that the callbacks are
called with, one to a line and in order, also where an error ends it (`lists_run`,
`lists_runLines`). The names of their captures are those of predefined classes or stand before
the equals signs of definitions, so none of them has an equals sign.

So the tokens can be read back from what is printed, as far as they are described
(`listTokens_decodable`).
-/

namespace PatternLexer.CommandLine

open Text

variable {options : Options} {tokenizer : Tokenizer String} {classes : Registry}
  {name pattern input : String} {items : Sequence} {error error' α β : Type}

theorem FromDefinitions.unsigned_of_find? (built : FromDefinitions classes) {matcher : Matcher}
    (found : classes.find? name = some matcher) : '=' ∉ name.toList := by
  rcases Registry.builtin_or_mem_of_find? found with ⟨builtin, named, -⟩ | ⟨-, held⟩
  · rw [← Builtin.name_of_ofName? named]
    cases builtin <;> decide
  · exact built.unsigned name matcher held

/-- What is captured in a match is captured under the name of a class. -/
theorem FromDefinitions.unsigned_of_match? (built : FromDefinitions classes)
    (compiled : classes.compile pattern = .ok items) {cursor next : Cursor} {found : Match}
    (matched : cursor.match? items = (some found, next)) {captured : Token}
    (member : (name, captured) ∈ found.captures) : '=' ∉ name.toList := by
  have made := built.coherent.everywhere_of_compile compiled
  have tagged := Sequence.Everywhere.mono Cursor.wellTagged_of_makes made
  obtain ⟨last, scanned⟩ := Cursor.scanItems_of_match? matched
  rw [Sequence.captures_scanItems items tagged scanned] at member
  obtain ⟨reference, inForest, rfl, -⟩ := Captures.exists_reference_of_mem member
  obtain ⟨matcher, _, makes, -⟩ :=
    Sequence.from_references items cursor.save made reference inForest
  exact built.unsigned_of_find? makes

/-- A tokenizer whose rules have patterns that compile, and callbacks that describe the
tokens. -/
structure Describes (tokenizer : Tokenizer String) : Prop where
  built : FromDefinitions tokenizer.classes
  rules : ∀ rule ∈ tokenizer.rules, rule.callback = .report ∘ describe ∧
    ∃ pattern, tokenizer.classes.compile pattern = .ok rule.pattern

theorem describes_addPatterns (options : Options) (ready : Ready tokenizer) :
    Describes (addPatterns options tokenizer) := by
  rw [addPatterns_eq]
  constructor
  · rw [classes_addDescribed]
    exact ready.built
  · intro rule member
    rcases rule_of_mem_addDescribed member with absurd | ⟨describes, pattern, -, compiled⟩
    · rw [ready.rules] at absurd
      cases absurd
    · rw [classes_addDescribed]
      exact ⟨describes, pattern, compiled⟩

/-- A rule that matches at a visit describes its token. -/
theorem Describes.hit (describes : Describes tokenizer) {visit : Visit} {rule : Nat} {token : Token}
    (member : visit ∈ Visit.visits tokenizer.patterns input)
    (hit : visit.hit = some (rule, token)) :
    tokenizer.callback rule token = .report (describe token) ∧ ClearNames token := by
  obtain ⟨before, rest, -, -, reports⟩ := Visit.reports_visits _ member
  obtain ⟨⟨items, found, chosen, matched, rfl⟩, -⟩ := (reports.finds rule token).mp hit
  obtain ⟨chosenRule, at_rule, rfl⟩ : ∃ chosen, tokenizer.rules[rule]? = some chosen ∧
      chosen.pattern = items := by
    simpa [Tokenizer.patterns] using chosen
  obtain ⟨callback, pattern, compiled⟩ :=
    describes.rules chosenRule (List.mem_of_getElem? at_rule)
  constructor
  · simp only [Tokenizer.callback, at_rule, callback]
    rfl
  · intro name captured inside
    exact describes.built.unsigned_of_match? compiled (Prod.ext matched rfl) inside

/-! ## What is emitted -/

/-- The descriptions of the tokens that the callbacks are called with are emitted, and nothing
else, and the names of the captures of these tokens are clear. -/
structure Lists (outcome : Outcome String error α) : Prop where
  emitted_eq : outcome.emitted = outcome.calls.map fun call => (0, describe call.2)
  clear : ∀ call ∈ outcome.calls, ClearNames call.2

theorem lists_of (result : Except error α) : Lists (.of result : Outcome String error α) :=
  ⟨rfl, fun _ absurd => (List.not_mem_nil absurd).elim⟩

theorem Lists.mapError {outcome : Outcome String error α} (lists : Lists outcome)
    (change : error → error') : Lists (outcome.mapError change) :=
  ⟨lists.emitted_eq, lists.clear⟩

theorem Lists.andThen {first : Outcome String error α} {next : α → Outcome String error β}
    (lists : Lists first) (further : ∀ value, Lists (next value)) : Lists (first.andThen next) := by
  rcases result : first.result with failure | value
  · rw [Outcome.andThen_of_error result]
    exact ⟨lists.emitted_eq, lists.clear⟩
  · have calls : (first.andThen next).calls = first.calls ++ (next value).calls := by
      rw [Outcome.andThen_of_result result, Outcome.calls_prepend]
    constructor
    · rw [Outcome.emitted_andThen result, calls, lists.emitted_eq, (further value).emitted_eq,
        List.map_append]
    · rw [calls, List.forall_mem_append]
      exact ⟨lists.clear, (further value).clear⟩

theorem lists_drop (tokenizer : Tokenizer String) (pos : Nat) (c : Char) :
    Lists (tokenizer.drop pos c) := by
  have nothing : (tokenizer.drop pos c).calls = [] := by
    rw [Tokenizer.drop]
    split <;> rfl
  constructor
  · rw [Tokenizer.emitted_drop, nothing]
    rfl
  · simp [nothing]

theorem lists_call (runOn : String → Option (Outcome String RunError Unit))
    {hit : Option (Nat × Token)}
    (reports : ∀ rule token, hit = some (rule, token) →
      tokenizer.callback rule token = .report (describe token) ∧ ClearNames token) :
    Lists (tokenizer.call runOn hit) := by
  cases hit with
  | none => exact lists_of _
  | some found =>
      obtain ⟨rule, token⟩ := found
      obtain ⟨callback, clear⟩ := reports rule token rfl
      constructor
      · rw [Tokenizer.calls_call, Tokenizer.call, callback]
        rfl
      · rw [Tokenizer.calls_call]
        simpa using clear

theorem lists_follow (runOn : String → Option (Outcome String RunError Unit)) {visits : List Visit}
    (reports : ∀ visit ∈ visits, ∀ rule token, visit.hit = some (rule, token) →
      tokenizer.callback rule token = .report (describe token) ∧ ClearNames token) :
    Lists (tokenizer.follow runOn visits) := by
  induction visits with
  | nil => exact lists_of _
  | cons visit visits ih =>
      obtain ⟨here, further⟩ := List.forall_mem_cons.mp reports
      have called := lists_call runOn here
      rw [Tokenizer.follow, Tokenizer.attend]
      refine (called.andThen fun _ => ?_).andThen fun _ => ih further
      cases visit.dropped with
      | none => exact lists_of _
      | some c => exact lists_drop tokenizer visit.pos c

theorem lists_run (describes : Describes tokenizer) (nesting : Nat) (input : String) :
    Lists (tokenizer.run nesting input) := by
  cases pending : tokenizer.pending with
  | some failure =>
      rw [Tokenizer.run_of_pending pending]
      exact lists_of _
  | none =>
      rw [Tokenizer.run_eq_runWith, Tokenizer.runWith_eq_follow pending]
      exact lists_follow _ fun visit member rule token hit => describes.hit member hit

theorem lists_runLines (describes : Describes tokenizer) (number : Nat) (lines : List (List Char)) :
    Lists (runLines tokenizer number lines) := by
  induction lines generalizing number with
  | nil => exact lists_of _
  | cons line lines ih =>
      rw [runLines]
      exact ((lists_run describes 0 _).mapError _).andThen fun _ => ih (number + 1)

theorem Lists.stdout {outcome : Outcome String error Unit} (lists : Lists outcome)
    (options : Options) (words : error → String × Option String) :
    (reportRun options outcome words).stdout = listTokens (outcome.calls.map (·.2)) := by
  have listed : listEmitted outcome = listTokens (outcome.calls.map (·.2)) := by
    rw [listEmitted, lists.emitted_eq, listTokens, List.map_map, List.map_map]
    rfl
  rw [← listed]
  cases result : outcome.result <;> simp [reportRun, result, abort]

/-- The tokens that callbacks are called with while a text is processed, in order. -/
def tokensOf (options : Options) (tokenizer : Tokenizer String) (text : String) : List Token :=
  let extended := addPatterns options tokenizer
  let calls :=
    if options.has .lines then (runLines extended 1 (lines text.toList)).calls
    else (extended.run 0 text).calls
  calls.map (·.2)

/-- What is printed for tokens can be read back. Two lists of tokens whose lines are the same have
the same descriptions in the same order, whatever the lexemes and the names of the captures are, as
long as these names have no equals signs. Of a line nothing is left out at the end but the tab
behind a lexeme without captures. What a command line prints for a text are the lines of the
tokens that its callbacks are called with, and the names of their captures have no equals
signs. -/
theorem listTokens_decodable :
    (∀ tokens others : List Token,
      (∀ token ∈ tokens, ClearNames token) → (∀ other ∈ others, ClearNames other) →
        listTokens tokens = listTokens others →
          tokens.map Description.of = others.map Description.of) ∧
      (∀ token, fullLine token = describe token ++ if token.captures = [] then "\t" else "") ∧
      ∀ options tokenizer, prepare options = .ok tokenizer → options.has .env = false →
        ∀ text,
          (process options tokenizer text).stdout = listTokens (tokensOf options tokenizer text) ∧
            ∀ token ∈ tokensOf options tokenizer text, ClearNames token := by
  refine ⟨fun _ _ => descriptions_of_listTokens, fullLine_eq, ?_⟩
  intro options tokenizer prepared tokens text
  have describes := describes_addPatterns options (ready_of_prepare prepared)
  have printed {error : Type} {outcome : Outcome String error Unit} (lists : Lists outcome)
      (words : error → String × Option String) :
      (reportRun options outcome words).stdout = listTokens (outcome.calls.map (·.2)) ∧
        ∀ token ∈ outcome.calls.map (·.2), ClearNames token :=
    ⟨lists.stdout options words, List.forall_mem_map.mpr lists.clear⟩
  rw [process, tokens, tokensOf]
  cases options.has .lines with
  | false => exact printed (lists_run describes 0 text) _
  | true => exact printed (lists_runLines describes 1 _) _

/-- Tokens of different texts with the same lexeme, which ends with a quote, a backslash and a tab,
and with the same capture, whose name has blanks and a quote. A class with a blank in its name is
also what the command line looks for in two lines. -/
theorem listTokens_decodable_blanks :
    let texts := ["\"\\\t", "\"\\\t\n1\t0\t"]
    let tokens := texts.map fun text =>
      let captured : Token := ⟨.start text.toList, .past (.start text.toList) ['"'], text, []⟩
      let stop := Place.past (.start text.toList) ['"', '\\', '\t']
      (⟨.start text.toList, stop, text, [(" \t\n\"", captured)]⟩ : Token)
    let options : Options := ⟨none, ["{a b}"], ["a b={word}="], [.lines], none⟩
    (∀ token ∈ tokens, ClearNames token) ∧
      listTokens (tokens.take 1) = listTokens (tokens.drop 1) ∧
      (tokens.take 1).map Description.of = (tokens.drop 1).map Description.of ∧
      ∃ tokenizer, prepare options = .ok tokenizer ∧
        listTokens (tokensOf options tokenizer "x=\nyz=") =
          "0\t2\t\"x=\"\ta b=\"x=\" word=\"x\"\n0\t3\t\"yz=\"\ta b=\"yz=\" word=\"yz\"\n" ∧
        (process options tokenizer "x=\nyz=").stdout =
          listTokens (tokensOf options tokenizer "x=\nyz=") := by
  intro texts tokens options
  have names : ∀ token ∈ tokens, token.captures.map (·.1) = [" \t\n\""] := by
    simp [tokens, texts]
  have clear : ∀ token ∈ tokens, ClearNames token := by
    intro token member name captured inside
    have among : name ∈ token.captures.map (·.1) := List.mem_map_of_mem inside
    rw [names token member, List.mem_singleton] at among
    rw [among]
    decide
  have same : listTokens (tokens.take 1) = listTokens (tokens.drop 1) := by decide +kernel
  obtain ⟨decodes, -, prints⟩ := listTokens_decodable
  have listed : (prepare options).toOption.map (fun tokenizer =>
      listTokens (tokensOf options tokenizer "x=\nyz=")) = some
        "0\t2\t\"x=\"\ta b=\"x=\" word=\"x\"\n0\t3\t\"yz=\"\ta b=\"yz=\" word=\"yz\"\n" := by
    decide +kernel
  obtain ⟨tokenizer, present, lines⟩ := Option.map_eq_some_iff.mp listed
  have prepared := eq_ok_of_toOption_eq_some present
  refine ⟨clear, same, decodes _ _ ?_ ?_ same, tokenizer, prepared, lines, ?_⟩
  · exact fun token member => clear token (List.mem_of_mem_take member)
  · exact fun token member => clear token (List.mem_of_mem_drop member)
  · exact (prints options tokenizer prepared (by decide) _).1

end PatternLexer.CommandLine
