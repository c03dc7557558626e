import PatternLexer.Env
import PatternLexer.Text.Blank
import PatternLexer.Text.Quoted
import PatternLexer.Tokenizer.Outcome

/-!
# Listings

What the command line prints: tokens, variables, classes, and, where it is asked
to tell more, the events of a run.
-/

namespace PatternLexer.CommandLine

/-- The captures of a token with their lexemes, in the order of the class names. -/
def describeCaptures (token : Token) : String :=
  " ".intercalate <| (Captures.byClass token.captures).flatMap fun (name, tokens) =>
    tokens.map fun captured => s!"{name}={Text.quoted captured.lexeme}"

/-- A token on one line: offset, length, lexeme and captures between tabs, without
blanks at the end. -/
def describe (token : Token) : String :=
  Text.trimEnd
    s!"{token.pos}\t{token.length}\t{Text.quoted token.lexeme}\t{describeCaptures token}"

/-- The variables of a file, one to a line, in the order of their names. -/
def listVariables (known : Env.Variables) : String :=
  String.join (known.toList.map fun (key, value) => s!"{key}={Text.quoted value}\n")

/-- The predefined and the defined classes, in the order of their names. -/
def listClasses (classes : Registry) : String :=
  let builtins := " ".intercalate (Builtin.all.map Builtin.name)
  let defined := " ".intercalate classes.sortedNames
  s!"built-in: {builtins}\ndefined: {defined}\n"

/-- The values emitted during a run, one to a line. -/
def listEmitted {error α : Type} (outcome : Outcome String error α) : String :=
  String.join (outcome.emitted.map fun (_, line) => line ++ "\n")

/-- An event of a run in words; what a callback emits is not part of the log. -/
def logEvent {ε : Type} : Event ε → String
  | .matched rule token =>
      s!"DEBUG pattern matched rule={rule} pos={token.pos} lexeme={Text.quoted token.lexeme}\n"
  | .skipped pos c => s!"DEBUG skipping unmatched input pos={pos} ch={Text.quotedChar c}\n"
  | .warned pos c => s!"WARN unmatched input pos={pos} ch={Text.quotedChar c}\n"
  | .emitted _ => ""

/-- The events of a run, one to a line. -/
def log {ε error α : Type} (outcome : Outcome ε error α) : String :=
  String.join (outcome.trace.map fun entry => logEvent entry.event)

end PatternLexer.CommandLine
