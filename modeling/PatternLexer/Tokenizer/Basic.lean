import PatternLexer.Registry.Define
import PatternLexer.Token
import PatternLexer.Tokenizer.Reaction

/-!
# Tokenizers

A tokenizer has classes, and rules that pair a pattern with a callback. Adding a
class or a rule never fails; the first registration error is kept, and a tokenizer
that keeps one does not run.
-/

namespace PatternLexer

/-- What a run does with a character that nothing consumes. -/
inductive UnmatchedPolicy where
  | skip
  /-- Skip with a warning. -/
  | log
  /-- Fail. -/
  | error
  deriving DecidableEq, Repr

/-- Characters are skipped unless something else is asked for. -/
instance : Inhabited UnmatchedPolicy := ⟨.skip⟩

/-- A pattern and what to do with its tokens. -/
structure Rule (ε : Type) where
  pattern : Sequence
  callback : Token → Reaction ε Unit

/-- Classes and rules, whose callbacks emit values of type `ε`. -/
structure Tokenizer (ε : Type) where
  classes : Registry := {}
  /-- The rules, in the order in which they are tried. -/
  rules : List (Rule ε) := []
  /-- The first registration error. -/
  pending : Option RegistrationError := none
  unmatched : UnmatchedPolicy := default

namespace Tokenizer

variable {ε : Type}

/-- A tokenizer with no classes of its own and no rules. -/
def empty : Tokenizer ε := {}

/-- Keep a registration error, unless there is one already. -/
def keep (tokenizer : Tokenizer ε) (error : RegistrationError) : Tokenizer ε :=
  { tokenizer with pending := tokenizer.pending.or (some error) }

/-- Add a class. The tokenizer has the classes that this leaves, also where it
fails. -/
def addClass (tokenizer : Tokenizer ε) (name : String) (definition : Definition) :
    Tokenizer ε :=
  match tokenizer.classes.addClass name definition with
  | (.ok (), classes) => { tokenizer with classes }
  | (.error error, classes) => keep { tokenizer with classes } error

/-- Add a rule behind the others. -/
def addRule (tokenizer : Tokenizer ε) (pattern : String)
    (callback : Token → Reaction ε Unit) : Tokenizer ε :=
  match tokenizer.classes.compile pattern with
  | .ok items => { tokenizer with rules := tokenizer.rules ++ [⟨items, callback⟩] }
  | .error error => tokenizer.keep error

/-- Choose what to do with characters that nothing consumes. -/
def setUnmatched (tokenizer : Tokenizer ε) (policy : UnmatchedPolicy) : Tokenizer ε :=
  { tokenizer with unmatched := policy }

/-- The patterns of the rules. -/
def patterns (tokenizer : Tokenizer ε) : List Sequence := tokenizer.rules.map (·.pattern)

/-- The reaction of the rule of a number to a token. A number without a rule does
nothing. -/
def callback (tokenizer : Tokenizer ε) (rule : Nat) (token : Token) : Reaction ε Unit :=
  match tokenizer.rules[rule]? with
  | some rule => rule.callback token
  | none => .done ()

section Classes

variable {tokenizer : Tokenizer ε} {classes : Registry} {name : String} {definition : Definition}
  {error : RegistrationError}

theorem addClass_of_ok (defined : tokenizer.classes.define name definition = .ok classes) :
    tokenizer.addClass name definition = { tokenizer with classes } := by
  rw [addClass, Registry.addClass_of_ok defined]

/-- A class that cannot be added leaves an error behind and nothing else. -/
theorem addClass_of_error (fails : tokenizer.classes.define name definition = .error error) :
    tokenizer.addClass name definition = tokenizer.keep error := by
  rw [addClass, Registry.addClass_of_error fails]

end Classes

end Tokenizer

end PatternLexer
