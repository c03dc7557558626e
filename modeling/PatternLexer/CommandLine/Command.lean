import PatternLexer.CommandLine.Listing
import PatternLexer.CommandLine.Options

/-!
# The command

The command tokenizes a text and prints its tokens, or prints the variables of an
environment file, or lists the classes. A `Plan` says what it does as far as that
does not depend on the text: it is finished, or it needs a text and goes on with
what reading comes to.
-/

namespace PatternLexer.CommandLine

/-- What the command prints and how it exits. -/
structure Report where
  code : UInt32
  stdout : String := ""
  stderr : String := ""
  deriving DecidableEq

/-- Why a text cannot be read. -/
inductive ReadFailure where
  | notFound
  | directory
  | invalidUtf8
  /-- For another reason, in the words of the system. -/
  | other (text : String)
  deriving DecidableEq, Repr

/-- A failure to read in words. -/
def ReadFailure.message : ReadFailure → String
  | .notFound => "No such file or directory (os error 2)"
  | .directory => "Is a directory (os error 21)"
  | .invalidUtf8 => "stream did not contain valid UTF-8"
  | .other text => text

/-- What the command does. -/
inductive Plan where
  | finish (report : Report)
  /-- Read a file, or without one the standard input, and go on. -/
  | read (file : Option String) (next : Except ReadFailure String → Report)

/-- The text of some bytes. -/
def decode (bytes : ByteArray) : Except ReadFailure String :=
  match String.fromUTF8? bytes with
  | some text => .ok text
  | none => .error .invalidUtf8

/-- A text with each of its lines after the first indented. -/
def indented (text : String) : String :=
  String.ofList (text.toList.flatMap fun c => if c = '\n' then "\n    ".toList else [c])

/-- Exit with an error, with what was printed before. -/
def abort (message : String) (cause : Option String) (stdout log : String) : Report :=
  let reason :=
    match cause with
    | none => ""
    | some cause => s!"\nCaused by:\n    {indented cause}\n"
  ⟨1, stdout, s!"{log}Error: {message}\n{reason}"⟩

/-- The name and the pattern of a class definition, around its first equals sign. -/
def splitDefinition? (definition : String) : Option (String × String) :=
  let chars := definition.toList
  match chars.dropWhile (· != '=') with
  | [] => none
  | _ :: pattern => some (String.ofList (chars.takeWhile (· != '=')), String.ofList pattern)

/-- Add the classes of the command line, or fail with the first one that is no
definition. -/
def addClasses (tokenizer : Tokenizer String) :
    List String → Except String (Tokenizer String)
  | [] => .ok tokenizer
  | definition :: others =>
      match splitDefinition? definition with
      | none => .error s!"class definition {Text.quoted definition} is not NAME=PATTERN"
      | some (name, pattern) => addClasses (tokenizer.addClass name (.pattern pattern)) others

/-- A tokenizer with the classes of the command line. -/
def prepare (options : Options) : Except String (Tokenizer String) := do
  let policy := options.unmatched.getD default
  let tokenizer ← addClasses (Tokenizer.empty.setUnmatched policy) options.classes
  match tokenizer.pending with
  | some error => throw s!"invalid class definition: {error.message}"
  | none => return tokenizer

/-- The patterns that are looked for when none are given. -/
def defaultPatterns : List String := ["{string}", "{word}", "{number}", "{symbol}"]

/-- Add the patterns of the command line. Their callbacks describe the tokens. -/
def addPatterns (options : Options) (tokenizer : Tokenizer String) : Tokenizer String :=
  let patterns := if options.patterns.isEmpty then defaultPatterns else options.patterns
  patterns.foldl (fun tokenizer pattern => tokenizer.addRule pattern (.report ∘ describe)) tokenizer

/-- Run over some lines, of which the first has this number, until one fails. The
error comes with the number of its line. -/
def runLines (tokenizer : Tokenizer String) (number : Nat) :
    List (List Char) → Outcome String (Nat × RunError) Unit
  | [] => .of (.ok ())
  | line :: lines =>
      ((tokenizer.run 0 (String.ofList line)).mapError (number, ·)).andThen fun _ =>
        runLines tokenizer (number + 1) lines

/-- The report on a run, given the words for an error and its cause. -/
def reportRun {error : Type} (options : Options) (outcome : Outcome String error Unit)
    (words : error → String × Option String) : Report :=
  let stdout := listEmitted outcome
  let stderr := if options.has .verbose then log outcome else ""
  match outcome.result with
  | .ok _ => ⟨0, stdout, stderr⟩
  | .error error => abort (words error).1 (words error).2 stdout stderr

/-- Tokenize a text as a whole. -/
def tokenizeText (options : Options) (tokenizer : Tokenizer String) (text : String) : Report :=
  reportRun options (tokenizer.run 0 text) fun error => (error.message, none)

/-- Tokenize a text line by line. -/
def tokenizeLines (options : Options) (tokenizer : Tokenizer String) (text : String) : Report :=
  reportRun options (runLines tokenizer 1 (Text.lines text.toList)) fun (number, error) =>
    (s!"line {number}", some error.message)

/-- Print the variables of an environment file. -/
def printVariables (contents : String) : Report :=
  match Env.parse contents with
  | .ok known => ⟨0, listVariables known, ""⟩
  | .error error => abort error.message none "" ""

/-- What the command does with its text. -/
def process (options : Options) (tokenizer : Tokenizer String) (text : String) : Report :=
  if options.has .env then printVariables text
  else if options.has .lines then tokenizeLines options (addPatterns options tokenizer) text
  else tokenizeText options (addPatterns options tokenizer) text

/-- Where the text comes from, in words. -/
def sourceName : Option String → String
  | some path => path
  | none => "stdin"

/-- What the command does, given its options. -/
def Options.plan (options : Options) : Plan :=
  match prepare options with
  | .error message => .finish (abort message none "" "")
  | .ok tokenizer =>
      if options.has .listClasses then
        .finish ⟨0, listClasses tokenizer.classes, ""⟩
      else
        .read options.file fun
          | .ok text => process options tokenizer text
          | .error failure =>
              abort s!"failed to read {sourceName options.file}" (some failure.message) "" ""

/-- What the command does, given its arguments. -/
def plan (arguments : List String) : Plan :=
  match Options.parse arguments with
  | .ok options => options.plan
  | .error error => .finish ⟨2, "", s!"error: {error.message}\n"⟩

end PatternLexer.CommandLine
