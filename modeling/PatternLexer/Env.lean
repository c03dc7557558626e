import PatternLexer.Text.Lines
import PatternLexer.Tokenizer.Run
import Std.Data.ExtTreeMap

/-!
# Environment files

An environment file assigns values to variables, one `KEY=value` to a line, with
blanks allowed around the sign. A value is a text between double quotes or a run
of characters that are not blank, and may be missing. A line that starts with `#`
is a comment. Everything else is skipped.

The file is read by a tokenizer, line by line. Of several assignments to a
variable the last one holds.
-/

namespace PatternLexer.Env

open Std (ExtTreeMap)

/-- The variables of a file with their values. -/
abbrev Variables := ExtTreeMap String String

/-- The characters of variable names. -/
def isKeyChar (c : Char) : Bool := c.isAlphanum || c = '_'

/-- Turn each backslash that is followed by `n`, and this `n`, into a line feed. -/
def unescape : List Char → List Char
  | [] => []
  | '\\' :: 'n' :: cs => '\n' :: unescape cs
  | c :: cs => c :: unescape cs

/-- The value that is meant by what stands in the file: without double quotes, and
with line feeds for their escapes. -/
def unquote (value : String) : String :=
  String.ofList (unescape (value.toList.filter (· != '"')))

/-- Emit the assignment that an expression of a line makes, if it makes one. -/
def assign (token : Token) : Reaction (String × String) Unit :=
  let assignment := (token.get "expression").get "keyValue"
  if assignment.isEmpty then
    .done ()
  else
    .report ((assignment.get "key").lexeme, unquote (assignment.get "value").lexeme)

/-- The tokenizer that reads a line and emits its assignments. -/
def tokenizer : Tokenizer (String × String) :=
  Tokenizer.empty
    |>.addClass "key" (.predicate isKeyChar)
    |>.addClass "value" (.optional ["{string}", "{text}"])
    |>.addClass "keyValue" (.pattern "{ws}{key}{ws}={ws}{value}")
    |>.addClass "comment" (.pattern "#{any}")
    |>.addClass "expression" (.alternation ["{comment}", "{keyValue}"])
    |>.addRule "{expression}" assign

/-- Enter the assignments of a line. -/
def enterLine (known : Variables) (line : List Char) : Except RunError Variables :=
  let outcome := tokenizer.run 0 (String.ofList line)
  outcome.result.map fun _ =>
    outcome.emitted.foldl (fun known (_, key, value) => known.insert key value) known

/-- The variables of a file. -/
def parse (contents : String) : Except RunError Variables :=
  (Text.lines contents.toList).foldlM enterLine ∅

end PatternLexer.Env
