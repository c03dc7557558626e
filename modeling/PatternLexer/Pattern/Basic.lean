/-!
# Patterns

A pattern is a sequence of matchers that are matched one after another. A matcher
may carry the name of the class it stands for; what it matches is then captured
under that name. Matchers nest: an alternation holds sequences, and a named
sub-pattern holds one.
-/

namespace PatternLexer

/-- A test on single characters, predefined or given by the user. -/
inductive CharTest where
  | builtin (accepts : Char → Bool)
  | custom (accepts : Char → Bool)

/-- Whether a test accepts a character. -/
def CharTest.accepts : CharTest → Char → Bool
  | .builtin accepts => accepts
  | .custom accepts => accepts

@[simp] theorem CharTest.accepts_builtin (accepts : Char → Bool) :
    (CharTest.builtin accepts).accepts = accepts := rfl

@[simp] theorem CharTest.accepts_custom (accepts : Char → Bool) :
    (CharTest.custom accepts).accepts = accepts := rfl

/-- A matcher with the class name it is captured under. Literal text between
class references has none. -/
structure Tagged (μ : Type) where
  matcher : μ
  capture : Option String := none

/-- What one element of a pattern accepts. -/
inductive Matcher where
  /-- Exactly this text. -/
  | literal (text : List Char)
  /-- As many characters in a row as the test accepts, up to `max` if there is a
  maximum; fewer than `min` are no match. -/
  | run (test : CharTest) (min : Nat) (max : Option Nat)
  /-- The text up to the next line feed. The line feed is consumed and is not
  part of the match. -/
  | line
  /-- From one quote to the next, both included. -/
  | quoted (quote : Char)
  /-- The first of the alternatives that matches. -/
  | alternation (alternatives : List (List (Tagged Matcher)))
  /-- A sequence under a name of its own. -/
  | pattern (items : List (Tagged Matcher))

/-- An element of a pattern. -/
abbrev Item := Tagged Matcher

/-- A compiled pattern. The empty sequence matches the empty text anywhere. -/
abbrev Sequence := List Item

end PatternLexer
