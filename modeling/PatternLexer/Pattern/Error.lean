/-!
# What can be wrong with a pattern

Offsets are byte offsets into the pattern.
-/

namespace PatternLexer

/-- Why a pattern cannot be compiled. -/
inductive PatternError where
  /-- The opening brace at this offset has no closing brace. -/
  | unclosedClass (offset : Nat)
  /-- An opening brace inside a class name, or a closing brace outside of one. -/
  | unexpectedBrace (offset : Nat)
  /-- A reference to a class that is not defined. -/
  | unknownClass (name : String)
  deriving DecidableEq, Repr

/-- The error in words. -/
def PatternError.message : PatternError → String
  | .unclosedClass offset => s!"unclosed '\x7b' at offset {offset}"
  | .unexpectedBrace offset => s!"unexpected brace at offset {offset}"
  | .unknownClass name => s!"unknown class '{name}'"

end PatternLexer
