import PatternLexer.Pattern.Error
import PatternLexer.Text.Quoted

/-!
# What can be wrong with a registration
-/

namespace PatternLexer

/-- Why a class or a pattern cannot be registered. -/
inductive RegistrationError where
  /-- There is a class of this name, predefined or not. -/
  | duplicateClass (name : String)
  /-- A class name with a brace in it. -/
  | invalidClassName (name : String)
  /-- An alternation of nothing. -/
  | noAlternatives (name : String)
  /-- A pattern that does not compile. -/
  | pattern (text : String) (error : PatternError)
  deriving DecidableEq, Repr

/-- The error in words. -/
def RegistrationError.message : RegistrationError → String
  | .duplicateClass name => s!"class '{name}' is already defined"
  | .invalidClassName name => s!"invalid class name {Text.quoted name}"
  | .noAlternatives name => s!"class '{name}' has no alternatives"
  | .pattern text error => s!"in pattern {Text.quoted text}: {error.message}"

end PatternLexer
