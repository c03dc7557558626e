import PatternLexer.CharClass
import PatternLexer.Pattern.Basic

/-!
# Predefined classes

The classes that every registry knows. Their names cannot be defined again.
-/

namespace PatternLexer

/-- The predefined classes, in the order of their names. -/
inductive Builtin where
  | any
  | base64
  | char
  | float
  | hex
  | leftBrace
  | line
  | number
  | rightBrace
  | string
  | symbol
  | text
  | var
  | word
  | whitespace
  deriving DecidableEq, Repr

namespace Builtin

/-- All predefined classes, in the order of their names. -/
def all : List Builtin :=
  [.any, .base64, .char, .float, .hex, .leftBrace, .line, .number, .rightBrace, .string,
    .symbol, .text, .var, .word, .whitespace]

/-- The name a pattern refers to the class by. -/
def name : Builtin → String
  | .any => "any"
  | .base64 => "base64"
  | .char => "char"
  | .float => "float"
  | .hex => "hex"
  | .leftBrace => "lbrace"
  | .line => "line"
  | .number => "number"
  | .rightBrace => "rbrace"
  | .string => "string"
  | .symbol => "symbol"
  | .text => "text"
  | .var => "var"
  | .word => "word"
  | .whitespace => "ws"

/-- The predefined class of a name. -/
def ofName? (name : String) : Option Builtin :=
  all.find? (·.name = name)

/-- One or more characters of a set. -/
def many (accepts : Char → Bool) : Matcher := .run (.builtin accepts) 1 none

/-- Exactly one character of a set. -/
def one (accepts : Char → Bool) : Matcher := .run (.builtin accepts) 1 (some 1)

/-- What a predefined class matches. -/
def matcher : Builtin → Matcher
  | .any => many fun _ => true
  | .base64 => many CharClass.base64
  | .char => one CharClass.letter
  | .float => many fun c => CharClass.digit c || c = '.'
  | .hex => many CharClass.hex
  | .leftBrace => one (· = '{')
  | .line => .line
  | .number => many CharClass.digit
  | .rightBrace => one (· = '}')
  | .string => .quoted '"'
  | .symbol => one CharClass.symbol
  | .text => many fun c => !CharClass.blank c
  | .var => many fun c => CharClass.letter c || c = '$' || c = '_'
  | .word => many CharClass.letter
  | .whitespace => .run (.builtin CharClass.blank) 0 none

@[simp] theorem ofName?_name (builtin : Builtin) :
    ofName? builtin.name = some builtin := by
  cases builtin <;> rfl

theorem name_of_ofName? {name : String} {builtin : Builtin}
    (found : ofName? name = some builtin) : builtin.name = name := by
  simpa using List.find?_some found

end Builtin

end PatternLexer
