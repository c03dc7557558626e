/-!
# Character classes

The sets of characters that the predefined classes are made of. They look at
whole characters and, the four currency and similar signs of `symbol` apart,
know ASCII only.
-/

namespace PatternLexer.CharClass

/-- The 26 ASCII letters in both cases. -/
def letter (c : Char) : Bool := c.isAlpha

/-- The ASCII digits. -/
def digit (c : Char) : Bool := c.isDigit

/-- Space, tab, line feed and carriage return. -/
def blank (c : Char) : Bool := c = ' ' || c = '\t' || c = '\n' || c = '\r'

/-- Punctuation: the 32 signs of ASCII and `¤`, `§`, `£`. -/
def symbol (c : Char) : Bool :=
  "!\"#$%&'()*+,-./:;<=>?@[\\]^_`\x7b|\x7d~¤§£".toList.contains c

/-- The characters of the Base64 alphabet, with its padding sign. -/
def base64 (c : Char) : Bool := letter c || digit c || c = '+' || c = '/' || c = '='

/-- Hexadecimal digits of both cases, and the sign `#` that introduces them. -/
def hex (c : Char) : Bool :=
  digit c || ('a' ≤ c && c ≤ 'f') || ('A' ≤ c && c ≤ 'F') || c = '#'

@[simp] theorem blank_iff {c : Char} :
    blank c = true ↔ c = ' ' ∨ c = '\t' ∨ c = '\n' ∨ c = '\r' := by
  simp [blank, or_assoc]

end PatternLexer.CharClass
