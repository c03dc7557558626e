import PatternLexer.Text.Printable

/-!
# Quoted text

Messages and listings show texts between double quotes and single characters
between single quotes. The quote itself, the backslash and everything that does
not print are written as escapes: `\0`, `\t`, `\n`, `\r`, `\\`, the quote after a
backslash, and `\u` with the code point in lower-case hexadecimal between braces.
-/

namespace PatternLexer.Text

/-- One character as it is written between `quote` characters. -/
def escape (quote c : Char) : List Char :=
  if c = '\x00' then ['\\', '0']
  else if c = '\t' then ['\\', 't']
  else if c = '\n' then ['\\', 'n']
  else if c = '\r' then ['\\', 'r']
  else if c = '\\' || c = quote then ['\\', c]
  else if prints c then [c]
  else ['\\', 'u', '{'] ++ Nat.toDigits 16 c.toNat ++ ['}']

/-- A text between double quotes. -/
def quoted (text : String) : String :=
  String.ofList ('"' :: text.toList.flatMap (escape '"') ++ ['"'])

/-- A character between single quotes. -/
def quotedChar (c : Char) : String :=
  String.ofList ('\x27' :: escape '\x27' c ++ ['\x27'])

end PatternLexer.Text
