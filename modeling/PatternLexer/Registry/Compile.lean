import PatternLexer.Cursor
import PatternLexer.Registry.Basic
import PatternLexer.Registry.Error

/-!
# Compiling patterns

A pattern is read from the left with a cursor. What begins with an opening brace is
a reference to a class and goes on to the next closing brace; anything else is
literal text and goes on to the next opening brace. The first thing that is wrong
ends the compilation. There is no way to escape a brace.

Class names are resolved when the pattern is compiled, so a compiled pattern keeps
its meaning while the registry grows.
-/

namespace PatternLexer

namespace Registry

open Text

/-- Read a class name and the closing brace, behind the opening brace. -/
def readReference (registry : Registry) (cursor : Cursor) : Except PatternError (Item × Cursor) :=
  let opening := cursor.position.offset - 1
  let (closed, found) := cursor.seek '}'
  if closed then
    let (name, next) := found.commitPeeked
    match offset? '{' name.toList with
    | some nested => .error (.unexpectedBrace (opening + 1 + nested))
    | none =>
        (registry.resolve name).map fun matcher => (⟨matcher, some name⟩, next.takeChar)
  else
    .error (.unclosedClass opening)

/-- Read literal text up to the next opening brace or the end of the pattern. -/
def readText (cursor : Cursor) : Except PatternError (Item × Cursor) :=
  let (found, sought) := cursor.seek '{'
  let ahead := if found then sought else sought.peek (size cursor.position.rest)
  let (text, next) := ahead.commit
  match offset? '}' text.toList with
  | some stray => .error (.unexpectedBrace (cursor.position.offset + stray))
  | none => .ok (⟨.literal text.toList, none⟩, next)

/-- Read a reference or a piece of literal text. -/
def readItem (registry : Registry) (cursor : Cursor) : Except PatternError (Item × Cursor) :=
  let (first, next) := cursor.peekChar
  if first = some '{' then registry.readReference next.commit.2 else readText next.restore

/-- Read items until the pattern ends. Every item moves the cursor, so there are no
more items than characters `ahead`. -/
def readItems (registry : Registry) :
    (ahead : List Char) → Cursor → Except PatternError Sequence
  | [], _ => .ok []
  | _ :: ahead, cursor =>
      if cursor.atEnd then .ok []
      else
        match registry.readItem cursor with
        | .error error => .error error
        | .ok (item, next) => (registry.readItems ahead next).map (item :: ·)

/-- The items of a pattern. -/
def sequenceOf (registry : Registry) (pattern : String) : Except PatternError Sequence :=
  registry.readItems pattern.toList (Cursor.start pattern)

/-- The items of a pattern, with errors that name the pattern. -/
def compile (registry : Registry) (pattern : String) : Except RegistrationError Sequence :=
  (registry.sequenceOf pattern).mapError (.pattern pattern)

/-- Compile some patterns in order. -/
def compileAll (registry : Registry) (patterns : List String) :
    Except RegistrationError (List Sequence) :=
  patterns.mapM registry.compile

end Registry

end PatternLexer
