import PatternLexer.Cursor
import PatternLexer.Pattern.Basic
import PatternLexer.Text.Run
import PatternLexer.Token

/-!
# Matching a pattern

Matching is ordered and greedy. A run takes all it can and gives nothing back, and
an alternation keeps its first alternative that matches, so the only second tries
are the next alternatives after a failed one.

A matcher consumes what it reads, also where it fails half way. A sequence saves the
position before its first item: when an item fails it goes back there, and when all
match it goes back there too and takes the whole span again in one step.

Literals, runs and quotes are read at the lookahead, while lines and the spans of
all matches are taken from the committed position. On a settled cursor, where the
two are one place, this makes no difference.
-/

namespace PatternLexer

/-- A match: the span of its lexeme and the captures inside it. -/
structure Match where
  start : Place
  stop : Place
  captures : Captures

namespace Match

/-- The token of a match in its source text. -/
def toToken (found : Match) (source : String) : Token :=
  ⟨found.start, found.stop, source, found.captures⟩

/-- What a match adds to the captures of the sequence it is part of. Under a class
name these are its own captures followed by its token; without a name, nothing. -/
def filed (found : Match) (source : String) : Option String → Captures
  | none => []
  | some name => found.captures ++ [(name, found.toToken source)]

@[simp] theorem filed_none (found : Match) (source : String) : found.filed source none = [] := rfl

@[simp] theorem filed_some (found : Match) (source name : String) :
    found.filed source (some name) = found.captures ++ [(name, found.toToken source)] := rfl

end Match

namespace Cursor

/-- The match of nothing at the position. -/
def emptyMatch (cursor : Cursor) : Match := ⟨cursor.position, cursor.position, []⟩

/-- The match from the position to that of a cursor moved ahead. -/
def matchTo (cursor moved : Cursor) : Match := ⟨cursor.position, moved.position, []⟩

/-- Peek the characters of a text one by one. The first that differs gives up all
that has been peeked. -/
def peekText : List Char → Cursor → Bool × Cursor
  | [], cursor => (true, cursor)
  | c :: text, cursor =>
      let (first, next) := cursor.peekChar
      if first = some c then peekText text next else (false, next.restore)

/-- Read exactly `text`. The empty text leaves the cursor alone. -/
def readLiteral (cursor : Cursor) (text : List Char) : Option Match × Cursor :=
  if text.isEmpty then (some cursor.emptyMatch, cursor)
  else
    let (found, next) := cursor.peekText text
    if found then (some (cursor.matchTo next.commit.2), next.commit.2) else (none, next)

/-- Consume characters one by one while the test accepts them and the maximum allows
more, after the first `count` of them. No more are left than are `ahead`. -/
def commitRun (accepts : Char → Bool) (max : Option Nat) :
    (ahead : List Char) → (count : Nat) → Cursor → Nat × Cursor
  | [], count, cursor => (count, if Text.mayGrow max count then cursor.restore else cursor)
  | _ :: ahead, count, cursor =>
      if Text.mayGrow max count then
        let (first, next) := cursor.peekChar
        if first.any accepts then commitRun accepts max ahead (count + 1) next.commit.2
        else (count, next.restore)
      else
        (count, cursor)

/-- Read a run. With a maximum of zero this does not look at the text, and otherwise
it leaves nothing peeked. -/
def readRun (cursor : Cursor) (test : CharTest) (min : Nat) (max : Option Nat) :
    Option Match × Cursor :=
  let (count, next) := cursor.commitRun test.accepts max cursor.lookahead.rest 0
  if count < min then (none, next) else (some (cursor.matchTo next), next)

/-- Read a line from the position. The match ends before the line feed and the
cursor behind it. -/
def readLine (cursor : Cursor) : Option Match × Cursor :=
  let (found, next) := cursor.seek '\n'
  if found then
    (some ⟨cursor.position, next.lookahead, []⟩, next.commitPeeked.2.takeChar)
  else
    (none, next)

/-- Read from one quote to the next. -/
def readQuoted (cursor : Cursor) (quote : Char) : Option Match × Cursor :=
  let (first, opened) := cursor.peekChar
  if first = some quote then
    let (found, next) := opened.commit.2.seek quote
    if found then
      let last := next.commitPeeked.2.takeChar
      (some (cursor.matchTo last), last)
    else
      (none, next)
  else
    (none, opened.restore)

/-- The match of a sequence, given what its items came to behind a save. The cursor
goes back to the saved position and, after a success, over the whole span again. An
empty sequence leaves the cursor alone. -/
def conclude (cursor : Cursor) (items : Sequence) (read : Option Captures × Cursor) :
    Option Match × Cursor :=
  if items.isEmpty then (some cursor.emptyMatch, cursor)
  else
    let (length, back) := read.2.rollback
    match read.1 with
    | none => (none, back)
    | some captures =>
        (some ⟨cursor.position, cursor.position.skip length, captures⟩,
          if 0 < length then (back.peek length).commit.2 else back)

end Cursor

mutual

/-- Match one matcher at the cursor. -/
def Matcher.scan : Matcher → Cursor → Option Match × Cursor
  | .literal text, cursor => cursor.readLiteral text
  | .run test min max, cursor => cursor.readRun test min max
  | .line, cursor => cursor.readLine
  | .quoted quote, cursor => cursor.readQuoted quote
  | .alternation alternatives, cursor => Sequence.scanFirst alternatives cursor
  | .pattern items, cursor => cursor.conclude items (Sequence.scanItems items cursor.save)

/-- Match the first of some sequences that matches at the cursor. -/
def Sequence.scanFirst : List Sequence → Cursor → Option Match × Cursor
  | [], cursor => (none, cursor)
  | items :: others, cursor =>
      match cursor.conclude items (Sequence.scanItems items cursor.save) with
      | (some found, next) => (some found, next)
      | (none, next) => Sequence.scanFirst others next

/-- Match items one after another and file their captures. -/
def Sequence.scanItems : Sequence → Cursor → Option Captures × Cursor
  | [], cursor => (some [], cursor)
  | ⟨matcher, capture⟩ :: others, cursor =>
      match matcher.scan cursor with
      | (none, next) => (none, next)
      | (some found, next) =>
          let (captures, last) := Sequence.scanItems others next
          (captures.map (found.filed cursor.text capture ++ ·), last)

end

/-- Match a sequence at the position of the cursor. -/
def Cursor.match? (cursor : Cursor) (items : Sequence) : Option Match × Cursor :=
  cursor.conclude items (Sequence.scanItems items cursor.save)

@[simp] theorem Cursor.match?_nil (cursor : Cursor) :
    cursor.match? [] = (some cursor.emptyMatch, cursor) := rfl

@[simp] theorem Matcher.scan_alternation (alternatives : List Sequence) (cursor : Cursor) :
    (Matcher.alternation alternatives).scan cursor = Sequence.scanFirst alternatives cursor := rfl

@[simp] theorem Matcher.scan_pattern (items : Sequence) (cursor : Cursor) :
    (Matcher.pattern items).scan cursor = cursor.match? items := rfl

@[simp] theorem Sequence.scanFirst_nil (cursor : Cursor) :
    Sequence.scanFirst [] cursor = (none, cursor) := rfl

theorem Sequence.scanFirst_cons (items : Sequence) (others : List Sequence) (cursor : Cursor) :
    Sequence.scanFirst (items :: others) cursor =
      match cursor.match? items with
      | (some found, next) => (some found, next)
      | (none, next) => Sequence.scanFirst others next := rfl

@[simp] theorem Sequence.scanItems_nil (cursor : Cursor) :
    Sequence.scanItems [] cursor = (some [], cursor) := rfl

end PatternLexer
