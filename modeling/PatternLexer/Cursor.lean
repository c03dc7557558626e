import PatternLexer.Place

/-!
# Cursors

A cursor reads a text in two steps: the lookahead moves ahead of the committed
position without consuming anything, and a commit moves the position up to the
lookahead. Positions can be saved on a stack and gone back to.

Every step that answers something returns the answer with the moved cursor.
-/

namespace PatternLexer

/-- A committed position and a lookahead in a text, with a stack of saved
positions, the latest first. -/
structure Cursor where
  text : String
  position : Place
  lookahead : Place
  saved : List Place
  deriving DecidableEq, Repr

namespace Cursor

/-- A cursor at a place of `text` with nothing peeked and nothing saved. -/
def ofPlace (text : String) (place : Place) : Cursor := ⟨text, place, place, []⟩

/-- A cursor at the beginning of a text. -/
def start (text : String) : Cursor := .ofPlace text (.start text.toList)

/-- Consume up to `place`, leaving nothing peeked. -/
def moveTo (cursor : Cursor) (place : Place) : Cursor :=
  { cursor with position := place, lookahead := place }

/-- Nothing has been peeked. -/
def Settled (cursor : Cursor) : Prop := cursor.lookahead = cursor.position

/-- Whether the position is the end of the text. -/
def atEnd (cursor : Cursor) : Bool := cursor.position.rest.isEmpty

/-- The text from the position to the end. -/
def remainder (cursor : Cursor) : String := String.ofList cursor.position.rest

/-- The character at the lookahead, which steps over it. At the end of the text
there is none and the lookahead stays. -/
def peekChar (cursor : Cursor) : Option Char × Cursor :=
  match cursor.lookahead.next? with
  | some (c, following) => (some c, { cursor with lookahead := following })
  | none => (none, cursor)

/-- Move the lookahead forward by `n` bytes, rounded up to a whole character and
stopping at the end of the text. -/
def peek (cursor : Cursor) (n : Nat) : Cursor :=
  { cursor with lookahead := cursor.lookahead.skip n }

/-- Move the lookahead to the first `target` at or after the position. Without
one the lookahead stays. -/
def seek (cursor : Cursor) (target : Char) : Bool × Cursor :=
  match cursor.position.seek? target with
  | some found => (true, { cursor with lookahead := found })
  | none => (false, cursor)

/-- Where a commit stops: the lookahead, or behind one character when nothing has
been peeked, so that a commit makes progress until the text ends. -/
def commitStop (cursor : Cursor) : Place :=
  if cursor.lookahead.offset = cursor.position.offset then
    (cursor.position.next?.map (·.2)).getD cursor.position
  else
    cursor.lookahead

/-- Consume the text up to `commitStop` and return it; at the end of the text
this is the empty text. -/
def commit (cursor : Cursor) : String × Cursor :=
  (String.ofList (cursor.position.between cursor.commitStop), cursor.moveTo cursor.commitStop)

/-- Consume the text up to the lookahead. Where nothing has been peeked this
consumes nothing, unlike a commit. -/
def commitPeeked (cursor : Cursor) : String × Cursor :=
  if cursor.position.offset < cursor.lookahead.offset then cursor.commit else ("", cursor)

/-- Consume the text up to the lookahead and the character there. -/
def takeChar (cursor : Cursor) : Cursor := cursor.peekChar.2.commit.2

/-- Give up what has been peeked. -/
def restore (cursor : Cursor) : Cursor :=
  { cursor with lookahead := cursor.position }

/-- Remember the position. -/
def save (cursor : Cursor) : Cursor :=
  { cursor with saved := cursor.position :: cursor.saved }

/-- Go back to the position saved last, forget it, and return the number of bytes
given back. With nothing saved the cursor stays and the number is zero. -/
def rollback (cursor : Cursor) : Nat × Cursor :=
  match cursor.saved with
  | [] => (0, cursor)
  | place :: saved =>
      (cursor.position.offset - place.offset, { cursor.moveTo place with saved := saved })

@[simp] theorem settled_start (text : String) : (start text).Settled := rfl

@[simp] theorem settled_moveTo (cursor : Cursor) (place : Place) :
    (cursor.moveTo place).Settled := rfl

@[simp] theorem settled_restore (cursor : Cursor) : cursor.restore.Settled := rfl

theorem Settled.restore_eq {cursor : Cursor} (settled : cursor.Settled) :
    cursor.restore = cursor := by
  cases cursor
  simp_all [Settled, restore]

end Cursor

end PatternLexer
