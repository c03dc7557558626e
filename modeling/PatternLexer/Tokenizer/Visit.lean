import PatternLexer.Pattern.Match

/-!
# Visits

Which matches a run comes to depends on the patterns and the input alone, not on
what the callbacks do. A run visits places of the input from the left. At each of
them the first pattern that matches gives a token. If the token is not empty, the
next visit is at its end; otherwise one character is dropped and the next visit is
behind it. The end of the input is not visited, unless the input is empty.
-/

namespace PatternLexer

/-- What a run finds at one place. -/
structure Visit where
  pos : Nat
  /-- The number of the first pattern that matches here, with its token. -/
  hit : Option (Nat × Token)
  /-- The character that is dropped here because nothing consumes it. -/
  dropped : Option Char

/-- The number of the first pattern that matches at the cursor, with its match. -/
def firstMatch : List Sequence → Cursor → Option (Nat × Match) × Cursor
  | [], cursor => (none, cursor)
  | items :: others, cursor =>
      match cursor.match? items with
      | (some found, next) => (some (0, found), next)
      | (none, next) =>
          let (hit, last) := firstMatch others next
          (hit.map fun (index, found) => (index + 1, found), last)

namespace Visit

/-- Number of bytes of the token found at a visit. -/
def covered (visit : Visit) : Nat :=
  match visit.hit with
  | none => 0
  | some (_, token) => token.length

/-- Drop the next character, if the text does not end. -/
def passChar (visit : Visit) (cursor : Cursor) : Visit × Cursor :=
  match cursor.peekChar with
  | (some c, next) => ({ visit with dropped := some c }, next.commit.2)
  | (none, next) => (visit, next)

/-- Visit the place of a cursor and move the cursor to the place of the next visit. -/
def make (patterns : List Sequence) (cursor : Cursor) : Visit × Cursor :=
  let (hit, next) := firstMatch patterns cursor
  let visit : Visit :=
    ⟨cursor.position.offset, hit.map fun (index, found) => (index, found.toToken cursor.text), none⟩
  if visit.covered = 0 then visit.passChar next else (visit, next)

end Visit

end PatternLexer
