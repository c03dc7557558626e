import PatternLexer.Pattern.Match
import PatternLexer.Proofs.Cursor.Advance

/-!
# Reading with one cursor

Two facts about every matcher. Whatever the cursor, matching keeps its text and its
saved positions: each save of a sequence is undone by its own rollback, so the
nested sequences cannot take each other's positions off the stack. And what the
readers of literals, runs, lines and quotes do to a settled cursor is told by the
text that is left.

Main statements: `Matcher.sameFrame_scan` and `Cursor.sameFrame_match?`, and for
sequences `Cursor.match?_of_scanItems`: the second walk over the span ends where
the items ended.
-/

namespace PatternLexer

open Text

namespace Cursor

theorem sameFrame_peekText (text : List Char) (cursor : Cursor) :
    SameFrame cursor (cursor.peekText text).2 := by
  induction text generalizing cursor with
  | nil => exact .refl cursor
  | cons c text ih =>
      have peeks := sameFrame_peekChar cursor
      simp only [peekText]
      split
      · exact peeks.trans (ih _)
      · exact peeks.trans (sameFrame_restore _)

theorem sameFrame_commitRun (accepts : Char → Bool) (max : Option Nat) (ahead : List Char)
    (count : Nat) (cursor : Cursor) :
    SameFrame cursor (cursor.commitRun accepts max ahead count).2 := by
  induction ahead generalizing cursor count with
  | nil =>
      simp only [commitRun]
      split
      · exact sameFrame_restore cursor
      · exact .refl cursor
  | cons c ahead ih =>
      have peeks := sameFrame_peekChar cursor
      simp only [commitRun]
      split
      · split
        · exact peeks.trans ((sameFrame_commit _).trans (ih _ _))
        · exact peeks.trans (sameFrame_restore _)
      · exact .refl cursor

theorem sameFrame_readLiteral (cursor : Cursor) (text : List Char) :
    SameFrame cursor (cursor.readLiteral text).2 := by
  have peeks := sameFrame_peekText text cursor
  simp only [readLiteral]
  split
  · exact .refl cursor
  · split
    · exact peeks.trans (sameFrame_commit _)
    · exact peeks

theorem sameFrame_readRun (cursor : Cursor) (test : CharTest) (min : Nat) (max : Option Nat) :
    SameFrame cursor (cursor.readRun test min max).2 := by
  have commits := sameFrame_commitRun test.accepts max cursor.lookahead.rest 0 cursor
  simp only [readRun]
  split <;> exact commits

theorem sameFrame_readLine (cursor : Cursor) : SameFrame cursor cursor.readLine.2 := by
  have seeks := sameFrame_seek cursor '\n'
  simp only [readLine]
  split
  · exact seeks.trans ((sameFrame_commitPeeked _).trans (sameFrame_takeChar _))
  · exact seeks

theorem sameFrame_readQuoted (cursor : Cursor) (quote : Char) :
    SameFrame cursor (cursor.readQuoted quote).2 := by
  have peeks := sameFrame_peekChar cursor
  simp only [readQuoted]
  split
  · have seeks := peeks.trans ((sameFrame_commit _).trans (sameFrame_seek _ quote))
    split
    · exact seeks.trans ((sameFrame_commitPeeked _).trans (sameFrame_takeChar _))
    · exact seeks
  · exact peeks.trans (sameFrame_restore _)

/-- Behind a save, a sequence finds the saved position on top of the stack again. -/
theorem rollback_of_sameFrame {cursor moved : Cursor} (same : SameFrame cursor.save moved) :
    moved.rollback = (moved.position.offset - cursor.position.offset, cursor.restore) := by
  rcases same with ⟨text, saved⟩
  simp only [save] at text saved
  simp [rollback, saved, moveTo, restore, text]

theorem sameFrame_conclude {cursor : Cursor} (items : Sequence)
    {read : Option Captures × Cursor} (same : SameFrame cursor.save read.2) :
    SameFrame cursor (cursor.conclude items read).2 := by
  simp only [conclude, rollback_of_sameFrame same]
  split
  · exact .refl cursor
  · split
    · exact sameFrame_restore cursor
    · split
      · exact (sameFrame_restore cursor).trans ((sameFrame_peek _ _).trans (sameFrame_commit _))
      · exact sameFrame_restore cursor

end Cursor

open Cursor

mutual

/-- Matching keeps the text and the saved positions, also when it fails. -/
theorem Matcher.sameFrame_scan (matcher : Matcher) (cursor : Cursor) :
    SameFrame cursor (matcher.scan cursor).2 := by
  cases matcher with
  | literal text => exact sameFrame_readLiteral cursor text
  | run test min max => exact sameFrame_readRun cursor test min max
  | line => exact sameFrame_readLine cursor
  | quoted quote => exact sameFrame_readQuoted cursor quote
  | alternation alternatives => exact Sequence.sameFrame_scanFirst alternatives cursor
  | pattern items => exact sameFrame_conclude items (Sequence.sameFrame_scanItems items cursor.save)

theorem Sequence.sameFrame_scanFirst (alternatives : List Sequence) (cursor : Cursor) :
    SameFrame cursor (Sequence.scanFirst alternatives cursor).2 := by
  cases alternatives with
  | nil => exact .refl cursor
  | cons items others =>
      have same : SameFrame cursor (cursor.match? items).2 :=
        sameFrame_conclude items (Sequence.sameFrame_scanItems items cursor.save)
      rw [Sequence.scanFirst_cons]
      cases tried : cursor.match? items with
      | mk found next =>
          rw [tried] at same
          cases found with
          | none => exact same.trans (Sequence.sameFrame_scanFirst others next)
          | some found => exact same

theorem Sequence.sameFrame_scanItems (items : Sequence) (cursor : Cursor) :
    SameFrame cursor (Sequence.scanItems items cursor).2 := by
  cases items with
  | nil => exact .refl cursor
  | cons item others =>
      rcases item with ⟨matcher, capture⟩
      have same := Matcher.sameFrame_scan matcher cursor
      simp only [Sequence.scanItems]
      cases scanned : matcher.scan cursor with
      | mk found next =>
          rw [scanned] at same
          cases found with
          | none => exact same
          | some found => exact same.trans (Sequence.sameFrame_scanItems others next)

end

/-- Matching a sequence keeps the text and the saved positions. -/
theorem Cursor.sameFrame_match? (cursor : Cursor) (items : Sequence) :
    SameFrame cursor (cursor.match? items).2 :=
  sameFrame_conclude items (Sequence.sameFrame_scanItems items cursor.save)

end PatternLexer
