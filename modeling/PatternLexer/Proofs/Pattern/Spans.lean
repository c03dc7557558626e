import PatternLexer.Proofs.Cursor.Lookahead
import PatternLexer.Proofs.Pattern.Reading

/-!
# Where matches stand

A match starts at the position of the cursor, wherever the lookahead is, and ends no
further on than the position that the matcher leaves the cursor at. `Matcher.spans_scan`
says so of every matcher on every proper cursor, and `Cursor.Proper.spans_match?` of every
sequence. It is proved reader by reader, and then by induction over the matchers.
-/

namespace PatternLexer

namespace Cursor

variable {cursor moved next : Cursor} {found : Match}

/-- A match from the position of a cursor to a place that the moved cursor has not left
behind it. -/
structure Spans (cursor : Cursor) (found : Match) (next : Cursor) : Prop where
  start_eq : found.start = cursor.position
  reaches_stop : cursor.position.Reaches found.stop
  stop_reaches : found.stop.Reaches next.position
  proper : next.Proper

theorem Onward.spans_matchTo (onward : cursor.Onward moved) :
    cursor.Spans (cursor.matchTo moved) moved :=
  ⟨rfl, onward.reaches, .refl _, onward.proper⟩

theorem Spans.onward (spans : cursor.Spans found next) : cursor.Onward next :=
  ⟨spans.proper, spans.reaches_stop.trans spans.stop_reaches⟩

theorem Proper.onward_peekText (proper : cursor.Proper) (text : List Char) :
    cursor.Onward (cursor.peekText text).2 := by
  induction text generalizing cursor with
  | nil => exact proper.onward
  | cons c text ih =>
      have peeks := proper.onward_peekChar
      simp only [peekText]
      split
      · exact peeks.trans (ih peeks.proper)
      · exact peeks.trans (onward_restore _)

theorem Proper.onward_commitRun (proper : cursor.Proper) (accepts : Char → Bool)
    (max : Option Nat) (ahead : List Char) (count : Nat) :
    cursor.Onward (cursor.commitRun accepts max ahead count).2 := by
  induction ahead generalizing cursor count with
  | nil =>
      simp only [commitRun]
      split
      · exact onward_restore cursor
      · exact proper.onward
  | cons c ahead ih =>
      have peeks := proper.onward_peekChar
      have commits := peeks.trans peeks.proper.onward_commit
      simp only [commitRun]
      split
      · split
        · exact commits.trans (ih commits.proper _)
        · exact peeks.trans (onward_restore _)
      · exact proper.onward

theorem Proper.spans_readLiteral (proper : cursor.Proper) {text : List Char}
    (read : cursor.readLiteral text = (some found, next)) : cursor.Spans found next := by
  have peeks := proper.onward_peekText text
  rw [readLiteral] at read
  split at read
  · cases read
    exact proper.onward.spans_matchTo
  · simp only at read
    split at read <;> cases read
    exact (peeks.trans peeks.proper.onward_commit).spans_matchTo

theorem Proper.spans_readRun (proper : cursor.Proper) {test : CharTest} {min : Nat}
    {max : Option Nat} (read : cursor.readRun test min max = (some found, next)) :
    cursor.Spans found next := by
  have commits := proper.onward_commitRun test.accepts max cursor.lookahead.rest 0
  simp only [readRun] at read
  split at read <;> cases read
  exact commits.spans_matchTo

/-- A line ends at the line feed, behind which the cursor goes on. -/
theorem Proper.spans_readLine (proper : cursor.Proper)
    (read : cursor.readLine = (some found, next)) : cursor.Spans found next := by
  have seeks := proper.onward_seek '\n'
  have commits := seeks.proper.onward_commitPeeked
  have takes := commits.proper.onward_takeChar
  have stays := position_seek cursor '\n'
  simp only [readLine] at read
  split at read <;> cases read
  refine ⟨rfl, ?_, ?_, takes.proper⟩
  · rw [← stays]
    exact seeks.proper
  · rw [← seeks.proper.position_commitPeeked]
    exact takes.reaches

theorem Proper.spans_readQuoted (proper : cursor.Proper) {quote : Char}
    (read : cursor.readQuoted quote = (some found, next)) : cursor.Spans found next := by
  have peeks := proper.onward_peekChar
  have opens := peeks.trans peeks.proper.onward_commit
  have seeks := opens.trans (opens.proper.onward_seek quote)
  have commits := seeks.trans seeks.proper.onward_commitPeeked
  have takes := commits.trans commits.proper.onward_takeChar
  simp only [readQuoted] at read
  split at read
  · split at read <;> cases read
    exact takes.spans_matchTo
  · cases read

/-- A sequence that fails gives back all that its items have consumed and peeked. -/
theorem restore_of_match?_eq_none {items : Sequence} (failed : cursor.match? items = (none, next)) :
    next = cursor.restore := by
  cases items with
  | nil => cases failed
  | cons item items =>
      have same := Sequence.sameFrame_scanItems (item :: items) cursor.save
      simp only [match?, conclude, rollback_of_sameFrame same, List.isEmpty_cons,
        Bool.false_eq_true, if_false] at failed
      split at failed <;> cases failed
      rfl

/-- The walk over a span that has been given back ends where the span ends. -/
theorem walk_eq_moveTo (cursor : Cursor) {last : Place}
    (reaches : cursor.position.Reaches last) :
    (if 0 < last.offset - cursor.position.offset then
      (cursor.restore.peek (last.offset - cursor.position.offset)).commit.2
    else cursor.restore) = cursor.moveTo last := by
  have whole := Place.skip_of_reaches reaches
  split
  · have apart : last.offset ≠ cursor.position.offset := by omega
    simp [commit, commitStop, peek, restore, moveTo, whole, apart]
  · have idle : last.offset = cursor.position.offset := by
      have := reaches.offset_le
      omega
    rw [reaches.eq_of_offset idle]
    rfl

/-- A sequence that matches ends where its items end: this is the end of the match and
the new position. -/
theorem Proper.stop_of_match? (proper : cursor.Proper) {items : Sequence}
    (moves : ∀ captures last, Sequence.scanItems items cursor.save = (some captures, last) →
      cursor.save.Onward last)
    (matched : cursor.match? items = (some found, next)) :
    ∃ last, Sequence.scanItems items cursor.save = (some found.captures, last) ∧
      cursor.Spans found next ∧ found.stop = last.position := by
  cases items with
  | nil =>
      cases matched
      exact ⟨cursor.save, rfl, ⟨rfl, .refl _, .refl _, proper⟩, rfl⟩
  | cons item items =>
      have same := Sequence.sameFrame_scanItems (item :: items) cursor.save
      cases scanned : Sequence.scanItems (item :: items) cursor.save with
      | mk read last =>
          rw [scanned] at same
          cases read with
          | none => simp [match?, conclude, scanned] at matched
          | some captures =>
              have reaches : cursor.position.Reaches last.position :=
                (moves captures last scanned).reaches
              simp only [match?, conclude, scanned, rollback_of_sameFrame same, List.isEmpty_cons,
                Bool.false_eq_true, if_false, Place.skip_of_reaches reaches,
                walk_eq_moveTo cursor reaches, Prod.mk.injEq, Option.some.injEq] at matched
              rcases matched with ⟨rfl, rfl⟩
              exact ⟨last, rfl, ⟨rfl, reaches, .refl _, (settled_moveTo _ _).proper⟩, rfl⟩

end Cursor

open Cursor

mutual

/-- A matcher that matches moves a proper cursor on, over its match. -/
theorem Matcher.spans_scan (matcher : Matcher) {cursor next : Cursor} {found : Match}
    (proper : cursor.Proper) (scanned : matcher.scan cursor = (some found, next)) :
    cursor.Spans found next := by
  cases matcher with
  | literal text => exact proper.spans_readLiteral scanned
  | run test min max => exact proper.spans_readRun scanned
  | line => exact proper.spans_readLine scanned
  | quoted quote => exact proper.spans_readQuoted scanned
  | alternation alternatives => exact Sequence.spans_scanFirst alternatives proper scanned
  | pattern items =>
      have saved : cursor.save.Proper := proper
      have moves (captures : Captures) (last : Cursor)
          (read : Sequence.scanItems items cursor.save = (some captures, last)) :
          cursor.save.Onward last := Sequence.onward_scanItems items saved read
      rcases proper.stop_of_match? moves scanned with ⟨last, -, spans, -⟩
      exact spans

theorem Sequence.spans_scanFirst (alternatives : List Sequence) {cursor next : Cursor}
    {found : Match} (proper : cursor.Proper)
    (scanned : Sequence.scanFirst alternatives cursor = (some found, next)) :
    cursor.Spans found next := by
  cases alternatives with
  | nil => cases scanned
  | cons items others =>
      have saved : cursor.save.Proper := proper
      have moves (captures : Captures) (last : Cursor)
          (read : Sequence.scanItems items cursor.save = (some captures, last)) :
          cursor.save.Onward last := Sequence.onward_scanItems items saved read
      rw [Sequence.scanFirst_cons] at scanned
      cases tried : cursor.match? items with
      | mk first middle =>
          rw [tried] at scanned
          cases first with
          | none =>
              -- The next alternative starts at the same position, with nothing peeked.
              rw [restore_of_match?_eq_none tried] at scanned
              have spans := Sequence.spans_scanFirst others (settled_restore cursor).proper scanned
              exact ⟨spans.start_eq, spans.reaches_stop, spans.stop_reaches, spans.proper⟩
          | some first =>
              cases scanned
              rcases proper.stop_of_match? moves tried with ⟨last, -, spans, -⟩
              exact spans

theorem Sequence.onward_scanItems (items : Sequence) {cursor next : Cursor} {captures : Captures}
    (proper : cursor.Proper) (scanned : Sequence.scanItems items cursor = (some captures, next)) :
    cursor.Onward next := by
  cases items with
  | nil =>
      cases scanned
      exact proper.onward
  | cons item others =>
      rcases item with ⟨matcher, capture⟩
      rw [Sequence.scanItems] at scanned
      cases first : matcher.scan cursor with
      | mk found middle =>
          rw [first] at scanned
          cases found with
          | none => cases scanned
          | some found =>
              have onward := (Matcher.spans_scan matcher proper first).onward
              cases read : Sequence.scanItems others middle with
              | mk rest last =>
                  simp only [read, Prod.mk.injEq, Option.map_eq_some_iff] at scanned
                  rcases scanned with ⟨⟨rest, rfl, rfl⟩, rfl⟩
                  exact onward.trans (Sequence.onward_scanItems others onward.proper read)

end

/-- A sequence that matches moves a proper cursor on, over its match, which ends where the
items end. -/
theorem Cursor.Proper.spans_match? {cursor next : Cursor} {found : Match} (proper : cursor.Proper)
    {items : Sequence} (matched : cursor.match? items = (some found, next)) :
    ∃ last, Sequence.scanItems items cursor.save = (some found.captures, last) ∧
      cursor.Spans found next ∧ found.stop = last.position := by
  have saved : cursor.save.Proper := proper
  apply proper.stop_of_match? _ matched
  intro captures last read
  exact Sequence.onward_scanItems items saved read

end PatternLexer
