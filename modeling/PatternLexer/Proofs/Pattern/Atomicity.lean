import PatternLexer.Proofs.Cursor.Bytes
import PatternLexer.Proofs.Pattern.Spans

/-!
# All or nothing

The items of a sequence consume what they read one after another, and stop half way when one
of them fails. From outside a sequence is one step: it consumes the whole span of its match,
or it gives back all that its items have consumed. Each save inside it is undone by its own
rollback, at every depth, so the positions that were saved before are still there, whichever
way it ends.

Main statement: `match?_atomic`, for every cursor that operations can lead to, wherever its
lookahead stands and whatever it has saved.
-/

namespace PatternLexer

namespace Cursor

variable {cursor next : Cursor} {items : Sequence} {found : Match}

/-- What matching a sequence leaves behind: a match from the old position to the new one,
inside the text, and the saved positions as they were. Nothing stays peeked, unless there was
nothing to match. -/
structure Takes (cursor : Cursor) (items : Sequence) (found : Match) (next : Cursor) :
    Prop where
  text_eq : next.text = cursor.text
  saved_eq : next.saved = cursor.saved
  start_eq : found.start = cursor.position
  stop_eq : found.stop = next.position
  start_le_stop : found.start.offset ≤ found.stop.offset
  stop_le_size : found.stop.offset ≤ cursor.text.utf8ByteSize
  isValid_start : (⟨found.start.offset⟩ : String.Pos.Raw).IsValid cursor.text
  isValid_stop : (⟨found.stop.offset⟩ : String.Pos.Raw).IsValid cursor.text
  settled : items ≠ [] → next.Settled
  unchanged : items = [] → next = cursor

/-- The second walk of a sequence leads to the end of its match and leaves nothing peeked. -/
theorem Proper.moveTo_of_match? (proper : cursor.Proper) (nonempty : items ≠ [])
    (matched : cursor.match? items = (some found, next)) : next = cursor.moveTo found.stop := by
  obtain ⟨last, scanned, spans, stop⟩ := proper.spans_match? matched
  have same := Sequence.sameFrame_scanItems items cursor.save
  have reaches := spans.reaches_stop
  rw [scanned] at same
  rw [stop] at reaches ⊢
  have nonempty : items.isEmpty = false := by simpa using nonempty
  rw [match?, conclude, scanned] at matched
  simp only [nonempty, rollback_of_sameFrame same, walk_eq_moveTo cursor reaches] at matched
  exact (congrArg Prod.snd matched).symm

theorem eq_of_match?_nil (matched : cursor.match? [] = (some found, next)) :
    next = cursor ∧ found.stop = cursor.position := by
  cases matched
  exact ⟨rfl, rfl⟩

/-- A sequence that matches at a well-placed cursor takes the span of its match. -/
theorem WellPlaced.takes_of_match? (placed : cursor.WellPlaced)
    (matched : cursor.match? items = (some found, next)) : cursor.Takes items found next := by
  have same := sameFrame_match? cursor items
  obtain ⟨last, scanned, spans, stop⟩ := placed.proper.spans_match? matched
  have startOfText : (Place.start cursor.text.toList).Reaches found.start := by
    rw [spans.start_eq]
    exact placed.ofText
  have stopOfText := placed.ofText.trans spans.reaches_stop
  have within := Place.size_of_reaches stopOfText
  have moved := fun nonempty : items ≠ [] => placed.proper.moveTo_of_match? nonempty matched
  have stays : items = [] → next = cursor ∧ found.stop = cursor.position := by
    rintro rfl
    exact eq_of_match?_nil matched
  rw [matched] at same
  exact {
    text_eq := same.1
    saved_eq := same.2
    start_eq := spans.start_eq
    stop_eq := by
      by_cases empty : items = []
      · rw [(stays empty).1, (stays empty).2]
      · rw [moved empty]
        rfl
    start_le_stop := by
      rw [spans.start_eq]
      exact spans.reaches_stop.offset_le
    stop_le_size := by omega
    isValid_start := Place.isValid_of_reaches startOfText
    isValid_stop := Place.isValid_of_reaches stopOfText
    settled := fun nonempty => by
      rw [moved nonempty]
      exact settled_moveTo cursor found.stop
    unchanged := fun empty => (stays empty).1 }

/-- Matching a sequence is all or nothing at every cursor that operations lead to: it takes
the span of its match, or it restores the lookahead and changes nothing else. -/
theorem match?_atomic (text : String) (operations : List Operation) (items : Sequence) :
    (∀ next, (reached text operations).match? items = (none, next) →
      next = (reached text operations).restore) ∧
    ∀ found next, (reached text operations).match? items = (some found, next) →
      (reached text operations).Takes items found next := by
  constructor
  · intro next failed
    exact restore_of_match?_eq_none failed
  · intro found next matched
    exact (wellPlaced_reached text operations).takes_of_match? matched

/-- A literal is read at the lookahead, but its match starts at the position and takes what
has been peeked as well. The position that was saved stays, and so it does where the second
item fails behind the first. -/
theorem match?_atomic_peeked :
    ∃ found next,
      (reached "aab" [.save, .peek 1]).match? [⟨.literal ['a'], none⟩] = (some found, next) ∧
        found.start.offset = 0 ∧ found.stop.offset = 2 ∧
        (reached "aab" [.save, .peek 1]).Takes [⟨.literal ['a'], none⟩] found next ∧
        (reached "aab" [.save, .peek 1]).match? [⟨.literal ['a'], none⟩, ⟨.line, none⟩] =
          (none, reached "aab" [.save]) := by
  obtain ⟨-, takes⟩ := match?_atomic "aab" [.save, .peek 1] [⟨.literal ['a'], none⟩]
  obtain ⟨fails, -⟩ := match?_atomic "aab" [.save, .peek 1]
    [⟨.literal ['a'], none⟩, ⟨.line, none⟩]
  exact ⟨_, _, rfl, rfl, rfl, takes _ _ rfl, Prod.ext rfl (fails _ rfl)⟩

end Cursor

end PatternLexer
