import PatternLexer.Cursor

/-!
# Moving a cursor forward

What the operations of a cursor do to one that has peeked some characters, or
none. The cursor that has peeked `passed` beyond its position is
`cursor.peeked passed`, and the one that has consumed `passed` is
`cursor.advance passed`; both make sense where `passed` is a beginning of what is
left.

No operation that reads touches the text or the saved positions. This holds of
every cursor, and the last section says so.
-/

namespace PatternLexer

open Text

/-- Reading up to a character passes over a text that does not hold it. -/
theorem Text.takeWhile_bne_append {stop : Char} {taken : List Char} (absent : stop ∉ taken)
    (rest : List Char) :
    (taken ++ rest).takeWhile (· != stop) = taken ++ rest.takeWhile (· != stop) := by
  apply List.takeWhile_append_of_pos
  intro c member
  simpa using ne_of_mem_of_not_mem member absent

namespace Place

@[simp] theorem past_past (place : Place) (passed further : List Char) :
    (place.past passed).past further = place.past (passed ++ further) := by
  simp [past, Nat.add_assoc]

@[simp] theorem rest_past_of_split {place : Place} {passed rest : List Char}
    (split : place.rest = passed ++ rest) : (place.past passed).rest = rest := by
  simp [past, split]

/-- The next character of a place that has one. -/
theorem next?_of_rest {place : Place} {c : Char} {rest : List Char}
    (split : place.rest = c :: rest) : place.next? = some (c, place.past [c]) := by
  rcases place with ⟨offset, _⟩
  subst split
  simp [past]

theorem next?_of_rest_nil {place : Place} (ends : place.rest = []) : place.next? = none := by
  rcases place with ⟨offset, _⟩
  subst ends
  rfl

theorem between_past {place : Place} {passed : List Char} (beginning : passed <+: place.rest) :
    place.between (place.past passed) = passed := by
  rcases beginning with ⟨rest, split⟩
  exact between_of_reaches (by rw [rest_past_of_split split.symm, split]) rfl

theorem offset_past_eq_iff {place : Place} {passed : List Char} :
    (place.past passed).offset = place.offset ↔ passed = [] := by
  simp [past]

/-- Moving forward by the size of a beginning passes over this beginning. -/
theorem skip_size {place : Place} {passed : List Char} (beginning : passed <+: place.rest) :
    place.skip (size passed) = place.past passed := by
  rcases beginning with ⟨rest, split⟩
  rw [skip, ← split, takeSize_size_append]

end Place

namespace Cursor

/-- The cursor with `passed` peeked beyond its position. -/
def peeked (cursor : Cursor) (passed : List Char) : Cursor :=
  { cursor with lookahead := cursor.position.past passed }

/-- The cursor with `passed` consumed. -/
def advance (cursor : Cursor) (passed : List Char) : Cursor :=
  cursor.moveTo (cursor.position.past passed)

variable {cursor : Cursor} {passed rest : List Char} {c : Char}

@[simp] theorem settled_advance (cursor : Cursor) (passed : List Char) :
    (cursor.advance passed).Settled := rfl

@[simp] theorem position_advance (cursor : Cursor) (passed : List Char) :
    (cursor.advance passed).position = cursor.position.past passed := rfl

@[simp] theorem text_advance (cursor : Cursor) (passed : List Char) :
    (cursor.advance passed).text = cursor.text := rfl

@[simp] theorem advance_advance (cursor : Cursor) (passed further : List Char) :
    (cursor.advance passed).advance further = cursor.advance (passed ++ further) := by
  simp [advance, moveTo]

@[simp] theorem restore_peeked (cursor : Cursor) (passed : List Char) :
    (cursor.peeked passed).restore = cursor.restore := rfl

theorem Settled.peeked_nil (settled : cursor.Settled) : cursor.peeked [] = cursor := by
  simpa [peeked, restore] using settled.restore_eq

theorem Settled.advance_nil (settled : cursor.Settled) : cursor.advance [] = cursor := by
  simpa [advance, moveTo, restore] using settled.restore_eq

/-- Peeking steps over the character behind what has been peeked. -/
theorem peekChar_peeked (passed : List Char)
    (split : cursor.position.rest = passed ++ c :: rest) :
    (cursor.peeked passed).peekChar = (some c, cursor.peeked (passed ++ [c])) := by
  have next := Place.next?_of_rest (Place.rest_past_of_split split)
  simp [peekChar, peeked, next]

/-- Behind the last character there is nothing to peek. -/
theorem peekChar_peeked_of_end (split : cursor.position.rest = passed) :
    (cursor.peeked passed).peekChar = (none, cursor.peeked passed) := by
  have ends : (cursor.position.past passed).rest = [] :=
    Place.rest_past_of_split (by simpa using split)
  simp [peekChar, peeked, Place.next?_of_rest_nil ends]

theorem Settled.peekChar_eq (settled : cursor.Settled) (split : cursor.position.rest = c :: rest) :
    cursor.peekChar = (some c, cursor.peeked [c]) := by
  simpa [settled.peeked_nil] using peekChar_peeked [] split

theorem Settled.peekChar_of_end (settled : cursor.Settled) (ends : cursor.position.rest = []) :
    cursor.peekChar = (none, cursor) := by
  simpa [settled.peeked_nil] using peekChar_peeked_of_end ends

/-- A commit consumes what has been peeked. -/
theorem commit_peeked (cursor : Cursor) (nonempty : passed ≠ [])
    (beginning : passed <+: cursor.position.rest) :
    (cursor.peeked passed).commit = (String.ofList passed, cursor.advance passed) := by
  have stop : (cursor.peeked passed).commitStop = cursor.position.past passed := by
    simp [commitStop, peeked, Place.offset_past_eq_iff, nonempty]
  simp only [commit, stop]
  simp [peeked, Place.between_past beginning, advance, moveTo]

/-- A commit behind one more character consumes this character as well. -/
theorem commit_peeked_concat (split : cursor.position.rest = passed ++ c :: rest) :
    (cursor.peeked (passed ++ [c])).commit =
      (String.ofList (passed ++ [c]), cursor.advance (passed ++ [c])) :=
  commit_peeked cursor (List.concat_ne_nil c passed) ⟨rest, by simp [split]⟩

theorem rest_advance_concat (split : cursor.position.rest = passed ++ c :: rest) :
    (cursor.advance (passed ++ [c])).position.rest = rest :=
  Place.rest_past_of_split (by simpa using split)

/-- Consuming what has been peeked, which may be nothing. -/
theorem commitPeeked_peeked (beginning : passed <+: cursor.position.rest) :
    (cursor.peeked passed).commitPeeked =
      (String.ofList passed, if passed = [] then cursor.peeked [] else cursor.advance passed) := by
  by_cases empty : passed = []
  · simp [commitPeeked, peeked, empty]
  · have ahead : cursor.position.offset < (cursor.position.past passed).offset := by
      have := mt size_eq_zero_iff.mp empty
      simp only [Place.past]
      omega
    have commits := commit_peeked cursor empty beginning
    simp only [peeked] at commits
    simp [commitPeeked, peeked, ahead, commits, empty]

theorem fst_commitPeeked (cursor : Cursor) (beginning : passed <+: cursor.position.rest) :
    (cursor.peeked passed).commitPeeked.1 = String.ofList passed := by
  rw [commitPeeked_peeked beginning]

/-- Consuming what has been peeked and then one character more. -/
theorem takeChar_commitPeeked (split : cursor.position.rest = passed ++ c :: rest) :
    (cursor.peeked passed).commitPeeked.2.takeChar = cursor.advance (passed ++ [c]) := by
  rw [commitPeeked_peeked ⟨c :: rest, split.symm⟩]
  by_cases empty : passed = []
  · subst empty
    have commits := commit_peeked cursor (List.cons_ne_nil c [])
      ⟨rest, by simpa using split.symm⟩
    simp only [if_true, takeChar, peekChar_peeked [] split, List.nil_append, commits]
  · have left : (cursor.advance passed).position.rest = c :: rest :=
      Place.rest_past_of_split split
    have peeks := (settled_advance cursor passed).peekChar_eq left
    have commits := commit_peeked (cursor.advance passed) (List.cons_ne_nil c [])
      ⟨rest, left.symm⟩
    simp only [empty, if_false, takeChar, peeks, commits, advance_advance]

/-- Seeking a character peeks what stands before its next occurrence. -/
theorem seek_of_split (split : cursor.position.rest = passed ++ c :: rest) (absent : c ∉ passed) :
    cursor.seek c = (true, cursor.peeked passed) := by
  have member : c ∈ cursor.position.rest := by simp [split]
  have before : cursor.position.rest.takeWhile (· != c) = passed := by
    rw [split, takeWhile_bne_append absent]
    simp
  simp [seek, Place.seek?_eq, member, before, peeked]

theorem seek_of_absent (cursor : Cursor) (absent : c ∉ cursor.position.rest) :
    cursor.seek c = (false, cursor) := by
  simp [seek, Place.seek?_eq, absent]

/-- Peeking by the size of a beginning peeks this beginning. -/
theorem Settled.peek_size (settled : cursor.Settled) (beginning : passed <+: cursor.position.rest) :
    cursor.peek (size passed) = cursor.peeked passed := by
  have same : cursor.lookahead = cursor.position := settled
  simp [peek, peeked, same, Place.skip_size beginning]

/-- The text and the saved positions are the same. -/
def SameFrame (first second : Cursor) : Prop :=
  second.text = first.text ∧ second.saved = first.saved

theorem SameFrame.refl (cursor : Cursor) : SameFrame cursor cursor := ⟨rfl, rfl⟩

theorem SameFrame.trans {first second third : Cursor} (before : SameFrame first second)
    (after : SameFrame second third) : SameFrame first third :=
  ⟨after.1.trans before.1, after.2.trans before.2⟩

theorem sameFrame_peekChar (cursor : Cursor) : SameFrame cursor cursor.peekChar.2 := by
  rw [peekChar]
  split <;> exact .refl _

theorem sameFrame_restore (cursor : Cursor) : SameFrame cursor cursor.restore := ⟨rfl, rfl⟩

theorem sameFrame_commit (cursor : Cursor) : SameFrame cursor cursor.commit.2 := ⟨rfl, rfl⟩

theorem sameFrame_peek (cursor : Cursor) (n : Nat) : SameFrame cursor (cursor.peek n) := ⟨rfl, rfl⟩

theorem sameFrame_seek (cursor : Cursor) (target : Char) :
    SameFrame cursor (cursor.seek target).2 := by
  rw [seek]
  split <;> exact .refl _

theorem sameFrame_commitPeeked (cursor : Cursor) : SameFrame cursor cursor.commitPeeked.2 := by
  rw [commitPeeked]
  split
  · exact sameFrame_commit cursor
  · exact .refl _

theorem sameFrame_takeChar (cursor : Cursor) : SameFrame cursor cursor.takeChar :=
  (sameFrame_peekChar cursor).trans (sameFrame_commit _)

end Cursor

end PatternLexer
