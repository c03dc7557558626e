import PatternLexer.Proofs.Cursor.Advance

/-!
# Cursors that look ahead

The lookahead of a cursor stands at its position or further on in the text. Such a cursor
is proper. On a proper cursor no operation that reads moves the position back, and the
cursor stays proper; `Onward` says both.

Where nothing has been peeked a proper cursor is settled. Otherwise what is read next may
begin at the lookahead, while spans are taken from the position.
-/

namespace PatternLexer

namespace Place

variable {first last : Place}

theorem Reaches.eq_of_offset (reaches : first.Reaches last) (same : last.offset = first.offset) :
    last = first := by
  rcases reaches with ⟨passed, rest, offset⟩
  have empty : passed = [] := by
    apply Text.size_eq_zero_iff.mp
    omega
  cases first
  cases last
  simp_all

/-- Moving forward by the distance to a later place leads to this place. -/
theorem skip_of_reaches (reaches : first.Reaches last) :
    first.skip (last.offset - first.offset) = last := by
  rcases reaches with ⟨passed, rest, offset⟩
  have distance : last.offset - first.offset = Text.size passed := by omega
  rw [distance, skip_size ⟨last.rest, rest.symm⟩]
  cases last
  simp_all [past]

end Place

namespace Cursor

variable {cursor moved further : Cursor}

/-- The lookahead stands at the position or further on. -/
def Proper (cursor : Cursor) : Prop := cursor.position.Reaches cursor.lookahead

/-- The cursor is moved on, or stays, and is proper. -/
structure Onward (cursor moved : Cursor) : Prop where
  proper : moved.Proper
  reaches : cursor.position.Reaches moved.position

theorem Settled.proper (settled : cursor.Settled) : cursor.Proper := by
  rw [Proper, settled]
  exact .refl _

theorem Proper.onward (proper : cursor.Proper) : cursor.Onward cursor := ⟨proper, .refl _⟩

theorem Onward.trans (first : cursor.Onward moved) (second : moved.Onward further) :
    cursor.Onward further :=
  ⟨second.proper, first.reaches.trans second.reaches⟩

theorem onward_restore (cursor : Cursor) : cursor.Onward cursor.restore :=
  ⟨(settled_restore cursor).proper, .refl _⟩

theorem Proper.onward_peekChar (proper : cursor.Proper) : cursor.Onward cursor.peekChar.2 := by
  rw [peekChar]
  split
  · rename_i following next
    exact ⟨proper.trans (Place.reaches_of_next? next), .refl _⟩
  · exact proper.onward

theorem Proper.onward_peek (proper : cursor.Proper) (n : Nat) : cursor.Onward (cursor.peek n) :=
  ⟨proper.trans (Place.reaches_skip cursor.lookahead n), .refl _⟩

theorem Proper.onward_seek (proper : cursor.Proper) (target : Char) :
    cursor.Onward (cursor.seek target).2 := by
  rw [seek]
  split
  · rename_i found sought
    exact ⟨Place.reaches_of_seek? sought, .refl _⟩
  · exact proper.onward

theorem position_seek (cursor : Cursor) (target : Char) :
    (cursor.seek target).2.position = cursor.position := by
  rw [seek]
  split <;> rfl

theorem Proper.reaches_commitStop (proper : cursor.Proper) :
    cursor.position.Reaches cursor.commitStop := by
  rw [commitStop]
  split
  · cases next : cursor.position.next? with
    | none => exact .refl _
    | some step => exact Place.reaches_of_next? next
  · exact proper

theorem Proper.onward_commit (proper : cursor.Proper) : cursor.Onward cursor.commit.2 :=
  ⟨(settled_moveTo cursor cursor.commitStop).proper, proper.reaches_commitStop⟩

/-- Consuming what has been peeked leads to the lookahead. -/
theorem Proper.position_commitPeeked (proper : cursor.Proper) :
    cursor.commitPeeked.2.position = cursor.lookahead := by
  rw [commitPeeked]
  split
  · rename_i ahead
    have apart : cursor.lookahead.offset ≠ cursor.position.offset := by omega
    simp [commit, commitStop, moveTo, apart]
  · have same : cursor.lookahead.offset = cursor.position.offset := by
      have := Place.Reaches.offset_le proper
      omega
    exact (Place.Reaches.eq_of_offset proper same).symm

theorem Proper.onward_commitPeeked (proper : cursor.Proper) :
    cursor.Onward cursor.commitPeeked.2 := by
  rw [commitPeeked]
  split
  · exact proper.onward_commit
  · exact proper.onward

theorem Proper.onward_takeChar (proper : cursor.Proper) : cursor.Onward cursor.takeChar :=
  proper.onward_peekChar.trans proper.onward_peekChar.proper.onward_commit

end Cursor

end PatternLexer
