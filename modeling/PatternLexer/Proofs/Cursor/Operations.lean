import PatternLexer.Proofs.Cursor.Lookahead

/-!
# Operations on a cursor

Everything that can be asked of a cursor is an `Operation`; `performAll` does some of them
in order, from any cursor.

The places that a cursor holds stand in its text one behind another: the saved positions in
the order in which they were saved, the position, and the lookahead. A cursor is well placed
when this is so. Seeking moves the lookahead back, and going back to a saved position moves
the position back, but neither changes the order, so every cursor is well placed that
operations can lead to (`wellPlaced_reached`).
-/

namespace PatternLexer

namespace Cursor

/-- What can be asked of a cursor. The last five look at it only. -/
inductive Operation where
  | peekChar
  | peek (n : Nat)
  | seek (target : Char)
  | commit
  | restore
  | save
  | rollback
  | source
  | position
  | lookahead
  | atEnd
  | remainder
  deriving DecidableEq, Repr

/-- What an operation answers. -/
inductive Answer where
  | done
  | char (c : Option Char)
  | whether (holds : Bool)
  | text (text : String)
  | bytes (n : Nat)
  deriving DecidableEq, Repr

/-- Do one operation. -/
def perform : Operation → Cursor → Answer × Cursor
  | .peekChar, cursor => (.char cursor.peekChar.1, cursor.peekChar.2)
  | .peek n, cursor => (.done, cursor.peek n)
  | .seek target, cursor => (.whether (cursor.seek target).1, (cursor.seek target).2)
  | .commit, cursor => (.text cursor.commit.1, cursor.commit.2)
  | .restore, cursor => (.done, cursor.restore)
  | .save, cursor => (.done, cursor.save)
  | .rollback, cursor => (.bytes cursor.rollback.1, cursor.rollback.2)
  | .source, cursor => (.text cursor.text, cursor)
  | .position, cursor => (.bytes cursor.position.offset, cursor)
  | .lookahead, cursor => (.bytes cursor.lookahead.offset, cursor)
  | .atEnd, cursor => (.whether cursor.atEnd, cursor)
  | .remainder, cursor => (.text cursor.remainder, cursor)

/-- Do some operations in order, with all their answers. -/
def performAll : List Operation → Cursor → List Answer × Cursor
  | [], cursor => ([], cursor)
  | operation :: others, cursor =>
      let (answer, next) := cursor.perform operation
      let (answers, last) := performAll others next
      (answer :: answers, last)

/-- The cursor that some operations lead to from the beginning of a text. -/
def reached (text : String) (operations : List Operation) : Cursor :=
  ((start text).performAll operations).2

variable {cursor moved : Cursor}

/-- The saved positions, the position and the lookahead stand in the text one behind
another. -/
structure WellPlaced (cursor : Cursor) : Prop where
  proper : cursor.Proper
  ofText : (Place.start cursor.text.toList).Reaches cursor.position
  saved_ofText : ∀ place ∈ cursor.saved, (Place.start cursor.text.toList).Reaches place
  saved_reaches : ∀ place ∈ cursor.saved, place.Reaches cursor.position
  saved_ordered : cursor.saved.Pairwise fun later earlier => earlier.Reaches later

theorem wellPlaced_start (text : String) : (start text).WellPlaced where
  proper := (settled_start text).proper
  ofText := .refl _
  saved_ofText := by simp [start, ofPlace]
  saved_reaches := by simp [start, ofPlace]
  saved_ordered := .nil

/-- The lookahead stands in the text as well. -/
theorem WellPlaced.lookahead_ofText (placed : cursor.WellPlaced) :
    (Place.start cursor.text.toList).Reaches cursor.lookahead :=
  placed.ofText.trans placed.proper

/-- Reading moves on from where the cursor stands, so it keeps the order. -/
theorem WellPlaced.of_onward (placed : cursor.WellPlaced) (onward : cursor.Onward moved)
    (same : SameFrame cursor moved) : moved.WellPlaced := by
  obtain ⟨text, saved⟩ := same
  constructor
  · exact onward.proper
  · rw [text]
    exact placed.ofText.trans onward.reaches
  · rw [text, saved]
    exact placed.saved_ofText
  · intro place member
    rw [saved] at member
    exact (placed.saved_reaches place member).trans onward.reaches
  · rw [saved]
    exact placed.saved_ordered

theorem WellPlaced.save (placed : cursor.WellPlaced) : cursor.save.WellPlaced where
  proper := placed.proper
  ofText := placed.ofText
  saved_ofText := List.forall_mem_cons.mpr ⟨placed.ofText, placed.saved_ofText⟩
  saved_reaches := List.forall_mem_cons.mpr ⟨.refl _, placed.saved_reaches⟩
  saved_ordered := List.pairwise_cons.mpr ⟨placed.saved_reaches, placed.saved_ordered⟩

/-- The place that is gone back to stands behind all that were saved before it. -/
theorem WellPlaced.rollback (placed : cursor.WellPlaced) : cursor.rollback.2.WellPlaced := by
  rw [Cursor.rollback]
  split
  · exact placed
  · rename_i place saved stack
    have inText := placed.saved_ofText
    have ordered := placed.saved_ordered
    rw [stack, List.forall_mem_cons] at inText
    rw [stack, List.pairwise_cons] at ordered
    exact {
      proper := (settled_moveTo cursor place).proper
      ofText := inText.1
      saved_ofText := inText.2
      saved_reaches := ordered.1
      saved_ordered := ordered.2 }

/-- Every operation keeps a cursor well placed. -/
theorem WellPlaced.perform (placed : cursor.WellPlaced) (operation : Operation) :
    (cursor.perform operation).2.WellPlaced := by
  cases operation with
  | peekChar => exact placed.of_onward placed.proper.onward_peekChar (sameFrame_peekChar cursor)
  | peek n => exact placed.of_onward (placed.proper.onward_peek n) (sameFrame_peek cursor n)
  | seek target =>
      exact placed.of_onward (placed.proper.onward_seek target) (sameFrame_seek cursor target)
  | commit => exact placed.of_onward placed.proper.onward_commit (sameFrame_commit cursor)
  | restore => exact placed.of_onward (onward_restore cursor) (sameFrame_restore cursor)
  | save => exact placed.save
  | rollback => exact placed.rollback
  | source | position | lookahead | atEnd | remainder => exact placed

theorem WellPlaced.performAll (placed : cursor.WellPlaced) (operations : List Operation) :
    (cursor.performAll operations).2.WellPlaced := by
  induction operations generalizing cursor with
  | nil => exact placed
  | cons operation others ih => exact ih (placed.perform operation)

theorem text_perform (cursor : Cursor) (operation : Operation) :
    (cursor.perform operation).2.text = cursor.text := by
  cases operation with
  | peekChar => exact (sameFrame_peekChar cursor).1
  | seek target => exact (sameFrame_seek cursor target).1
  | rollback =>
      simp only [perform, rollback]
      split <;> rfl
  | peek | commit | restore | save | source | position | lookahead | atEnd | remainder => rfl

theorem text_performAll (cursor : Cursor) (operations : List Operation) :
    (cursor.performAll operations).2.text = cursor.text := by
  induction operations generalizing cursor with
  | nil => rfl
  | cons operation others ih => exact (ih _).trans (text_perform cursor operation)

/-- Every cursor that operations lead to is well placed. -/
theorem wellPlaced_reached (text : String) (operations : List Operation) :
    (reached text operations).WellPlaced :=
  (wellPlaced_start text).performAll operations

@[simp] theorem text_reached (text : String) (operations : List Operation) :
    (reached text operations).text = text :=
  text_performAll (start text) operations

end Cursor

end PatternLexer
