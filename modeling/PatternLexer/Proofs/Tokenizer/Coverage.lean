import PatternLexer.Proofs.Tokenizer.Locality

/-!
# Inputs that tokens cover

Findings cover a stretch of the input when each begins where the one before it ends. The
visits of an input drop nothing just where their findings cover it (`cover_visits_iff`). So a
run that fails for characters that nothing consumes succeeds just where its tokens cover its
input, if the callbacks succeed (`run_error_ok_iff_cover`).
-/

namespace PatternLexer

open Text

variable {ε : Type}

/-- The findings follow one another without gaps, from an offset to another one. -/
def Finding.Cover : (findings : List Finding) → (first last : Nat) → Prop
  | [], first, last => first = last
  | finding :: others, first, last =>
      finding.pos = first ∧ Cover others (first + finding.lexeme.utf8ByteSize) last

/-- What is left to cover is not covered by findings that come later. -/
theorem Finding.not_cover_of_later {findings : List Finding} {first last : Nat}
    (left : first < last) (later : ∀ finding ∈ findings, first < finding.pos) :
    ¬ Cover findings first last := by
  cases findings with
  | nil => exact Nat.ne_of_lt left
  | cons finding others =>
      rintro ⟨here, -⟩
      exact Nat.ne_of_gt (later finding List.mem_cons_self) here

namespace Visit

variable {patterns : List Sequence} {source : String} {place : Place} {path : List Visit}
  {last : Nat}

/-- Either something is found, and it is all that is passed over, or a character is dropped. -/
theorem finding?_or_dropped (patterns : List Sequence) (nonempty : place.rest ≠ []) :
    (∃ finding, place.finding? patterns = some finding ∧ finding.pos = place.offset ∧
        finding.lexeme.utf8ByteSize = size (passedFrom patterns place.rest) ∧
        droppedFrom patterns place.rest = none) ∨
      place.finding? patterns = none ∧ ∃ c, droppedFrom patterns place.rest = some c := by
  obtain ⟨c, rest, left⟩ := List.exists_cons_of_ne_nil nonempty
  rw [Place.finding?, droppedFrom, passedFrom, left]
  cases Sequence.firstOf? patterns (c :: rest) with
  | none => exact .inr ⟨rfl, c, rfl⟩
  | some chosen =>
      obtain ⟨rule, items, taken⟩ := chosen
      cases taken with
      | nil => exact .inr ⟨rfl, c, rfl⟩
      | cons d taken =>
          refine .inl ⟨_, rfl, rfl, ?_, rfl⟩
          rw [← size_toList, String.toList_ofList]

theorem Tile.offset_le_pos (tile : Tile patterns source place path) {finding : Finding}
    (member : finding ∈ path.filterMap finding?) : place.offset ≤ finding.pos := by
  induction tile with
  | finish => cases member
  | @visit place visits nonempty further ih =>
      rw [List.filterMap_cons, finding?_of] at member
      rcases finding?_or_dropped patterns nonempty with ⟨found, here, pos, -⟩ | ⟨nothing, -⟩
      · rw [here] at member
        rcases List.mem_cons.mp member with rfl | member
        · exact Nat.le_of_eq pos.symm
        · exact Nat.le_trans (Nat.le_add_right _ _) (ih member)
      · rw [nothing] at member
        exact Nat.le_trans (Nat.le_add_right _ _) (ih member)

/-- The end of the text does not move. -/
theorem end_past_passedFrom (patterns : List Sequence)
    (ends : last = place.offset + size place.rest) :
    last = (place.past (passedFrom patterns place.rest)).offset +
      size (place.past (passedFrom patterns place.rest)).rest := by
  obtain ⟨rest, split⟩ := isPrefix_passedFrom patterns place.rest
  have whole : size place.rest = size (passedFrom patterns place.rest) + size rest := by
    rw [← size_append, split]
  rw [Place.rest_past_of_split split.symm, ends, whole, ← Nat.add_assoc]
  rfl

theorem offset_lt_end (nonempty : place.rest ≠ []) (ends : last = place.offset + size place.rest) :
    place.offset < last := by
  have positive := mt size_eq_zero_iff.mp nonempty
  omega

/-- Findings cover the text from a place on just where nothing is dropped. -/
theorem Tile.cover_iff (tile : Tile patterns source place path)
    (ends : last = place.offset + size place.rest) :
    Finding.Cover (path.filterMap finding?) place.offset last ↔
      ∀ visit ∈ path, visit.dropped = none := by
  induction tile with
  | @finish place done => simp [Finding.Cover, ends, done]
  | @visit place visits nonempty further ih =>
      have others := ih (end_past_passedFrom patterns ends)
      rw [List.forall_mem_cons, List.filterMap_cons, finding?_of]
      rcases finding?_or_dropped patterns nonempty with
        ⟨found, here, pos, size, undropped⟩ | ⟨nothing, c, dropped⟩
      · have idle : (of patterns source place).dropped = none := undropped
        rw [here, Finding.Cover, size, ← others]
        simp [pos, idle, Place.past]
      · have drops : (of patterns source place).dropped = some c := dropped
        rw [nothing, drops]
        constructor
        · intro covered
          refine absurd covered (Finding.not_cover_of_later (offset_lt_end nonempty ends) ?_)
          intro finding member
          have positive := mt size_eq_zero_iff.mp (passedFrom_ne_nil patterns nonempty)
          have further := further.offset_le_pos member
          simp only [Place.past] at further
          omega
        · intro absurd
          cases absurd.1

/-- A course that may not drop characters ends well just where what it finds covers the text. -/
theorem Tile.course_error_ok_iff (tile : Tile patterns source place path)
    (ends : last = place.offset + size place.rest) :
    (course .error path : List (Event ε) × _).2 = .ok () ↔
      Finding.Cover ((course .error path : List (Event ε) × _).1.filterMap Event.finding?)
        place.offset last := by
  induction tile with
  | @finish place done => simp [course, Finding.Cover, ends, done]
  | @visit place visits nonempty further ih =>
      have others := ih (end_past_passedFrom patterns ends)
      have here := finding?_of patterns source place
      rw [course, result]
      rcases finding?_or_dropped patterns nonempty with
        ⟨found, finds, pos, size, undropped⟩ | ⟨nothing, c, dropped⟩
      · have idle : (of patterns source place).dropped = none := undropped
        simp only [idle, List.filterMap_append, filterMap_finding?_events, here, finds, others]
        simp [Finding.Cover, pos, size, Place.past]
      · have drops : (of patterns source place).dropped = some c := dropped
        simp only [drops, UnmatchedPolicy.result, filterMap_finding?_events, here, nothing]
        have uncovered := Nat.ne_of_lt (offset_lt_end nonempty ends)
        simp [Finding.Cover, uncovered]

theorem cover_visits_iff (patterns : List Sequence) (input : String) :
    Finding.Cover ((visits patterns input).filterMap finding?) 0 input.utf8ByteSize ↔
      ∀ visit ∈ visits patterns input, visit.dropped = none := by
  by_cases empty : input = ""
  · subst empty
    rw [visits_empty, List.filterMap_cons, finding?_of, finding?_of_end rfl]
    simp [Finding.Cover, of, Place.start]
  · apply (tile_visits patterns empty).cover_iff
    simp [Place.start, size_toList]

theorem course_error_visits_ok_iff (patterns : List Sequence) (input : String) :
    (course .error (visits patterns input) : List (Event ε) × _).2 = .ok () ↔
      Finding.Cover ((course .error (visits patterns input) : List (Event ε) × _).1.filterMap
        Event.finding?) 0 input.utf8ByteSize := by
  by_cases empty : input = ""
  · subst empty
    have idle : (of patterns "" (.start [])).dropped = none := droppedFrom_nil patterns
    rw [visits_empty, course, result, idle]
    simp [course, filterMap_finding?_events, finding?_of, finding?_of_end, Place.start,
      Finding.Cover]
  · apply (tile_visits patterns empty).course_error_ok_iff
    simp [Place.start, size_toList]

end Visit

namespace Tokenizer

/-- A run that fails for characters that nothing consumes, and whose callbacks succeed, succeeds
just where its tokens cover its input. -/
theorem run_error_ok_iff_cover {tokenizer : Tokenizer ε} {nesting : Nat} {input : String}
    (pending : tokenizer.pending = none) (strict : tokenizer.unmatched = .error)
    (succeeds : tokenizer.CallbacksSucceed (tokenizer.answers nesting)
      (tokenizer.run nesting input)) :
    (tokenizer.run nesting input).result = .ok () ↔
      Finding.Cover (tokenizer.run nesting input).findings 0 input.utf8ByteSize := by
  obtain ⟨result, events⟩ := run_eq_course pending succeeds
  rw [Outcome.findings, result, events, strict]
  exact Visit.course_error_visits_ok_iff tokenizer.patterns input

end Tokenizer

end PatternLexer
