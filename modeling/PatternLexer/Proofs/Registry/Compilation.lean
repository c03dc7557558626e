import PatternLexer.Proofs.Pattern.Segment
import PatternLexer.Registry.Compile

/-!
# What compiling a pattern comes to

Compilation reads a pattern with a cursor. Told without one, it compiles the
segments of the pattern one by one: `sequenceOf_eq_mapM` says that the cursor stops
just where the segments do.
-/

namespace PatternLexer

open Text

/-- The item of a segment. -/
def Segment.compile (registry : Registry) : Segment → Except PatternError Item
  | .unclosed offset _ => .error (.unclosedClass offset)
  | .reference offset name =>
      match offset? '{' name with
      | some nested => .error (.unexpectedBrace (offset + 1 + nested))
      | none => (registry.resolve (String.ofList name)).map fun matcher =>
          ⟨matcher, some (String.ofList name)⟩
  | .literal offset text =>
      match offset? '}' text with
      | some stray => .error (.unexpectedBrace (offset + stray))
      | none => .ok ⟨.literal text, none⟩

namespace Registry

variable {cursor : Cursor} {name text rest : List Char}

/-- Behind an opening brace a reference is read. -/
theorem readItem_brace (registry : Registry) (settled : cursor.Settled)
    (split : cursor.position.rest = '{' :: rest) :
    registry.readItem cursor = registry.readReference (cursor.advance ['{']) := by
  have commits := cursor.commit_peeked (List.cons_ne_nil '{' [])
    ⟨rest, split.symm⟩
  simp [readItem, settled.peekChar_eq split, commits]

theorem offset_advance_brace (cursor : Cursor) :
    (cursor.advance ['{']).position.offset - 1 = cursor.position.offset := by
  have brace : '{'.utf8Size = 1 := by decide
  simp [Place.past, brace]

theorem readItem_reference (registry : Registry) (settled : cursor.Settled)
    (split : cursor.position.rest = '{' :: (name ++ '}' :: rest)) (unbraced : '}' ∉ name) :
    registry.readItem cursor =
      ((Segment.reference cursor.position.offset name).compile registry).map
        fun item => (item, cursor.advance ('{' :: (name ++ ['}']))) := by
  have left : (cursor.advance ['{']).position.rest = name ++ '}' :: rest :=
    Place.rest_past_of_split (by simpa using split)
  rw [readItem_brace registry settled split]
  simp only [readReference, offset_advance_brace, Cursor.seek_of_split left unbraced, if_true,
    Cursor.fst_commitPeeked (cursor.advance ['{']) ⟨_, left.symm⟩,
    Cursor.takeChar_commitPeeked left, Cursor.advance_advance, String.toList_ofList,
    Segment.compile]
  cases offset? '{' name with
  | some nested => rfl
  | none => cases registry.resolve (String.ofList name) <;> rfl

theorem readItem_unclosed (registry : Registry) (settled : cursor.Settled)
    (split : cursor.position.rest = '{' :: rest) (unbraced : '}' ∉ rest) :
    registry.readItem cursor = .error (.unclosedClass cursor.position.offset) := by
  have left : (cursor.advance ['{']).position.rest = rest :=
    Place.rest_past_of_split (by simpa using split)
  rw [readItem_brace registry settled split]
  simp only [readReference, offset_advance_brace,
    Cursor.seek_of_absent (cursor.advance ['{']) (left ▸ unbraced)]
  rfl

/-- Literal text is peeked up to the next opening brace or the end. -/
theorem peeks_literal (settled : cursor.Settled) (split : cursor.position.rest = text ++ rest)
    (unbraced : '{' ∉ text) (boundary : rest.head?.all (· = '{') = true) :
    (if (cursor.seek '{').1 then (cursor.seek '{').2
      else (cursor.seek '{').2.peek (size cursor.position.rest)) = cursor.peeked text := by
  cases rest with
  | nil =>
      have beginning : text <+: cursor.position.rest := ⟨[], split.symm⟩
      rw [List.append_nil] at split
      have seeks := cursor.seek_of_absent (split ▸ unbraced)
      simp [seeks, split, settled.peek_size beginning]
  | cons c rest =>
      obtain rfl : c = '{' := by simpa using boundary
      simp [Cursor.seek_of_split split unbraced]

theorem readItem_literal (registry : Registry) (settled : cursor.Settled)
    (split : cursor.position.rest = text ++ rest) (nonempty : text ≠ []) (unbraced : '{' ∉ text)
    (boundary : rest.head?.all (· = '{') = true) :
    registry.readItem cursor =
      ((Segment.literal cursor.position.offset text).compile registry).map
        fun item => (item, cursor.advance text) := by
  have beginning : text <+: cursor.position.rest := ⟨rest, split.symm⟩
  have ahead := peeks_literal settled split unbraced boundary
  have reads : readText cursor =
      ((Segment.literal cursor.position.offset text).compile registry).map
        fun item => (item, cursor.advance text) := by
    simp only [readText, ahead, cursor.commit_peeked nonempty beginning, String.toList_ofList,
      Segment.compile]
    cases offset? '}' text <;> rfl
  cases text with
  | nil => exact absurd rfl nonempty
  | cons c text =>
      have different : c ≠ '{' := by
        simp only [List.mem_cons, not_or] at unbraced
        exact Ne.symm unbraced.1
      have peeks := settled.peekChar_eq (by simpa using split)
      simp only [readItem, peeks, Option.some.injEq, different, if_false, Cursor.restore_peeked,
        settled.restore_eq]
      exact reads

/-- An item that is read is consumed, and then the segments behind it are read. -/
theorem readItems_cons (registry : Registry) (ahead : List Char) {segment : Segment}
    {passed : List Char} (split : cursor.position.rest = passed ++ rest) (nonempty : passed ≠ [])
    (reads : registry.readItem cursor =
      (segment.compile registry).map fun item => (item, cursor.advance passed))
    (enough : cursor.position.rest.length ≤ ahead.length)
    (further : ∀ ahead : List Char, rest.length ≤ ahead.length →
      registry.readItems ahead (cursor.advance passed) =
        (Segment.segmentsFrom 0 (cursor.position.past passed).offset rest).mapM
          (Segment.compile registry)) :
    registry.readItems ahead cursor =
      (segment :: Segment.segmentsFrom 0 (cursor.position.past passed).offset rest).mapM
        (Segment.compile registry) := by
  have shorter : 0 < passed.length := List.length_pos_iff.mpr nonempty
  rw [split, List.length_append] at enough
  cases ahead with
  | nil =>
      simp only [List.length_nil] at enough
      omega
  | cons c ahead =>
      simp only [List.length_cons] at enough
      have goesOn : cursor.atEnd = false := by
        simp [Cursor.atEnd, split, nonempty]
      simp only [readItems, goesOn, Bool.false_eq_true, if_false, reads, List.mapM_cons]
      cases segment.compile registry with
      | error error => rfl
      | ok item =>
          simp only [Except.map, further ahead (by omega)]
          rfl

/-- The cursor reads segment by segment. -/
theorem readItems_eq_mapM (registry : Registry) (ahead : List Char) (settled : cursor.Settled)
    (enough : cursor.position.rest.length ≤ ahead.length) :
    registry.readItems ahead cursor =
      (Segment.segmentsFrom 0 cursor.position.offset cursor.position.rest).mapM
        (Segment.compile registry) := by
  generalize left : cursor.position.rest = pattern at enough
  induction pattern using Segment.induction generalizing cursor ahead with
  | nil =>
      have ends : cursor.atEnd = true := by simp [Cursor.atEnd, left]
      cases ahead <;> simp [readItems, ends, pure, Except.pure]
  | reference name rest unbraced ih =>
      rw [Segment.segmentsFrom_reference unbraced]
      have split : cursor.position.rest = ('{' :: (name ++ ['}'])) ++ rest := by simpa using left
      have size : (cursor.position.past ('{' :: (name ++ ['}']))).offset =
          cursor.position.offset + size name + 2 := by
        have braces : '{'.utf8Size = 1 ∧ '}'.utf8Size = 1 := by decide
        simp [Place.past, braces]
        omega
      have step := readItems_cons registry ahead split (List.cons_ne_nil _ _)
        (readItem_reference registry settled left unbraced) (by rw [left]; exact enough)
        fun ahead enough => ih ahead (Cursor.settled_advance _ _) (Place.rest_past_of_split split)
          enough
      rwa [size] at step
  | unclosed rest unbraced =>
      rw [Segment.segmentsFrom_unclosed unbraced]
      have goesOn : cursor.atEnd = false := by simp [Cursor.atEnd, left]
      cases ahead with
      | nil => simp at enough
      | cons c ahead =>
          simp only [readItems, goesOn, Bool.false_eq_true, if_false,
            readItem_unclosed registry settled left unbraced]
          rfl
  | literal text rest nonempty unbraced boundary ih =>
      rw [Segment.segmentsFrom_literal nonempty unbraced boundary]
      exact readItems_cons registry ahead left nonempty
        (readItem_literal registry settled left nonempty unbraced boundary)
        (by rw [left]; exact enough)
        fun ahead enough => ih ahead (Cursor.settled_advance _ _) (Place.rest_past_of_split left)
          enough

/-- A pattern compiles to the items of its segments, and the first segment that is
wrong decides the error. -/
theorem sequenceOf_eq_mapM (registry : Registry) (pattern : String) :
    registry.sequenceOf pattern =
      (Segment.segments pattern).mapM (Segment.compile registry) :=
  readItems_eq_mapM registry pattern.toList (Cursor.settled_start pattern) (Nat.le_refl _)

end Registry

end PatternLexer
