import Mathlib.Data.List.Forall2
import PatternLexer.Proofs.Registry.Compilation

/-!
# The iterations of compilation

Compilation reads one item after another until the pattern ends or something is wrong. Every such
iteration begins with nothing peeked and consumes at least one character, also the one that ends
the compilation with an error (`Reads.iterates`). So there are no more iterations than there are
characters. The list of the iterations is complete, whatever the compilation comes to
(`reads_iterations`), and if the pattern compiles, each of them reads one of its items
(`Reads.forall₂_readIn`).
-/

namespace PatternLexer

namespace Registry

open Text

variable {registry : Registry} {cursor : Cursor} {name text rest : List Char}

/-- Where reading an item leaves the cursor, whether or not something is wrong with the item. -/
def leave (cursor : Cursor) : Cursor :=
  let (first, next) := cursor.peekChar
  if first = some '{' then
    let (closed, found) := next.commit.2.seek '}'
    if closed then
      let (name, named) := found.commitPeeked
      if '{' ∈ name.toList then named else named.takeChar
    else found
  else
    let (found, sought) := next.restore.seek '{'
    (if found then sought else sought.peek (size next.restore.position.rest)).commit.2

/-- The iterations of reading items from a cursor on, each with the cursor where it begins and the
one where it ends. -/
def iterationsFrom (registry : Registry) : (ahead : List Char) → Cursor → List (Cursor × Cursor)
  | [], _ => []
  | _ :: ahead, cursor =>
      if cursor.atEnd then []
      else
        (cursor, leave cursor) ::
          match registry.readItem cursor with
          | .error _ => []
          | .ok (_, next) => registry.iterationsFrom ahead next

/-- The iterations of compiling a pattern. -/
def iterations (registry : Registry) (pattern : String) : List (Cursor × Cursor) :=
  registry.iterationsFrom pattern.toList (Cursor.start pattern)

/-- An iteration begins with nothing peeked and consumes some text. What it leaves to the next one
is the cursor where it ends. -/
structure Iterates (registry : Registry) (begins ends : Cursor) : Prop where
  settled : begins.Settled
  consumes : ∃ passed ≠ [], passed <+: begins.position.rest ∧ ends = begins.advance passed
  leaves (item : Item) (next : Cursor) : registry.readItem begins = .ok (item, next) → next = ends

theorem leave_brace (settled : cursor.Settled) (split : cursor.position.rest = '{' :: rest) :
    leave cursor =
      let (closed, found) := (cursor.advance ['{']).seek '}'
      if closed then
        let (name, named) := found.commitPeeked
        if '{' ∈ name.toList then named else named.takeChar
      else found := by
  have commits := cursor.commit_peeked (List.cons_ne_nil '{' []) ⟨rest, split.symm⟩
  simp [leave, settled.peekChar_eq split, commits]

theorem leave_reference (settled : cursor.Settled)
    (split : cursor.position.rest = '{' :: (name ++ '}' :: rest)) (unbraced : '}' ∉ name) :
    leave cursor = cursor.advance ('{' :: if '{' ∈ name then name else name ++ ['}']) := by
  have left : (cursor.advance ['{']).position.rest = name ++ '}' :: rest :=
    Place.rest_past_of_split (by simpa using split)
  have begins : name <+: (cursor.advance ['{']).position.rest := ⟨_, left.symm⟩
  rw [leave_brace settled split]
  simp only [Cursor.seek_of_split left unbraced, if_true, Cursor.fst_commitPeeked _ begins,
    String.toList_ofList]
  by_cases nested : '{' ∈ name
  · have nonempty : name ≠ [] := List.ne_nil_of_mem nested
    simp [nested, Cursor.commitPeeked_peeked begins, nonempty, Cursor.advance_advance]
  · simp [nested, Cursor.takeChar_commitPeeked left, Cursor.advance_advance]

theorem leave_unclosed (settled : cursor.Settled) (split : cursor.position.rest = '{' :: rest)
    (unbraced : '}' ∉ rest) : leave cursor = cursor.advance ['{'] := by
  have left : (cursor.advance ['{']).position.rest = rest :=
    Place.rest_past_of_split (by simpa using split)
  rw [leave_brace settled split]
  simp [Cursor.seek_of_absent (cursor.advance ['{']) (left ▸ unbraced)]

theorem leave_literal (settled : cursor.Settled) (split : cursor.position.rest = text ++ rest)
    (nonempty : text ≠ []) (unbraced : '{' ∉ text)
    (boundary : rest.head?.all (· = '{') = true) : leave cursor = cursor.advance text := by
  have ahead := peeks_literal settled split unbraced boundary
  have commits := cursor.commit_peeked nonempty ⟨rest, split.symm⟩
  cases text with
  | nil => exact absurd rfl nonempty
  | cons c text =>
      have different : c ≠ '{' := fun same => unbraced (same ▸ List.mem_cons_self)
      have peeks := settled.peekChar_eq (by simpa using split)
      simp [leave, peeks, different, Cursor.restore_peeked, settled.restore_eq, ahead, commits]

/-- What is read is the item of a segment, and the cursor is then behind the segment. -/
theorem next_of_readItem {segment : Segment} {passed : List Char} {item : Item} {next : Cursor}
    (reads : registry.readItem cursor =
      (segment.compile registry).map fun item => (item, cursor.advance passed))
    (succeeds : registry.readItem cursor = .ok (item, next)) :
    (∃ compiled, segment.compile registry = .ok compiled) ∧ next = cursor.advance passed := by
  rw [succeeds] at reads
  cases compiled : segment.compile registry with
  | error error =>
      rw [compiled] at reads
      cases reads
  | ok compiled =>
      rw [compiled] at reads
      cases reads
      exact ⟨⟨item, rfl⟩, rfl⟩

/-- An iteration that begins with nothing peeked, before the end of the pattern, consumes some
text. -/
theorem iterates_leave (registry : Registry) (settled : cursor.Settled)
    (goesOn : cursor.atEnd = false) : registry.Iterates cursor (leave cursor) := by
  induction left : cursor.position.rest using Segment.induction with
  | nil => simp [Cursor.atEnd, left] at goesOn
  | reference name rest unbraced =>
      have leaves := leave_reference settled left unbraced
      refine ⟨settled, ⟨_, List.cons_ne_nil _ _, ?_, leaves⟩, ?_⟩
      · rw [left]
        split
        · exact ⟨'}' :: rest, rfl⟩
        · exact ⟨rest, by simp⟩
      · intro item next succeeds
        obtain ⟨⟨compiled, compiles⟩, rfl⟩ :=
          next_of_readItem (readItem_reference registry settled left unbraced) succeeds
        have unopened : '{' ∉ name := by
          rw [Segment.compile] at compiles
          split at compiles
          · cases compiles
          · exact offset?_eq_none_iff.mp ‹_›
        rw [leaves, if_neg unopened]
  | unclosed rest unbraced =>
      have leaves := leave_unclosed settled left unbraced
      refine ⟨settled, ⟨['{'], List.cons_ne_nil _ _, ?_, leaves⟩, ?_⟩
      · rw [left]
        exact ⟨rest, rfl⟩
      · intro item next succeeds
        rw [readItem_unclosed registry settled left unbraced] at succeeds
        cases succeeds
  | literal text rest nonempty unbraced boundary =>
      have leaves := leave_literal settled left nonempty unbraced boundary
      refine ⟨settled, ⟨text, nonempty, ⟨rest, left.symm⟩, leaves⟩, ?_⟩
      intro item next succeeds
      have reads := readItem_literal registry settled left nonempty unbraced boundary
      rw [leaves, (next_of_readItem reads succeeds).2]

/-- An iteration ends with nothing peeked. -/
theorem Iterates.settled_ends {begins ends : Cursor} (iterates : registry.Iterates begins ends) :
    ends.Settled := by
  obtain ⟨passed, -, -, rfl⟩ := iterates.consumes
  exact Cursor.settled_advance begins passed

/-- The iterations that reading items from a cursor on goes through, and what it comes to. -/
inductive Reads (registry : Registry) :
    Cursor → List (Cursor × Cursor) → Except PatternError Sequence → Prop where
  | finish {cursor : Cursor} (ends : cursor.atEnd = true) : Reads registry cursor [] (.ok [])
  | fail {cursor : Cursor} {error : PatternError} (goesOn : cursor.atEnd = false)
      (fails : registry.readItem cursor = .error error) :
      Reads registry cursor [(cursor, leave cursor)] (.error error)
  | item {cursor next : Cursor} {item : Item} {iterations : List (Cursor × Cursor)}
      {result : Except PatternError Sequence} (goesOn : cursor.atEnd = false)
      (succeeds : registry.readItem cursor = .ok (item, next))
      (further : Reads registry next iterations result) :
      Reads registry cursor ((cursor, next) :: iterations) (result.map (item :: ·))

theorem reads_iterationsFrom {ahead : List Char} (settled : cursor.Settled)
    (enough : cursor.position.rest.length ≤ ahead.length) :
    registry.Reads cursor (registry.iterationsFrom ahead cursor)
      (registry.readItems ahead cursor) := by
  induction ahead generalizing cursor with
  | nil =>
      have nothing := List.eq_nil_of_length_eq_zero (Nat.le_zero.mp enough)
      exact .finish (by simp [Cursor.atEnd, nothing])
  | cons c ahead ih =>
      rw [iterationsFrom, readItems]
      cases goesOn : cursor.atEnd with
      | true => exact .finish goesOn
      | false =>
          simp only [Bool.false_eq_true, if_false]
          cases here : registry.readItem cursor with
          | error error => exact .fail goesOn here
          | ok read =>
              obtain ⟨item, next⟩ := read
              have iterates := iterates_leave registry settled goesOn
              have behind := iterates.leaves item next here
              rw [← behind] at iterates ⊢
              refine .item goesOn here (ih iterates.settled_ends ?_)
              -- The text that this iteration consumes counts against what is ahead.
              obtain ⟨passed, nonempty, -, same⟩ := iterates.consumes
              have positive := List.length_pos_iff.mpr nonempty
              simp only [same, Cursor.position_advance, Place.past, List.length_drop]
              simp only [List.length_cons] at enough
              omega

/-- The iterations of compiling a pattern are those that reading its items goes through, the one
that fails included, and compilation comes to what they come to. -/
theorem reads_iterations (registry : Registry) (pattern : String) :
    registry.Reads (.start pattern) (registry.iterations pattern) (registry.sequenceOf pattern) :=
  reads_iterationsFrom (Cursor.settled_start pattern) (Nat.le_refl _)

/-- The item is read in the iteration. -/
def ReadIn (registry : Registry) (item : Item) (iteration : Cursor × Cursor) : Prop :=
  registry.readItem iteration.1 = .ok (item, iteration.2)

section Reads

variable {iterations : List (Cursor × Cursor)} {result : Except PatternError Sequence}

/-- Every iteration begins with nothing peeked and consumes some text, if the first one begins
so. -/
theorem Reads.iterates (reads : registry.Reads cursor iterations result)
    (settled : cursor.Settled) {begins ends : Cursor} (member : (begins, ends) ∈ iterations) :
    registry.Iterates begins ends := by
  induction reads with
  | finish => cases member
  | fail goesOn fails =>
      cases List.mem_singleton.mp member
      exact iterates_leave registry settled goesOn
  | item goesOn succeeds _ ih =>
      have here := iterates_leave registry settled goesOn
      rw [← here.leaves _ _ succeeds] at here
      rcases List.mem_cons.mp member with same | further
      · cases same
        exact here
      · exact ih here.settled_ends further

/-- The items that are read are read in the iterations, one in each. -/
theorem Reads.forall₂_readIn (reads : registry.Reads cursor iterations result) {items : Sequence}
    (succeeds : result = .ok items) : List.Forall₂ registry.ReadIn items iterations := by
  induction reads generalizing items with
  | finish =>
      cases succeeds
      exact .nil
  | fail => cases succeeds
  | @item cursor next item iterations result goesOn here further ih =>
      cases result with
      | error error => cases succeeds
      | ok others =>
          cases succeeds
          exact .cons here (ih rfl)

end Reads

end Registry

end PatternLexer
