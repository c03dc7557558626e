import PatternLexer.Proofs.Cursor.Operations
import PatternLexer.Proofs.Pattern.Concatenation

/-!
# Matching with a lookahead

What has been peeked before a sequence is matched is not given up. The first matcher that
looks at the text reads on from the lookahead, and its match takes the peeked text as well,
just as if this were literal text in front of what it reads (`Sequence.preceded`). Lines are
the exception, since they are sought from the position. A matcher that does not look at the
text leaves the lookahead to the next one.

Main statement: `match?_eq_preceded`, for every cursor that operations can lead to. Where
nothing has been peeked the two sequences match alike; elsewhere a sequence may match at the
lookahead and fail at the position, or the other way round.
-/

namespace PatternLexer

open Text

/-- Whether a matcher comes to its result without looking at the text. -/
def Matcher.idle : Matcher → Bool
  | .literal text => text.isEmpty
  | .run _ _ max => !mayGrow max 0
  | .line => false
  | .quoted _ => false
  | .alternation [] => true
  | .alternation (items :: _) => items.isEmpty
  | .pattern items => items.isEmpty

mutual

/-- A matcher that takes literal text before what it reads. A run that may be empty does
without this text where it is empty. -/
def Matcher.preceded (passed : List Char) : Matcher → Matcher
  | .literal text => .literal (passed ++ text)
  | .run test 0 max => .alternation [[⟨.literal passed, none⟩, ⟨.run test 1 max, none⟩], []]
  | .run test (min + 1) max =>
      .pattern [⟨.literal passed, none⟩, ⟨.run test (min + 1) max, none⟩]
  | .line => .line
  | .quoted quote => .pattern [⟨.literal passed, none⟩, ⟨.quoted quote, none⟩]
  | .alternation alternatives => .alternation (Sequence.firstPreceded passed alternatives)
  | .pattern items => .pattern (Sequence.preceded passed items)

/-- Some sequences, the first with literal text before what it reads. -/
def Sequence.firstPreceded (passed : List Char) : List Sequence → List Sequence
  | [] => []
  | items :: others => Sequence.preceded passed items :: others

/-- A sequence with literal text before the first thing that it reads. -/
def Sequence.preceded (passed : List Char) : Sequence → Sequence
  | [] => []
  | ⟨matcher, capture⟩ :: others =>
      if matcher.idle then ⟨matcher, capture⟩ :: Sequence.preceded passed others
      else ⟨matcher.preceded passed, capture⟩ :: others

end

@[simp] theorem Sequence.preceded_eq_nil_iff {passed : List Char} {items : Sequence} :
    items.preceded passed = [] ↔ items = [] := by
  cases items with
  | nil => simp [preceded]
  | cons item others =>
      rw [preceded]
      split <;> simp

/-- Items without a name capture nothing. -/
theorem Sequence.captured_of_unnamed {items : Sequence} (source : String)
    (unnamed : ∀ item ∈ items, item.capture = none) (place : Place) :
    items.captured source place = [] := by
  induction items generalizing place with
  | nil => rw [captured]
  | cons item others ih =>
      rw [List.forall_mem_cons] at unnamed
      cases consumed : item.matcher.consumed? place.rest with
      | none => exact captured_cons_of_none consumed others
      | some taken => simp [captured_cons_of_some consumed, unnamed.1, ih unnamed.2]

/-- Behind literal text at the beginning of a text the others go on. -/
theorem Sequence.consumed?_literal_cons (passed : List Char) (capture : Option String)
    (others : Sequence) (rest : List Char) :
    Sequence.consumed? (⟨.literal passed, capture⟩ :: others) (passed ++ rest) =
      (others.consumed? rest).map (passed ++ ·) := by
  simp [consumed?_cons, Matcher.consumed?]

/-- A run takes the text before it unless it is empty. -/
theorem Matcher.consumed?_preceded_run (test : CharTest) (min : Nat) (max : Option Nat)
    (passed rest : List Char) :
    ((Matcher.run test min max).preceded passed).consumed? (passed ++ rest) =
      if (Text.run test.accepts max rest).length < min then none
      else if Text.run test.accepts max rest = [] then some []
      else some (passed ++ Text.run test.accepts max rest) := by
  cases min with
  | zero =>
      simp only [preceded, consumed?, Sequence.firstConsumed?, Sequence.consumed?_literal_cons,
        Sequence.consumed?_singleton, Nat.lt_one_iff, List.length_eq_zero_iff, Nat.not_lt_zero,
        if_false]
      split <;> rfl
  | succ min =>
      simp only [preceded, consumed?, Sequence.consumed?_literal_cons,
        Sequence.consumed?_singleton]
      split
      · rfl
      · rename_i long
        have nonempty : Text.run test.accepts max rest ≠ [] := by
          intro empty
          simp [empty] at long
        rw [if_neg nonempty, Option.map_some]

theorem Matcher.matched_preceded_run (source : String) (test : CharTest) (min : Nat)
    (max : Option Nat) (passed : List Char) (place : Place) (taken : List Char) :
    ((Matcher.run test min max).preceded passed).matched source place taken =
      ⟨place, place.past taken, []⟩ := by
  cases min with
  | zero =>
      simp only [preceded, matched, lexeme, captured, Sequence.firstCaptured]
      split
      · rw [Sequence.captured_of_unnamed source (by simp)]
      · rfl
  | succ min =>
      simp only [preceded, matched, lexeme, captured]
      rw [Sequence.captured_of_unnamed source (by simp)]

theorem Matcher.consumed?_preceded_quoted (quote : Char) (passed rest : List Char) :
    ((Matcher.quoted quote).preceded passed).consumed? (passed ++ rest) =
      ((Matcher.quoted quote).consumed? rest).map (passed ++ ·) := by
  rw [preceded, consumed?, Sequence.consumed?_literal_cons, Sequence.consumed?_singleton]

theorem Matcher.matched_preceded_quoted (source : String) (quote : Char) (passed : List Char)
    (place : Place) (taken : List Char) :
    ((Matcher.quoted quote).preceded passed).matched source place taken =
      ⟨place, place.past taken, []⟩ := by
  simp only [preceded, matched, lexeme, captured]
  rw [Sequence.captured_of_unnamed source (by simp)]

namespace Cursor

variable {cursor : Cursor} {passed rest : List Char} {α : Type}

theorem follows_readLiteral_peeked
    (split : cursor.position.rest = passed ++ rest) {text : List Char} (nonempty : text ≠ []) :
    cursor.Follows ((Matcher.literal (passed ++ text)).consumed? cursor.position.rest)
      (fun taken => cursor.matchTo (cursor.advance taken))
      ((cursor.peeked passed).readLiteral text) := by
  have peeks := peekText_peeked passed text split
  have same : passed ++ text <+: cursor.position.rest ↔ text <+: rest := by
    rw [split, List.prefix_append_right_inj]
  by_cases begins : text <+: rest
  · have beginning := same.mpr begins
    have commits := commit_peeked cursor (List.append_ne_nil_of_right_ne_nil passed nonempty)
      beginning
    simp only [readLiteral, List.isEmpty_iff, nonempty, if_false, peeks, begins, if_true, commits,
      Matcher.consumed?, beginning]
    exact ⟨beginning, rfl⟩
  · simp [readLiteral, nonempty, peeks, begins, Matcher.consumed?, same, Follows]

/-- Behind peeked text a run takes this text with its first character. If it takes no
character, it gives up the peeked text. -/
theorem Settled.commitRun_peeked (settled : cursor.Settled)
    (split : cursor.position.rest = passed ++ rest) (accepts : Char → Bool) {max : Option Nat}
    (grows : mayGrow max 0 = true) :
    (cursor.peeked passed).commitRun accepts max rest 0 =
      ((Text.run accepts max rest).length,
        if Text.run accepts max rest = [] then cursor
        else cursor.advance (passed ++ Text.run accepts max rest)) := by
  cases rest with
  | nil => simp [commitRun, grows, settled.restore_eq]
  | cons c rest =>
      have peeks := peekChar_peeked passed split
      have commits := commit_peeked_concat split
      have others := (settled_advance cursor (passed ++ [c])).commitRun_eq accepts max 1
      rw [rest_advance_concat split] at others
      rw [Text.run_cons]
      by_cases passes : accepts c = true
      · simp [commitRun, grows, peeks, passes, commits, others, Nat.add_comm 1]
      · simp [commitRun, grows, peeks, passes, settled.restore_eq]

theorem Settled.follows_readRun_peeked (settled : cursor.Settled)
    (split : cursor.position.rest = passed ++ rest) (test : CharTest) (min : Nat)
    {max : Option Nat} (grows : mayGrow max 0 = true) :
    cursor.Follows (((Matcher.run test min max).preceded passed).consumed? cursor.position.rest)
      (((Matcher.run test min max).preceded passed).matched cursor.text cursor.position)
      ((cursor.peeked passed).readRun test min max) := by
  have commits := settled.commitRun_peeked split test.accepts grows
  have ahead : (cursor.peeked passed).lookahead.rest = rest := Place.rest_past_of_split split
  have beginning := isPrefix_run test.accepts max rest
  rw [split, Matcher.consumed?_preceded_run,
    funext (Matcher.matched_preceded_run cursor.text test min max passed cursor.position)]
  simp only [readRun, ahead, commits]
  by_cases short : (Text.run test.accepts max rest).length < min
  · simp only [if_pos short, Follows]
  · by_cases empty : Text.run test.accepts max rest = []
    · simp only [if_neg short, if_pos empty]
      refine ⟨List.nil_prefix, ?_⟩
      simp [settled.advance_nil, matchTo, peeked]
    · simp only [if_neg short, if_neg empty]
      refine ⟨?_, rfl⟩
      rwa [split, List.prefix_append_right_inj]

/-! ## Sequences -/

/-- Two steps come to the same, apart from what they leave peeked. -/
def Alike (first second : Option α × Cursor) : Prop :=
  first.1 = second.1 ∧ (first.1 ≠ none → first.2.restore = second.2.restore)

theorem Alike.refl (result : Option α × Cursor) : Alike result result := ⟨rfl, fun _ => rfl⟩

/-- Two steps that follow the same both fail or are the same. -/
theorem Follows.unique {consumed : Option (List Char)} {value : List Char → α}
    {first second : Option α × Cursor} (follows : cursor.Follows consumed value first)
    (follows' : cursor.Follows consumed value second) :
    first.1 = second.1 ∧ (first.1 ≠ none → first.2 = second.2) := by
  cases consumed with
  | none => exact ⟨follows.trans follows'.symm, fun some => absurd follows some⟩
  | some taken =>
      have same := follows.2.trans follows'.2.symm
      exact ⟨congrArg Prod.fst same, fun _ => congrArg Prod.snd same⟩

/-- What the items of a sequence leave peeked is given up with its rollback. -/
theorem conclude_eq_of_alike {items others : Sequence} {read also : Option Captures × Cursor}
    (nonempty : items ≠ []) (nonempty' : others ≠ []) (alike : Alike read also)
    (same : SameFrame cursor.save read.2) (same' : SameFrame cursor.save also.2) :
    (cursor.peeked passed).conclude items read = cursor.conclude others also := by
  rcases read with ⟨captures, next⟩
  rcases also with ⟨captures', next'⟩
  rcases alike with ⟨rfl, restored⟩
  have isEmpty : items.isEmpty = false := by simpa using nonempty
  have isEmpty' : others.isEmpty = false := by simpa using nonempty'
  simp only [conclude, isEmpty, isEmpty', rollback_of_sameFrame same, rollback_of_sameFrame same']
  cases captures with
  | none => rfl
  | some captures =>
      have position : next.position = next'.position := by
        simpa [restore] using congrArg Cursor.position (restored (Option.some_ne_none captures))
      simp only [position]
      rfl

/-- Two sequences come to the same if their first items do and the others do so behind them. -/
theorem alike_scanItems_cons {matcher other : Matcher} (capture : Option String)
    {items others : Sequence} {start : Cursor} (same : start.text = cursor.text)
    (first : (matcher.scan start).1 = (other.scan cursor).1)
    (further : ∀ found, (matcher.scan start).1 = some found →
      Alike (Sequence.scanItems items (matcher.scan start).2)
        (Sequence.scanItems others (other.scan cursor).2)) :
    Alike (Sequence.scanItems (⟨matcher, capture⟩ :: items) start)
      (Sequence.scanItems (⟨other, capture⟩ :: others) cursor) := by
  rw [Sequence.scanItems, Sequence.scanItems]
  rcases scanned : matcher.scan start with ⟨found, next⟩
  rcases scanned' : other.scan cursor with ⟨found', next'⟩
  simp only [scanned, scanned'] at first further
  subst first
  cases found with
  | none => exact ⟨rfl, by simp⟩
  | some found =>
      obtain ⟨captures, restored⟩ := further found rfl
      simp only [Alike, captures, same, true_and]
      intro some
      apply restored
      rw [captures]
      intro fails
      simp [fails] at some

end Cursor

open Cursor

/-- A matcher that does not look at the text leaves the cursor alone. -/
theorem Matcher.scan_of_idle {matcher : Matcher} (idle : matcher.idle = true) (cursor : Cursor) :
    matcher.scan cursor = ((matcher.scan cursor.restore).1, cursor) := by
  cases matcher with
  | literal text =>
      have empty : text = [] := by simpa [Matcher.idle] using idle
      subst empty
      rfl
  | run test min max =>
      have full : mayGrow max 0 = false := by simpa [Matcher.idle] using idle
      have commits (start : Cursor) (ahead : List Char) :
          start.commitRun test.accepts max ahead 0 = (0, start) := by
        cases ahead <;> simp [commitRun, full]
      simp only [scan, readRun, commits]
      split <;> rfl
  | line | quoted => cases idle
  | alternation alternatives =>
      cases alternatives with
      | nil => rfl
      | cons items others =>
          have empty : items = [] := by simpa [Matcher.idle] using idle
          subst empty
          rfl
  | pattern items =>
      have empty : items = [] := by simpa [Matcher.idle] using idle
      subst empty
      rfl

namespace Sequence

variable {matcher : Matcher} {passed : List Char}

theorem preceded_cons_of_idle (idle : matcher.idle = true) (capture : Option String)
    (others : Sequence) :
    preceded passed (⟨matcher, capture⟩ :: others) =
      ⟨matcher, capture⟩ :: others.preceded passed := by
  rw [preceded, if_pos idle]

theorem preceded_cons_of_awake (awake : matcher.idle = false) (capture : Option String)
    (others : Sequence) :
    preceded passed (⟨matcher, capture⟩ :: others) =
      ⟨matcher.preceded passed, capture⟩ :: others := by
  rw [preceded, if_neg (by simp [awake])]

end Sequence

mutual

/-- Behind peeked text a matcher that looks at the text does what it does at the position
with this text in front. -/
theorem Matcher.follows_scan_peeked (matcher : Matcher) {cursor : Cursor} {passed : List Char}
    (settled : cursor.Settled) (beginning : passed <+: cursor.position.rest)
    (awake : matcher.idle = false) :
    cursor.Follows ((matcher.preceded passed).consumed? cursor.position.rest)
      ((matcher.preceded passed).matched cursor.text cursor.position)
      (matcher.scan (cursor.peeked passed)) := by
  obtain ⟨rest, split⟩ := beginning
  cases matcher with
  | literal text =>
      rw [Matcher.preceded]
      exact follows_readLiteral_peeked split.symm (by simpa [Matcher.idle] using awake)
  | run test min max =>
      exact settled.follows_readRun_peeked split.symm test min (by simpa [Matcher.idle] using awake)
  | line =>
      rw [Matcher.preceded]
      exact follows_readLine (cursor.peeked passed)
  | quoted quote =>
      rw [← split, Matcher.consumed?_preceded_quoted,
        funext (Matcher.matched_preceded_quoted cursor.text quote passed cursor.position)]
      exact follows_readQuoted_peeked split.symm quote
  | alternation alternatives =>
      cases alternatives with
      | nil => cases awake
      | cons items others =>
          have nonempty : items ≠ [] := by simpa [Matcher.idle] using awake
          have tried := Sequence.match?_peeked items settled ⟨rest, split⟩ nonempty
          have alike : (Matcher.alternation (items :: others)).scan (cursor.peeked passed) =
              ((Matcher.alternation (items :: others)).preceded passed).scan cursor := by
            rw [Matcher.preceded, Sequence.firstPreceded, Matcher.scan_alternation,
              Matcher.scan_alternation, Sequence.scanFirst_cons, Sequence.scanFirst_cons, tried]
          rw [alike]
          exact Matcher.follows_scan _ settled
  | pattern items =>
      have nonempty : items ≠ [] := by simpa [Matcher.idle] using awake
      have tried := Sequence.match?_peeked items settled ⟨rest, split⟩ nonempty
      have alike : (Matcher.pattern items).scan (cursor.peeked passed) =
          ((Matcher.pattern items).preceded passed).scan cursor := by
        rw [Matcher.preceded, Matcher.scan_pattern, Matcher.scan_pattern, tried]
      rw [alike]
      exact Matcher.follows_scan _ settled

theorem Sequence.match?_peeked (items : Sequence) {cursor : Cursor} {passed : List Char}
    (settled : cursor.Settled) (beginning : passed <+: cursor.position.rest)
    (nonempty : items ≠ []) :
    (cursor.peeked passed).match? items = cursor.match? (items.preceded passed) := by
  have saved : cursor.save.Settled := settled
  apply conclude_eq_of_alike nonempty (by simpa using nonempty)
  · exact Sequence.alike_scanItems_peeked items saved beginning
  · exact Sequence.sameFrame_scanItems items (cursor.peeked passed).save
  · exact Sequence.sameFrame_scanItems (items.preceded passed) cursor.save

theorem Sequence.alike_scanItems_peeked (items : Sequence) {cursor : Cursor}
    {passed : List Char} (settled : cursor.Settled)
    (beginning : passed <+: cursor.position.rest) :
    Alike (Sequence.scanItems items (cursor.peeked passed))
      (Sequence.scanItems (items.preceded passed) cursor) := by
  cases items with
  | nil =>
      rw [Sequence.preceded]
      exact ⟨rfl, fun _ => rfl⟩
  | cons item others =>
      rcases item with ⟨matcher, capture⟩
      have text : (cursor.peeked passed).text = cursor.text := rfl
      cases idle : matcher.idle with
      | true =>
          -- The lookahead is there for the others still.
          have scanned := Matcher.scan_of_idle idle (cursor.peeked passed)
          rw [restore_peeked, settled.restore_eq] at scanned
          have stays : (matcher.scan cursor).2 = cursor :=
            congrArg Prod.snd (Matcher.scan_of_idle idle cursor)
          rw [Sequence.preceded_cons_of_idle idle]
          apply alike_scanItems_cons capture text
          · rw [scanned]
          · intro _ _
            rw [scanned, stays]
            exact Sequence.alike_scanItems_peeked others settled beginning
      | false =>
          have follows := Matcher.follows_scan_peeked matcher settled beginning idle
          have follows' := Matcher.follows_scan (matcher.preceded passed) settled
          obtain ⟨value, moved⟩ := follows.unique follows'
          rw [Sequence.preceded_cons_of_awake idle]
          apply alike_scanItems_cons capture text value
          intro found scanned
          rw [moved (by simp [scanned])]
          exact .refl _

end

namespace Cursor

variable {cursor : Cursor}

/-- The text that has been peeked. -/
def peekedText (cursor : Cursor) : List Char := cursor.position.between cursor.lookahead

/-- A proper cursor has peeked a beginning of what is left. -/
theorem Proper.eq_peeked (proper : cursor.Proper) :
    cursor.peekedText <+: cursor.position.rest ∧
      cursor.restore.peeked cursor.peekedText = cursor := by
  rcases proper with ⟨passed, rest, offset⟩
  have between : cursor.peekedText = passed := Place.between_of_reaches rest offset
  have lookahead : cursor.position.past passed = cursor.lookahead := by
    rw [Place.past, ← offset, rest, List.drop_left]
  rw [between, peeked]
  exact ⟨⟨_, rest.symm⟩, by simp [restore, lookahead]⟩

/-- At every cursor that operations lead to, a sequence matches as it does at the position
with the peeked text in front of the first thing that it reads. -/
theorem match?_eq_preceded (text : String) (operations : List Operation) {items : Sequence}
    (nonempty : items ≠ []) :
    (reached text operations).match? items =
      (reached text operations).restore.match?
        (items.preceded (reached text operations).peekedText) := by
  obtain ⟨beginning, whole⟩ := (wellPlaced_reached text operations).proper.eq_peeked
  have settled := settled_restore (reached text operations)
  have matched := Sequence.match?_peeked items settled beginning nonempty
  rwa [whole] at matched

/-- One character is peeked, and the literal for the next one matches both. -/
theorem match?_eq_preceded_literal :
    [⟨.literal ['b'], none⟩] ≠ ([] : Sequence) ∧
      (reached "ab" [.peek 1]).match? [⟨.literal ['b'], none⟩] =
        (start "ab").match? [⟨.literal ['a', 'b'], none⟩] :=
  ⟨by simp, match?_eq_preceded "ab" [.peek 1] (by simp)⟩

/-- So what has been peeked makes a difference: the same sequence need not match at the
lookahead and at the position alike. -/
theorem match?_ne_restore :
    ¬ ∀ text operations items,
      ((reached text operations).match? items).1 =
          ((reached text operations).restore.match? items).1 ∧
        ((reached text operations).match? items).2.position =
          ((reached text operations).restore.match? items).2.position ∧
        ((reached text operations).match? items).2.lookahead =
          ((reached text operations).restore.match? items).2.lookahead := by
  intro alike
  have positions := (alike "ab" [.peek 1] [⟨.literal ['b'], none⟩]).2.1
  exact absurd positions (by decide)

end Cursor

end PatternLexer
