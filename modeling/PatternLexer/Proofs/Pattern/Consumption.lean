import PatternLexer.Proofs.Pattern.Reading
import PatternLexer.Text.Run

/-!
# What a pattern consumes

What a sequence matches depends on the text that is left and on nothing else. Here
this is a function of that text alone, without cursor or anything to go back to:
`Sequence.consumed?` takes a text and gives the beginning of it that the sequence
consumes. What the sequence captures there is `Sequence.captured`.

A matcher on a settled cursor does just that: it consumes this beginning, files
these captures and leaves the cursor settled, or it fails where the function does
(`Matcher.follows_scan`). Characters that a failed item has consumed are given back
by the sequence around it, so they never reach the next alternative.

Main statement: `matched_span_eq`, a match spans what the function says.
-/

namespace PatternLexer

open Text

/-- The beginning of a text up to the first `target`, which is included. -/
def Text.through? (target : Char) : List Char → Option (List Char)
  | [] => none
  | c :: text => if c = target then some [c] else (through? target text).map (c :: ·)

@[simp] theorem Text.through?_append_cons {target : Char} {before : List Char}
    (absent : target ∉ before) (after : List Char) :
    through? target (before ++ target :: after) = some (before ++ [target]) := by
  induction before with
  | nil => simp [through?]
  | cons c before ih =>
      simp only [List.mem_cons, not_or] at absent
      simp [through?, Ne.symm absent.1, ih absent.2]

@[simp] theorem Text.through?_of_absent {target : Char} {text : List Char}
    (absent : target ∉ text) : through? target text = none := by
  induction text with
  | nil => rfl
  | cons c text ih =>
      simp only [List.mem_cons, not_or] at absent
      simp [through?, Ne.symm absent.1, ih absent.2]

theorem Text.through?_eq (target : Char) (text : List Char) :
    through? target text =
      if target ∈ text then some (text.takeWhile (· != target) ++ [target]) else none := by
  split
  · rename_i member
    rcases List.eq_append_cons_of_mem member with ⟨before, after, rfl, absent⟩
    rw [through?_append_cons absent, takeWhile_bne_append absent]
    simp
  · rename_i absent
    exact through?_of_absent absent

mutual

/-- The beginning of a text that a matcher consumes, if it matches there. -/
def Matcher.consumed? : Matcher → List Char → Option (List Char)
  | .literal expected, text => if expected <+: text then some expected else none
  | .run test min max, text =>
      let taken := Text.run test.accepts max text
      if taken.length < min then none else some taken
  | .line, text => through? '\n' text
  | .quoted _, [] => none
  | .quoted quote, c :: text => if c = quote then (through? quote text).map (c :: ·) else none
  | .alternation alternatives, text => Sequence.firstConsumed? alternatives text
  | .pattern items, text => Sequence.consumed? items text

/-- What the first of some sequences that matches consumes. -/
def Sequence.firstConsumed? : List Sequence → List Char → Option (List Char)
  | [], _ => none
  | items :: others, text =>
      (Sequence.consumed? items text).or (Sequence.firstConsumed? others text)

/-- The beginning of a text that some items consume one after another. -/
def Sequence.consumed? : Sequence → List Char → Option (List Char)
  | [], _ => some []
  | ⟨matcher, _⟩ :: others, text =>
      match matcher.consumed? text with
      | none => none
      | some taken => (Sequence.consumed? others (text.drop taken.length)).map (taken ++ ·)

end

/-- The lexeme in what a matcher consumes: that of a line ends before the line feed. -/
def Matcher.lexeme : Matcher → List Char → List Char
  | .line, taken => taken.dropLast
  | _, taken => taken

mutual

/-- What a matcher captures inside its match at a place. -/
def Matcher.captured (source : String) : Matcher → Place → Captures
  | .alternation alternatives, place => Sequence.firstCaptured source alternatives place
  | .pattern items, place => Sequence.captured source items place
  | _, _ => []

/-- What the first of some sequences that matches captures. -/
def Sequence.firstCaptured (source : String) : List Sequence → Place → Captures
  | [], _ => []
  | items :: others, place =>
      match Sequence.consumed? items place.rest with
      | some _ => Sequence.captured source items place
      | none => Sequence.firstCaptured source others place

/-- What some items capture one after another. -/
def Sequence.captured (source : String) : Sequence → Place → Captures
  | [], _ => []
  | ⟨matcher, capture⟩ :: others, place =>
      match matcher.consumed? place.rest with
      | none => []
      | some taken =>
          Match.filed ⟨place, place.past (matcher.lexeme taken), matcher.captured source place⟩
              source capture ++
            Sequence.captured source others (place.past taken)

end

/-- The match of a matcher at a place, given what it consumes. -/
def Matcher.matched (source : String) (matcher : Matcher) (place : Place) (taken : List Char) :
    Match :=
  ⟨place, place.past (matcher.lexeme taken), matcher.captured source place⟩

/-- The match of a sequence at a place, given what it consumes. -/
def Sequence.matched (source : String) (items : Sequence) (place : Place) (taken : List Char) :
    Match :=
  ⟨place, place.past taken, Sequence.captured source items place⟩

/-- An alternation passes over an alternative that consumes nothing. -/
theorem Matcher.matched_alternation_of_none {source : String} {items : Sequence} {place : Place}
    (fails : items.consumed? place.rest = none) (others : List Sequence) :
    (Matcher.alternation (items :: others)).matched source place =
      (Matcher.alternation others).matched source place := by
  funext taken
  simp [matched, lexeme, captured, Sequence.firstCaptured, fails]

/-- An alternation keeps the first alternative that consumes something. -/
theorem Matcher.matched_alternation_of_some {source : String} {items : Sequence} {place : Place}
    {taken : List Char} (consumed : items.consumed? place.rest = some taken)
    (others : List Sequence) :
    (Matcher.alternation (items :: others)).matched source place =
      items.matched source place := by
  funext taken
  simp [matched, Sequence.matched, lexeme, captured, Sequence.firstCaptured, consumed]

namespace Cursor

variable {cursor : Cursor} {passed rest : List Char} {α : Type}

/-- Peeking a text succeeds where it stands behind what has been peeked. -/
theorem peekText_peeked (passed text : List Char) (split : cursor.position.rest = passed ++ rest) :
    (cursor.peeked passed).peekText text =
      if text <+: rest then (true, cursor.peeked (passed ++ text)) else (false, cursor.restore) := by
  induction text generalizing passed rest with
  | nil => simp [peekText]
  | cons c text ih =>
      cases rest with
      | nil =>
          rw [List.append_nil] at split
          simp [peekText, peekChar_peeked_of_end split]
      | cons d rest =>
          simp only [peekText, peekChar_peeked passed split, Option.some.injEq, List.cons_prefix_cons]
          by_cases same : d = c
          · subst same
            have further := ih (passed ++ [d]) (by simpa using split)
            simp [further]
          · simp [same, Ne.symm same]

theorem Settled.readLiteral_eq (settled : cursor.Settled) (text : List Char) :
    cursor.readLiteral text =
      if text <+: cursor.position.rest then
        (some (cursor.matchTo (cursor.advance text)), cursor.advance text)
      else
        (none, cursor) := by
  by_cases empty : text = []
  · simp [readLiteral, empty, settled.advance_nil, emptyMatch, matchTo]
  · have whole : cursor.position.rest = [] ++ cursor.position.rest := rfl
    have peeks := peekText_peeked [] text whole
    rw [settled.peeked_nil, settled.restore_eq, List.nil_append] at peeks
    by_cases beginning : text <+: cursor.position.rest
    · simp [readLiteral, empty, peeks, beginning, commit_peeked cursor empty beginning]
    · simp [readLiteral, empty, peeks, beginning]

/-- Committing character by character consumes the run that is left. -/
theorem Settled.commitRun_eq (settled : cursor.Settled) (accepts : Char → Bool)
    (max : Option Nat) (count : Nat) :
    cursor.commitRun accepts max cursor.position.rest count =
      (count + (Text.run accepts (max.map (· - count)) cursor.position.rest).length,
        cursor.advance (Text.run accepts (max.map (· - count)) cursor.position.rest)) := by
  generalize ahead : cursor.position.rest = text
  induction text generalizing cursor count with
  | nil => simp [commitRun, settled.restore_eq, settled.advance_nil]
  | cons c text ih =>
      have peeks := settled.peekChar_eq ahead
      have commits := commit_peeked cursor (List.cons_ne_nil c [])
        ⟨text, ahead.symm⟩
      have left : (cursor.advance [c]).position.rest = text :=
        Place.rest_past_of_split (by simpa using ahead)
      have further := ih (settled_advance cursor [c]) (count + 1) left
      rw [Text.run_cons_from]
      by_cases grows : mayGrow max count = true
      · by_cases passes : accepts c = true
        · simp [commitRun, grows, peeks, passes, commits, further, Nat.add_assoc, Nat.add_comm 1]
        · simp [commitRun, grows, peeks, passes, settled.restore_eq, settled.advance_nil]
      · simp [commitRun, grows, settled.advance_nil]

/-- What a step from a cursor comes to, told by what it is to consume: it succeeds
with the value for that, having consumed it and left the cursor settled, or it fails
where there is nothing to consume. -/
def Follows (cursor : Cursor) (consumed : Option (List Char)) (value : List Char → α)
    (result : Option α × Cursor) : Prop :=
  match consumed with
  | none => result.1 = none
  | some taken =>
      taken <+: cursor.position.rest ∧ result = (some (value taken), cursor.advance taken)

theorem Settled.follows_readLiteral (settled : cursor.Settled) (text : List Char) :
    cursor.Follows ((Matcher.literal text).consumed? cursor.position.rest)
      (fun taken => cursor.matchTo (cursor.advance taken)) (cursor.readLiteral text) := by
  rw [settled.readLiteral_eq, Matcher.consumed?]
  by_cases beginning : text <+: cursor.position.rest <;> simp [Follows, beginning]

theorem Settled.follows_readRun (settled : cursor.Settled) (test : CharTest) (min : Nat)
    (max : Option Nat) :
    cursor.Follows ((Matcher.run test min max).consumed? cursor.position.rest)
      (fun taken => cursor.matchTo (cursor.advance taken)) (cursor.readRun test min max) := by
  have commits := settled.commitRun_eq test.accepts max 0
  have whole : max.map (· - 0) = max := by cases max <;> rfl
  have same : cursor.lookahead = cursor.position := settled
  rw [whole] at commits
  simp only [readRun, same, commits, Nat.zero_add, Matcher.consumed?]
  split
  · rfl
  · exact ⟨isPrefix_run _ _ _, rfl⟩

/-- A line is read from the position, wherever the lookahead is. -/
theorem follows_readLine (cursor : Cursor) :
    cursor.Follows (Matcher.line.consumed? cursor.position.rest)
      (fun taken => cursor.matchTo (cursor.advance taken.dropLast)) cursor.readLine := by
  rw [Matcher.consumed?]
  by_cases member : '\n' ∈ cursor.position.rest
  · rcases List.eq_append_cons_of_mem member with ⟨before, after, split, absent⟩
    have seeks := seek_of_split split absent
    have takes := takeChar_commitPeeked split
    simp only [readLine, seeks, if_true, takes, split, through?_append_cons absent, Follows]
    refine ⟨⟨after, by simp⟩, ?_⟩
    simp [matchTo, peeked]
  · simp [readLine, seek_of_absent cursor member, through?_of_absent member, Follows]

/-- A quote is read behind what has been peeked, which the match takes as well. -/
theorem follows_readQuoted_peeked (split : cursor.position.rest = passed ++ rest) (quote : Char) :
    cursor.Follows (((Matcher.quoted quote).consumed? rest).map (passed ++ ·))
      (fun taken => cursor.matchTo (cursor.advance taken))
      ((cursor.peeked passed).readQuoted quote) := by
  cases rest with
  | nil =>
      rw [List.append_nil] at split
      simp [readQuoted, peekChar_peeked_of_end split, Matcher.consumed?, Follows]
  | cons c inside =>
      have peeks := peekChar_peeked passed split
      by_cases same : c = quote
      · subst same
        have left := rest_advance_concat split
        simp only [readQuoted, peeks, if_true, commit_peeked_concat split, Matcher.consumed?]
        by_cases member : c ∈ inside
        · rcases List.eq_append_cons_of_mem member with ⟨before, after, rfl, absent⟩
          have seeks := seek_of_split left absent
          have takes := takeChar_commitPeeked left
          simp only [seeks, if_true, takes, through?_append_cons absent, Option.map_some, Follows,
            advance_advance, List.append_assoc, List.singleton_append]
          exact ⟨⟨after, by simp [split]⟩, rfl⟩
        · have seeks := seek_of_absent (cursor.advance (passed ++ [c])) (left ▸ member)
          simp [seeks, through?_of_absent member, Follows]
      · simp [readQuoted, peeks, same, Matcher.consumed?, Follows]

theorem Settled.follows_readQuoted (settled : cursor.Settled) (quote : Char) :
    cursor.Follows ((Matcher.quoted quote).consumed? cursor.position.rest)
      (fun taken => cursor.matchTo (cursor.advance taken)) (cursor.readQuoted quote) := by
  have whole : cursor.position.rest = [] ++ cursor.position.rest := rfl
  simpa [settled.peeked_nil] using follows_readQuoted_peeked whole quote

/-! ## Sequences on a settled cursor -/

/-- The second walk over the span of a sequence ends where its items ended. -/
theorem Settled.match?_of_scanItems (settled : cursor.Settled) {items : Sequence}
    {taken : List Char} {captures : Captures} (beginning : taken <+: cursor.position.rest)
    (scanned : Sequence.scanItems items cursor.save =
      (some captures, cursor.save.advance taken)) :
    cursor.match? items =
      (some ⟨cursor.position, cursor.position.past taken, captures⟩, cursor.advance taken) := by
  cases items with
  | nil =>
      simp only [Sequence.scanItems_nil, Prod.mk.injEq, Option.some.injEq] at scanned
      rcases scanned with ⟨rfl, same⟩
      have offset : cursor.position.offset = (cursor.position.past taken).offset :=
        congrArg (fun moved => moved.position.offset) same
      have empty : taken = [] := Place.offset_past_eq_iff.mp offset.symm
      simp [empty, emptyMatch, settled.advance_nil]
  | cons item items =>
      have same : SameFrame cursor.save (cursor.save.advance taken) := ⟨rfl, rfl⟩
      have back := rollback_of_sameFrame same
      have length : (cursor.save.advance taken).position.offset - cursor.position.offset =
          size taken := by
        simp [advance, save, moveTo, Place.past]
      rw [length, settled.restore_eq] at back
      simp only [match?, conclude, List.isEmpty_cons, scanned, back, Place.skip_size beginning]
      by_cases empty : taken = []
      · simp [empty, settled.advance_nil]
      · have positive : 0 < size taken := by
          have := mt size_eq_zero_iff.mp empty
          omega
        simp [positive, settled.peek_size beginning, commit_peeked cursor empty beginning]

theorem match?_eq_none_iff {items : Sequence} :
    (cursor.match? items).1 = none ↔ (Sequence.scanItems items cursor.save).1 = none := by
  cases items with
  | nil => simp
  | cons item items =>
      cases scanned : (Sequence.scanItems (item :: items) cursor.save).1 <;>
        simp [match?, conclude, scanned]

/-- A sequence that fails leaves a settled cursor where it was. -/
theorem Settled.match?_of_none (settled : cursor.Settled) {items : Sequence}
    (failed : (cursor.match? items).1 = none) : cursor.match? items = (none, cursor) := by
  apply Prod.ext failed
  cases items with
  | nil => simp at failed
  | cons item items =>
      have scanned := match?_eq_none_iff.mp failed
      have back := rollback_of_sameFrame (Sequence.sameFrame_scanItems (item :: items) cursor.save)
      simp [match?, conclude, scanned, back, settled.restore_eq]

/-- A sequence follows what its items consume behind the save. -/
theorem Settled.follows_match? (settled : cursor.Settled) {items : Sequence}
    (read : cursor.save.Follows (items.consumed? cursor.position.rest)
      (fun _ => items.captured cursor.text cursor.position)
      (Sequence.scanItems items cursor.save)) :
    cursor.Follows (items.consumed? cursor.position.rest)
      (items.matched cursor.text cursor.position) (cursor.match? items) := by
  cases consumed : items.consumed? cursor.position.rest with
  | none =>
      rw [consumed] at read
      exact match?_eq_none_iff.mpr read
  | some taken =>
      rw [consumed] at read
      rcases read with ⟨beginning, scanned⟩
      exact ⟨beginning, settled.match?_of_scanItems beginning scanned⟩

end Cursor

open Cursor

mutual

/-- On a settled cursor a matcher consumes and captures what is expected from the
text that is left. -/
theorem Matcher.follows_scan (matcher : Matcher) {cursor : Cursor} (settled : cursor.Settled) :
    cursor.Follows (matcher.consumed? cursor.position.rest)
      (matcher.matched cursor.text cursor.position) (matcher.scan cursor) := by
  cases matcher with
  | literal text => exact settled.follows_readLiteral text
  | run test min max => exact settled.follows_readRun test min max
  | line => exact follows_readLine cursor
  | quoted quote => exact settled.follows_readQuoted quote
  | alternation alternatives => exact Sequence.follows_scanFirst alternatives settled
  | pattern items => exact settled.follows_match? (Sequence.follows_scanItems items settled)

theorem Sequence.follows_scanFirst (alternatives : List Sequence) {cursor : Cursor}
    (settled : cursor.Settled) :
    cursor.Follows (Sequence.firstConsumed? alternatives cursor.position.rest)
      ((Matcher.alternation alternatives).matched cursor.text cursor.position)
      (Sequence.scanFirst alternatives cursor) := by
  cases alternatives with
  | nil => rfl
  | cons items others =>
      have saved : cursor.save.Settled := settled
      have first := settled.follows_match? (Sequence.follows_scanItems items saved)
      rw [Sequence.firstConsumed?, Sequence.scanFirst_cons]
      cases consumed : Sequence.consumed? items cursor.position.rest with
      | none =>
          -- The failed alternative has given back all it consumed.
          rw [consumed] at first
          rw [settled.match?_of_none first, Matcher.matched_alternation_of_none consumed]
          exact Sequence.follows_scanFirst others settled
      | some taken =>
          rw [consumed] at first
          rcases first with ⟨beginning, tried⟩
          rw [tried, Matcher.matched_alternation_of_some consumed]
          exact ⟨beginning, rfl⟩

theorem Sequence.follows_scanItems (items : Sequence) {cursor : Cursor}
    (settled : cursor.Settled) :
    cursor.Follows (items.consumed? cursor.position.rest)
      (fun _ => items.captured cursor.text cursor.position) (Sequence.scanItems items cursor) := by
  cases items with
  | nil => exact ⟨List.nil_prefix, by rw [Sequence.scanItems_nil, settled.advance_nil]; rfl⟩
  | cons item others =>
      rcases item with ⟨matcher, capture⟩
      have first := Matcher.follows_scan matcher settled
      simp only [Sequence.consumed?, Sequence.captured, Sequence.scanItems]
      cases consumed : matcher.consumed? cursor.position.rest with
      | none =>
          rw [consumed] at first
          cases scanned : matcher.scan cursor with
          | mk found next =>
              rw [scanned] at first
              simp only [Follows] at first
              simp [first, Follows]
      | some taken =>
          rw [consumed] at first
          rcases first with ⟨⟨rest, split⟩, scanned⟩
          have left : (cursor.advance taken).position.rest =
              cursor.position.rest.drop taken.length := rfl
          have further := Sequence.follows_scanItems others (settled_advance cursor taken)
          rw [left] at further
          simp only [scanned]
          cases also : Sequence.consumed? others (cursor.position.rest.drop taken.length) with
          | none =>
              rw [also] at further
              simp only [Follows] at further
              simp [Follows, further]
          | some others =>
              rw [also] at further
              rcases further with ⟨⟨final, split'⟩, read⟩
              simp only [position_advance, Place.past] at split'
              refine ⟨⟨final, ?_⟩, ?_⟩
              · rw [List.append_assoc, split', ← split, List.drop_left]
              · rw [read, advance_advance]
                rfl

end

namespace Cursor

/-- On a settled cursor a sequence consumes and captures what is expected from the
text that is left. -/
theorem Settled.follows {cursor : Cursor} (settled : cursor.Settled) (items : Sequence) :
    cursor.Follows (items.consumed? cursor.position.rest)
      (items.matched cursor.text cursor.position) (cursor.match? items) :=
  settled.follows_match? (Sequence.follows_scanItems items settled)

theorem Settled.match?_of_consumed {cursor : Cursor} (settled : cursor.Settled)
    {items : Sequence} {taken : List Char}
    (consumed : items.consumed? cursor.position.rest = some taken) :
    taken <+: cursor.position.rest ∧
      cursor.match? items =
        (some (items.matched cursor.text cursor.position taken), cursor.advance taken) := by
  have follows := settled.follows items
  rwa [consumed] at follows

theorem Settled.match?_of_not_consumed {cursor : Cursor} (settled : cursor.Settled)
    {items : Sequence} (fails : items.consumed? cursor.position.rest = none) :
    cursor.match? items = (none, cursor) := by
  have follows := settled.follows items
  rw [fails] at follows
  exact settled.match?_of_none follows

/-- The settled cursor behind `before` in the text `before ++ rest`. -/
def behind (before rest : List Char) (saved : List Place) : Cursor :=
  { ofPlace (String.ofList (before ++ rest)) ⟨size before, rest⟩ with saved }

/-- A sequence matches at a settled cursor exactly when it consumes a beginning of
the text that is left, and its match spans this beginning. -/
theorem matched_span_eq (items : Sequence) (before rest : List Char) (saved : List Place) :
    ((behind before rest saved).match? items).1.map
        (fun found => (found.start.offset, found.stop.offset)) =
      (items.consumed? rest).map fun taken => (size before, size before + size taken) := by
  have settled : (behind before rest saved).Settled := rfl
  have left : (behind before rest saved).position.rest = rest := rfl
  cases consumed : items.consumed? rest with
  | none =>
      rw [← left] at consumed
      rw [settled.match?_of_not_consumed consumed]
      rfl
  | some taken =>
      rw [← left] at consumed
      rw [(settled.match?_of_consumed consumed).2]
      rfl

-- The first alternative is kept although the second would let the rest match.
example : ((Cursor.start "abc").match?
    [⟨.alternation [[⟨.literal ['a'], none⟩], [⟨.literal ['a', 'b'], none⟩]], none⟩,
      ⟨.literal ['c'], none⟩]).1.isNone = true := by decide

end Cursor

end PatternLexer
