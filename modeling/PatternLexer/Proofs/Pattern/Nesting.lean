import PatternLexer.Proofs.Cursor.Bytes
import PatternLexer.Proofs.Pattern.References
import PatternLexer.Proofs.Pattern.Spans

/-!
# Tokens inside tokens

A token is well formed when its offsets are those of its lexeme in the text, and the tokens
captured in it stand between its ends.

A capture is filed with every class around it, so it has to stand between the ends of all of
them. Items without a name can be part of a pattern that was not compiled; what is captured in
them is dropped. And a line ends before the line feed that it consumes, so a match can end
before the place at which matching goes on. `Captures.Within` speaks of places that reach one
another and is kept by all of this; offsets only enter at the end.

Main statement: `wellFormed_of_match?`, for every sequence and every cursor that operations
can lead to.
-/

namespace PatternLexer

/-- The captures stand between two places of a text, and what is captured in each of them
stands between its ends. -/
inductive Captures.Within (source : String) : (first last : Place) → Captures → Prop where
  | nil {first last : Place} : Within source first last []
  | cons {first last start stop : Place} {name : String} {inside others : Captures}
      (starts : first.Reaches start) (goesOn : start.Reaches stop) (stops : stop.Reaches last)
      (within : Within source start stop inside) (further : Within source first last others) :
      Within source first last ((name, ⟨start, stop, source, inside⟩) :: others)

/-- The token stands between two places of a text, and its captures stand in it. -/
structure Token.Within (source : String) (first last : Place) (token : Token) : Prop where
  source_eq : token.source = source
  starts : first.Reaches token.start
  goesOn : token.start.Reaches token.stop
  stops : token.stop.Reaches last
  captures : Captures.Within source token.start token.stop token.captures

namespace Captures.Within

variable {source : String} {first last earlier later : Place} {captures others : Captures}
  {name : String} {token : Token}

theorem widen (within : captures.Within source first last) (before : earlier.Reaches first)
    (behind : last.Reaches later) : captures.Within source earlier later := by
  induction within generalizing earlier later with
  | nil => exact .nil
  | cons starts goesOn stops inside _ _ ih =>
      exact .cons (before.trans starts) goesOn (stops.trans behind) inside (ih before behind)

theorem append (within : captures.Within source first last)
    (behind : others.Within source first last) :
    Captures.Within source first last (captures ++ others) := by
  induction within with
  | nil => exact behind
  | cons starts goesOn stops inside _ _ ih =>
      exact .cons starts goesOn stops inside (ih behind)

theorem of_mem (within : captures.Within source first last) (member : (name, token) ∈ captures) :
    token.Within source first last := by
  induction within with
  | nil => cases member
  | cons starts goesOn stops inside _ _ ih =>
      cases member with
      | head => exact ⟨rfl, starts, goesOn, stops, inside⟩
      | tail _ further => exact ih further

/-- However deep a token stands, it stands between the two places. -/
theorem of_holds (within : captures.Within source first last) (holds : Holds token captures) :
    token.Within source first last := by
  induction holds generalizing first last with
  | here member => exact within.of_mem member
  | inside member _ ih =>
      have outer := within.of_mem member
      have inner := ih outer.captures
      exact ⟨inner.source_eq, outer.starts.trans inner.starts, inner.goesOn,
        inner.stops.trans outer.stops, inner.captures⟩

end Captures.Within

/-- What a match adds stands where the match stands. -/
theorem Match.within_filed {found : Match} {source : String} (capture : Option String)
    (goesOn : found.start.Reaches found.stop)
    (within : found.captures.Within source found.start found.stop) :
    Captures.Within source found.start found.stop (found.filed source capture) := by
  cases capture with
  | none => exact .nil
  | some name => exact within.append (.cons (.refl _) goesOn (.refl _) within .nil)

open Cursor

mutual

/-- The captures of a match stand between its ends. -/
theorem Matcher.within_scan (matcher : Matcher) {cursor next : Cursor} {found : Match}
    (proper : cursor.Proper) (scanned : matcher.scan cursor = (some found, next)) :
    found.captures.Within cursor.text found.start found.stop := by
  cases matcher with
  | literal text =>
      rw [captures_readLiteral scanned]
      exact .nil
  | run test min max =>
      rw [captures_readRun scanned]
      exact .nil
  | line =>
      rw [captures_readLine scanned]
      exact .nil
  | quoted quote =>
      rw [captures_readQuoted scanned]
      exact .nil
  | alternation alternatives => exact Sequence.within_scanFirst alternatives proper scanned
  | pattern items =>
      have saved : cursor.save.Proper := proper
      obtain ⟨last, read, spans, stop⟩ := proper.spans_match? scanned
      have inside := Sequence.within_scanItems items saved read
      rw [spans.start_eq, stop]
      exact inside

theorem Sequence.within_scanFirst (alternatives : List Sequence) {cursor next : Cursor}
    {found : Match} (proper : cursor.Proper)
    (scanned : Sequence.scanFirst alternatives cursor = (some found, next)) :
    found.captures.Within cursor.text found.start found.stop := by
  cases alternatives with
  | nil => cases scanned
  | cons items others =>
      rw [Sequence.scanFirst_cons] at scanned
      cases tried : cursor.match? items with
      | mk first middle =>
          rw [tried] at scanned
          cases first with
          | none =>
              -- The next alternative starts at the same position of the same text.
              rw [restore_of_match?_eq_none tried] at scanned
              have further := Sequence.within_scanFirst others (settled_restore cursor).proper scanned
              exact further
          | some first =>
              have saved : cursor.save.Proper := proper
              cases scanned
              obtain ⟨last, read, spans, stop⟩ := proper.spans_match? tried
              have inside := Sequence.within_scanItems items saved read
              rw [spans.start_eq, stop]
              exact inside

theorem Sequence.within_scanItems (items : Sequence) {cursor next : Cursor} {captures : Captures}
    (proper : cursor.Proper) (scanned : Sequence.scanItems items cursor = (some captures, next)) :
    captures.Within cursor.text cursor.position next.position := by
  cases items with
  | nil =>
      cases scanned
      exact .nil
  | cons item others =>
      obtain ⟨matcher, capture⟩ := item
      rw [Sequence.scanItems] at scanned
      cases first : matcher.scan cursor with
      | mk found middle =>
          rw [first] at scanned
          cases found with
          | none => cases scanned
          | some found =>
              have text : middle.text = cursor.text := by
                simpa [first] using (Matcher.sameFrame_scan matcher cursor).1
              have spans := Matcher.spans_scan matcher proper first
              have inside := Matcher.within_scan matcher proper first
              cases read : Sequence.scanItems others middle with
              | mk rest last =>
                  simp only [read, Prod.mk.injEq, Option.map_eq_some_iff] at scanned
                  obtain ⟨⟨rest, rfl, rfl⟩, rfl⟩ := scanned
                  have moves := Sequence.onward_scanItems others spans.proper read
                  have behind := Sequence.within_scanItems others spans.proper read
                  have goesOn : found.start.Reaches found.stop := by
                    rw [spans.start_eq]
                    exact spans.reaches_stop
                  have filed := Match.within_filed capture goesOn inside
                  rw [spans.start_eq] at filed
                  rw [text] at behind
                  exact (filed.widen (.refl _) (spans.stop_reaches.trans moves.reaches)).append
                    (behind.widen spans.onward.reaches (.refl _))

end

/-- The token is that of its lexeme in a text: its offsets are boundaries of characters, and
the lexeme stands between them. There is no entry for a class without captures, and what is
captured stands between the ends of the token. -/
structure Token.WellFormed (text : String) (token : Token) : Prop where
  source_eq : token.source = text
  isValid_start : (⟨token.pos⟩ : String.Pos.Raw).IsValid text
  isValid_stop : (⟨token.pos + token.length⟩ : String.Pos.Raw).IsValid text
  stop_le_size : token.pos + token.length ≤ text.utf8ByteSize
  slice?_eq : Text.slice? text.toList token.pos (token.pos + token.length) =
    some token.lexeme.toList
  entry_ne_nil (name : String) (tokens : List Token) :
    (name, tokens) ∈ Captures.byClass token.captures → tokens ≠ []
  contains (name : String) (inner : Token) : inner ∈ token.getAll name →
    token.pos ≤ inner.pos ∧ inner.pos + inner.length ≤ token.pos + token.length

theorem Token.pos_add_length {token : Token} (goesOn : token.start.Reaches token.stop) :
    token.pos + token.length = token.stop.offset := by
  have le := goesOn.offset_le
  simp only [Token.pos, Token.length]
  omega

theorem Token.Within.wellFormed {text : String} {first last : Place} {token : Token}
    (within : token.Within text first last) (ofText : (Place.start text.toList).Reaches first) :
    token.WellFormed text := by
  have startOfText := ofText.trans within.starts
  have stopOfText := startOfText.trans within.goesOn
  have stop := Token.pos_add_length within.goesOn
  constructor
  · exact within.source_eq
  · exact Place.isValid_of_reaches startOfText
  · rw [stop]
    exact Place.isValid_of_reaches stopOfText
  · have whole := Place.size_of_reaches stopOfText
    omega
  · rw [stop, Token.lexeme, String.toList_ofList]
    exact Place.slice?_of_reaches startOfText within.goesOn
  · intro name tokens entry
    exact (Captures.mem_byClass.mp entry).1
  · intro name inner member
    have inside := within.captures.of_mem (Captures.mem_ofClass.mp member)
    rw [stop, Token.pos_add_length inside.goesOn]
    exact ⟨inside.starts.offset_le, inside.stops.offset_le⟩

namespace Cursor

/-- The token of a match and all tokens inside it, at any depth, are well formed, wherever the
lookahead of the cursor stands. -/
theorem wellFormed_of_match? (text : String) (operations : List Operation) (items : Sequence)
    {found : Match} {next : Cursor}
    (matched : (reached text operations).match? items = (some found, next)) :
    (found.toToken text).WellFormed text ∧
      ∀ token, Captures.Holds token (found.toToken text).captures → token.WellFormed text := by
  have placed := wellPlaced_reached text operations
  have saved : (reached text operations).save.Proper := placed.proper
  have ofText := placed.ofText
  obtain ⟨last, scanned, spans, stop⟩ := placed.proper.spans_match? matched
  have within := Sequence.within_scanItems items saved scanned
  change Captures.Within (reached text operations).text (reached text operations).position
    last.position found.captures at within
  rw [text_reached, ← stop] at within
  rw [text_reached] at ofText
  have root : (found.toToken text).Within text (reached text operations).position found.stop := by
    simp only [Match.toToken, spans.start_eq]
    exact ⟨rfl, .refl _, spans.reaches_stop, .refl _, within⟩
  constructor
  · exact root.wellFormed ofText
  · intro token holds
    exact (within.of_holds holds).wellFormed ofText

/-- The row takes the line feed and the line in it does not. Both begin at the position,
although the next character has been peeked, and what is captured in the item without a name
is dropped. -/
theorem wellFormed_of_match?_line :
    ∃ found next,
      (reached "é;ab\nc" [.peek 1, .commit, .peek 1]).match?
          [⟨.pattern [⟨.line, some "line"⟩], some "row"⟩,
            ⟨.pattern [⟨.literal ['c'], some "c"⟩], none⟩] = (some found, next) ∧
        found.captures.map (fun (name, token) => (name, token.pos, token.lexeme)) =
          [("line", 2, ";ab"), ("row", 2, ";ab\n")] ∧
        (found.toToken "é;ab\nc").WellFormed "é;ab\nc" ∧
        ∀ name token, (name, token) ∈ found.captures → token.WellFormed "é;ab\nc" := by
  have finds : (((reached "é;ab\nc" [.peek 1, .commit, .peek 1]).match?
      [⟨.pattern [⟨.line, some "line"⟩], some "row"⟩,
        ⟨.pattern [⟨.literal ['c'], some "c"⟩], none⟩]).1.map fun found =>
      found.captures.map fun (name, token) => (name, token.pos, token.lexeme)) =
    some [("line", 2, ";ab"), ("row", 2, ";ab\n")] := by decide +kernel
  obtain ⟨found, read, filed⟩ := Option.map_eq_some_iff.mp finds
  obtain ⟨whole, inside⟩ := wellFormed_of_match? "é;ab\nc" [.peek 1, .commit, .peek 1]
    [⟨.pattern [⟨.line, some "line"⟩], some "row"⟩,
      ⟨.pattern [⟨.literal ['c'], some "c"⟩], none⟩] (Prod.ext read rfl)
  refine ⟨found, _, Prod.ext read rfl, filed, whole, ?_⟩
  intro name token member
  exact inside token (.here member)

end Cursor

end PatternLexer
