import Mathlib.Data.List.Basic
import PatternLexer.Proofs.Pattern.Separation
import PatternLexer.Proofs.Tokenizer.Tiling

/-!
# Runs over separated texts

Where all patterns of a tokenizer avoid a character, the character separates what stands
before it from what stands behind it: no token reaches over it, and before it everything
is found that would be found if the text ended there. So a run over two texts with the
character between them finds what the runs over each of them find
(`findings_run_separated`).

A finding is a token that is not empty, told by its rule, its place and its lexeme.
-/

namespace PatternLexer

open Text

variable {ε error α : Type}

/-- A token that is not empty, with the number of its rule. -/
structure Finding where
  rule : Nat
  pos : Nat
  lexeme : String
  deriving DecidableEq, Repr

/-- The same finding, further on by some bytes. -/
def Finding.shifted (distance : Nat) (finding : Finding) : Finding :=
  { finding with pos := distance + finding.pos }

/-- The finding of a rule that matched, if its token is not empty. -/
def Finding.of? (rule : Nat) (token : Token) : Option Finding :=
  if token.length = 0 then none else some ⟨rule, token.pos, token.lexeme⟩

/-- What is found when a callback is called. -/
def Event.finding? : Event ε → Option Finding
  | .matched rule token => Finding.of? rule token
  | .skipped _ _ | .warned _ _ | .emitted _ => none

/-- The tokens that are not empty with which a run calls callbacks, in order. -/
def Outcome.findings (outcome : Outcome ε error α) : List Finding :=
  outcome.ownEvents.filterMap Event.finding?

/-- What is found at a visit. -/
def Visit.finding? (visit : Visit) : Option Finding :=
  visit.hit.bind fun (rule, token) => Finding.of? rule token

/-- What some patterns find at a place. -/
def Place.finding? (place : Place) (patterns : List Sequence) : Option Finding :=
  match Sequence.firstOf? patterns place.rest with
  | some (rule, _, c :: taken) => some ⟨rule, place.offset, String.ofList (c :: taken)⟩
  | _ => none

namespace Visit

variable {patterns : List Sequence} {source source' : String} {place place' : Place}
  {path path' : List Visit}

/-- The source does not matter. -/
theorem finding?_of (patterns : List Sequence) (source : String) (place : Place) :
    (of patterns source place).finding? = place.finding? patterns := by
  rw [finding?, of, Place.finding?]
  cases hit : foundAt patterns source place with
  | none =>
      rw [foundAt, Option.map_eq_none_iff] at hit
      rw [hit]
      rfl
  | some found =>
      obtain ⟨rule, token⟩ := found
      obtain ⟨items, taken, first, rfl, lexeme, length⟩ := foundAt_eq_some hit
      have here : ((items.matched source place taken).toToken source).pos = place.offset := rfl
      have text := congrArg String.ofList lexeme
      rw [String.ofList_toList] at text
      change Finding.of? rule _ = _
      rw [first, Finding.of?, length, here, text]
      cases taken with
      | nil => rfl
      | cons c taken =>
          have positive := mt size_eq_zero_iff.mp (List.cons_ne_nil c taken)
          rw [if_neg positive]

theorem finding?_shifted {distance : Nat} (rest : place'.rest = place.rest)
    (offset : place'.offset = distance + place.offset) :
    place'.finding? patterns = (place.finding? patterns).map (Finding.shifted distance) := by
  rw [Place.finding?, Place.finding?, rest, offset]
  split <;> rfl

/-- The visits of the same text further on find the same further on. -/
theorem Tile.filterMap_finding?_shifted {distance : Nat} (tile : Tile patterns source place path)
    (further : Tile patterns source' place' path') (rest : place'.rest = place.rest)
    (offset : place'.offset = distance + place.offset) :
    path'.filterMap finding? = (path.filterMap finding?).map (Finding.shifted distance) := by
  induction tile generalizing place' path' with
  | finish ends =>
      cases further with
      | finish => rfl
      | visit nonempty => exact absurd (rest.trans ends) nonempty
  | @visit place visits nonempty behind ih =>
      cases further with
      | finish ends => exact absurd (rest.symm.trans ends) nonempty
      | visit nonempty' behind' =>
          have others := ih behind' (by simp [Place.past, rest])
            (by simp [Place.past, rest, offset, Nat.add_assoc])
          rw [List.filterMap_cons, List.filterMap_cons, finding?_of, finding?_of, others,
            finding?_shifted rest offset]
          cases place.finding? patterns <;> rfl

/-! ## Up to a separator -/

section Separator

variable {separator : Char}

theorem firstOf?_separated (avoid : ∀ items ∈ patterns, items.Avoids separator)
    (before after : List Char) :
    Sequence.firstOf? patterns (before ++ separator :: after) =
      Sequence.firstOf? patterns before := by
  induction patterns with
  | nil => rfl
  | cons items others ih =>
      obtain ⟨here, avoid⟩ := List.forall_mem_cons.mp avoid
      rw [Sequence.firstOf?, Sequence.firstOf?, Sequence.consumed?_separated items here, ih avoid]

/-- What matches at the end of a text is empty. -/
theorem firstOf?_nil_eq_some {rule : Nat} {items : Sequence} {taken : List Char}
    (found : Sequence.firstOf? patterns [] = some (rule, items, taken)) : taken = [] := by
  obtain ⟨-, consumed, -⟩ := Sequence.firstOf?_eq_some_iff.mp found
  exact List.prefix_nil.mp (Sequence.isPrefix_of_consumed? consumed)

theorem finding?_of_end (ends : place.rest = []) : place.finding? patterns = none := by
  rw [Place.finding?, ends]
  split
  · rename_i found
    cases firstOf?_nil_eq_some found
  · rfl

theorem finding?_separated (avoid : ∀ items ∈ patterns, items.Avoids separator)
    {after : List Char} (whole : place'.rest = place.rest ++ separator :: after)
    (offset : place'.offset = place.offset) :
    place'.finding? patterns = place.finding? patterns := by
  rw [Place.finding?, Place.finding?, whole, firstOf?_separated avoid, offset]

theorem passedFrom_separated (avoid : ∀ items ∈ patterns, items.Avoids separator)
    {before : List Char} (nonempty : before ≠ []) (after : List Char) :
    passedFrom patterns (before ++ separator :: after) = passedFrom patterns before := by
  rw [passedFrom, passedFrom, firstOf?_separated avoid]
  cases before with
  | nil => exact absurd rfl nonempty
  | cons c before => rfl

theorem passedFrom_separator (avoid : ∀ items ∈ patterns, items.Avoids separator)
    (after : List Char) : passedFrom patterns (separator :: after) = [separator] := by
  rw [← List.nil_append (separator :: after), passedFrom, firstOf?_separated avoid]
  split
  · rename_i found
    cases firstOf?_nil_eq_some found
  · rfl

/-- The visits of a text that goes on behind a separator find what the visits of the text
before it find, and then what is found from behind the separator on. -/
theorem Tile.filterMap_finding?_separated (avoid : ∀ items ∈ patterns, items.Avoids separator)
    {after : List Char} (tile : Tile patterns source place path)
    (before : Tile patterns source' place' path')
    (whole : place.rest = place'.rest ++ separator :: after)
    (offset : place.offset = place'.offset) :
    ∃ behind, Tile patterns source (place.past (place'.rest ++ [separator])) behind ∧
      path.filterMap finding? = path'.filterMap finding? ++ behind.filterMap finding? := by
  induction before generalizing place path with
  | @finish place' ends =>
      rw [ends, List.nil_append] at whole
      cases tile with
      | finish ends' =>
          rw [ends'] at whole
          cases whole
      | @visit _ visits _ behind =>
          rw [whole, passedFrom_separator avoid] at behind
          refine ⟨visits, by rwa [ends], ?_⟩
          have nothing : place.finding? patterns = none := by
            rw [finding?_separated avoid (by rw [ends, whole]; rfl) offset, finding?_of_end ends]
          rw [List.filterMap_cons, finding?_of, nothing]
          rfl
  | @visit place' visits' nonempty before ih =>
      cases tile with
      | finish ends =>
          rw [ends] at whole
          simp at whole
      | @visit _ visits _ further =>
          obtain ⟨left, split⟩ := isPrefix_passedFrom patterns place'.rest
          have rest := Place.rest_past_of_split split.symm
          rw [whole, passedFrom_separated avoid nonempty] at further
          have wholeBehind : (place.past (passedFrom patterns place'.rest)).rest =
              (place'.past (passedFrom patterns place'.rest)).rest ++ separator :: after := by
            rw [rest]
            apply Place.rest_past_of_split
            rw [whole, ← List.append_assoc, split]
          obtain ⟨behind, tiled, found⟩ := ih further wholeBehind (by simp [Place.past, offset])
          rw [rest, Place.past_past, ← List.append_assoc, split] at tiled
          refine ⟨behind, tiled, ?_⟩
          rw [List.filterMap_cons, List.filterMap_cons, finding?_of, finding?_of, found,
            finding?_separated avoid whole offset]
          cases place'.finding? patterns <;> rfl

end Separator

/-- At the end of the text nothing is found, so the one visit of an empty input does not
count. -/
theorem exists_tile_finding? (patterns : List Sequence) (input : String) :
    ∃ path, Tile patterns input (.start input.toList) path ∧
      (visits patterns input).filterMap finding? = path.filterMap finding? := by
  by_cases empty : input = ""
  · subst empty
    refine ⟨[], .finish rfl, ?_⟩
    rw [visits_empty, List.filterMap_cons, finding?_of, finding?_of_end rfl]
  · exact ⟨visits patterns input, tile_visits patterns empty, rfl⟩

theorem filterMap_finding?_visits_separated {separator : Char}
    (avoid : ∀ items ∈ patterns, items.Avoids separator) (first second : String) :
    (visits patterns (first ++ String.singleton separator ++ second)).filterMap finding? =
      (visits patterns first).filterMap finding? ++
        ((visits patterns second).filterMap finding?).map
          (Finding.shifted (first.utf8ByteSize + separator.utf8Size)) := by
  obtain ⟨path, tile, found⟩ := exists_tile_finding? patterns
    (first ++ String.singleton separator ++ second)
  obtain ⟨path₁, tile₁, found₁⟩ := exists_tile_finding? patterns first
  obtain ⟨path₂, tile₂, found₂⟩ := exists_tile_finding? patterns second
  have whole : (Place.start (first ++ String.singleton separator ++ second).toList).rest =
      (Place.start first.toList).rest ++ separator :: second.toList := by
    simp [Place.start]
  obtain ⟨behind, tiled, parts⟩ := tile.filterMap_finding?_separated avoid tile₁ whole rfl
  have rest := Place.rest_past_of_split (whole.trans (List.append_cons _ separator _))
  rw [found, found₁, found₂, parts, tile₂.filterMap_finding?_shifted tiled rest]
  simp [Place.past, Place.start, ← size_toList]

/-- The events of a visit and the visit find the same. -/
theorem filterMap_finding?_events (policy : UnmatchedPolicy) (visit : Visit) :
    (visit.events policy : List (Event ε)).filterMap Event.finding? = visit.finding?.toList := by
  obtain ⟨pos, hit, dropped⟩ := visit
  cases hit with
  | none =>
      cases policy <;> cases dropped <;> rfl
  | some found =>
      obtain ⟨rule, token⟩ := found
      rw [finding?, Option.bind_some]
      cases found : Finding.of? rule token <;> cases policy <;> cases dropped <;>
        simp [events, UnmatchedPolicy.events, Event.finding?, found]

end Visit

namespace Tokenizer

theorem findings_run {tokenizer : Tokenizer ε} {nesting : Nat} {input : String}
    (pending : tokenizer.pending = none) (passesOver : tokenizer.unmatched ≠ .error)
    (succeeds : tokenizer.CallbacksSucceed (tokenizer.answers nesting)
      (tokenizer.run nesting input)) :
    (tokenizer.run nesting input).findings =
      (Visit.visits tokenizer.patterns input).filterMap Visit.finding? := by
  rw [Outcome.findings, (run_eq_course pending succeeds).2, Visit.course_of_passesOver passesOver,
    List.filterMap_flatMap]
  simp only [Visit.filterMap_finding?_events]
  exact (List.filterMap_eq_flatMap_toList _ _).symm

/-- Where all patterns avoid the separator, a run over two texts with the separator between
them calls callbacks with the tokens of the first text and then with those of the second,
further on by the bytes before it. Empty tokens are not counted. -/
theorem findings_run_separated (tokenizer : Tokenizer ε) (nesting : Nat) {separator : Char}
    (avoid : ∀ items ∈ tokenizer.patterns, items.Avoids separator)
    (passesOver : tokenizer.unmatched ≠ .error) (first second : String)
    (succeedsWhole : tokenizer.CallbacksSucceed (tokenizer.answers nesting)
      (tokenizer.run nesting (first ++ String.singleton separator ++ second)))
    (succeedsFirst : tokenizer.CallbacksSucceed (tokenizer.answers nesting)
      (tokenizer.run nesting first))
    (succeedsSecond : tokenizer.CallbacksSucceed (tokenizer.answers nesting)
      (tokenizer.run nesting second)) :
    (tokenizer.run nesting (first ++ String.singleton separator ++ second)).findings =
      (tokenizer.run nesting first).findings ++
        (tokenizer.run nesting second).findings.map
          (Finding.shifted (first.utf8ByteSize + separator.utf8Size)) := by
  cases pending : tokenizer.pending with
  | some failure =>
      -- Nothing runs, so nothing is found in any of the three inputs.
      rw [run_of_pending pending, run_of_pending pending, run_of_pending pending]
      rfl
  | none =>
      rw [findings_run pending passesOver succeedsWhole,
        findings_run pending passesOver succeedsFirst,
        findings_run pending passesOver succeedsSecond]
      exact Visit.filterMap_finding?_visits_separated avoid first second

/-- The last pattern matches the empty text anywhere, and the run of the first one is stopped
once by its maximum, once by the separator and once by the end of the text. -/
theorem findings_run_separated_comma :
    let tokenizer : Tokenizer Unit := {
      rules := [⟨[⟨.literal ['a'], none⟩, ⟨.run (.builtin Char.isDigit) 0 (some 2), some "n"⟩],
          fun _ => .done ()⟩,
        ⟨[], fun _ => .done ()⟩] }
    (tokenizer.run 0 "a123a4,éa5").findings =
        (tokenizer.run 0 "a123a4").findings ++
          (tokenizer.run 0 "éa5").findings.map (Finding.shifted 7) ∧
      (tokenizer.run 0 "éa5").findings = [⟨0, 2, "a5"⟩] := by
  intro tokenizer
  have succeeds (outcome : Outcome Unit RunError Unit) :
      tokenizer.CallbacksSucceed (tokenizer.answers 0) outcome := by
    intro rule token _
    match rule with
    | 0 | 1 | _ + 2 => rfl
  have avoid : ∀ items ∈ tokenizer.patterns, items.Avoids ',' := by
    simp [tokenizer, patterns, Sequence.Avoids, Matcher.Rejects, Matcher.Everywhere]
  constructor
  · exact findings_run_separated tokenizer 0 avoid (by decide) "a123a4" "éa5" (succeeds _)
      (succeeds _) (succeeds _)
  · rfl

end Tokenizer

end PatternLexer
