import PatternLexer.Proofs.Pattern.Consumption
import PatternLexer.Tokenizer.Run

/-!
# The visits of a run

What the callbacks of a run do has no influence on the places it visits and on what it
finds there, up to the first failure. So a run can be told in two steps: the visits of
an input, and what it comes to when they are dealt with in order (`runWith_eq_follow`).

What a visit finds and passes over depends on its place alone (`make_eq`): it reports
the first pattern that matches there (`reports_of`) and passes over what this consumes,
or over one character. The visits of an input therefore follow one another without gaps
until nothing is left (`tile_visits`).
-/

namespace PatternLexer

open Text

namespace Sequence

/-- The first of some patterns that matches a text: its number, the pattern, and what it
consumes. -/
def firstOf? : List Sequence → List Char → Option (Nat × Sequence × List Char)
  | [], _ => none
  | items :: others, text =>
      match items.consumed? text with
      | some taken => some (0, items, taken)
      | none => (firstOf? others text).map fun (rule, chosen, taken) => (rule + 1, chosen, taken)

/-- What holds of all patterns up to a number holds of the first and of those behind it. -/
private theorem forall_earlier_cons_iff {property : Sequence → Prop} {first : Sequence}
    {others : List Sequence} {rule : Nat} :
    (∀ earlier < rule + 1, ∀ other, (first :: others)[earlier]? = some other → property other) ↔
      property first ∧
        ∀ earlier < rule, ∀ other, others[earlier]? = some other → property other := by
  constructor
  · intro holds
    constructor
    · exact holds 0 (Nat.succ_pos rule) first rfl
    · intro earlier less other place
      exact holds (earlier + 1) (Nat.succ_lt_succ less) other place
  · intro both earlier less other place
    rcases both with ⟨here, further⟩
    cases earlier with
    | zero =>
        cases place
        exact here
    | succ earlier => exact further earlier (Nat.lt_of_succ_lt_succ less) other place

/-- The first pattern that matches is the one before which all others fail. -/
theorem firstOf?_eq_some_iff {patterns : List Sequence} {text taken : List Char} {rule : Nat}
    {items : Sequence} :
    firstOf? patterns text = some (rule, items, taken) ↔
      patterns[rule]? = some items ∧ items.consumed? text = some taken ∧
        ∀ earlier < rule, ∀ other, patterns[earlier]? = some other →
          other.consumed? text = none := by
  induction patterns generalizing rule with
  | nil => simp [firstOf?]
  | cons first others ih =>
      rw [firstOf?]
      cases rule with
      | zero =>
          cases consumed : first.consumed? text with
          | none =>
              constructor
              · intro absurd
                simp at absurd
              · intro absurd
                rcases absurd with ⟨same, found, -⟩
                cases same
                rw [consumed] at found
                cases found
          | some begins =>
              constructor
              · intro same
                cases same
                exact ⟨rfl, consumed, fun earlier less => (Nat.not_lt_zero earlier less).elim⟩
              · intro found
                rcases found with ⟨same, found, -⟩
                cases same
                rw [consumed] at found
                cases found
                rfl
      | succ rule =>
          rw [forall_earlier_cons_iff, List.getElem?_cons_succ]
          cases consumed : first.consumed? text with
          | none =>
              simp only [Option.map_eq_some_iff, true_and, ← ih]
              constructor
              · intro found
                rcases found with ⟨⟨number, chosen, begins⟩, further, same⟩
                cases same
                exact further
              · intro further
                exact ⟨_, further, rfl⟩
          | some begins => simp

@[simp] theorem length_toToken_matched (items : Sequence) (source : String) (place : Place)
    (taken : List Char) :
    ((items.matched source place taken).toToken source).length = size taken := by
  simp [matched, Match.toToken, Token.length, Place.past]

theorem lexeme_toToken_matched (items : Sequence) {place : Place} {taken : List Char}
    (begins : taken <+: place.rest) (source : String) :
    ((items.matched source place taken).toToken source).lexeme.toList = taken := by
  simp [matched, Match.toToken, Token.lexeme, Place.between_past begins]

theorem isPrefix_of_consumed? {items : Sequence} {text taken : List Char}
    (consumed : items.consumed? text = some taken) : taken <+: text := by
  have settled : (Cursor.behind [] text []).Settled := rfl
  exact (settled.match?_of_consumed consumed).1

end Sequence

namespace Cursor

variable {cursor : Cursor} {items : Sequence} {found : Match}

theorem Settled.match?_eq_none_iff_consumed? (settled : cursor.Settled) :
    (cursor.match? items).1 = none ↔ items.consumed? cursor.position.rest = none := by
  cases consumed : items.consumed? cursor.position.rest with
  | none => simp [settled.match?_of_not_consumed consumed]
  | some taken => simp [settled.match?_of_consumed consumed]

theorem Settled.match?_eq_some_iff_consumed? (settled : cursor.Settled) :
    (cursor.match? items).1 = some found ↔
      ∃ taken, items.consumed? cursor.position.rest = some taken ∧
        found = items.matched cursor.text cursor.position taken := by
  cases consumed : items.consumed? cursor.position.rest with
  | none => simp [settled.match?_of_not_consumed consumed]
  | some taken => simp [settled.match?_of_consumed consumed, eq_comm]

/-- What is tried at a settled cursor finds the first pattern that matches. -/
theorem Settled.firstMatch_eq (settled : cursor.Settled) (patterns : List Sequence) :
    firstMatch patterns cursor =
      match Sequence.firstOf? patterns cursor.position.rest with
      | none => (none, cursor)
      | some (rule, items, taken) =>
          (some (rule, items.matched cursor.text cursor.position taken), cursor.advance taken) := by
  induction patterns with
  | nil => rfl
  | cons items others ih =>
      rw [firstMatch, Sequence.firstOf?]
      cases consumed : items.consumed? cursor.position.rest with
      | some taken => rw [(settled.match?_of_consumed consumed).2]
      | none =>
          rw [settled.match?_of_not_consumed consumed]
          simp only [ih]
          cases Sequence.firstOf? others cursor.position.rest <;> rfl

end Cursor

namespace Visit

/-- The visits of a run from a cursor on, no more than there are characters `ahead`. -/
def visitsFrom (patterns : List Sequence) : (ahead : List Char) → Cursor → List Visit
  | [], _ => []
  | _ :: ahead, cursor =>
      if cursor.atEnd then []
      else
        let (visit, next) := make patterns cursor
        visit :: visitsFrom patterns ahead next

/-- The visits of a run over an input. -/
def visits (patterns : List Sequence) (input : String) : List Visit :=
  let cursor := Cursor.start input
  if cursor.atEnd then [(make patterns cursor).1]
  else visitsFrom patterns input.toList cursor

/-! ## The visit of a place -/

/-- The token that is found at a place, with the number of its pattern. -/
def foundAt (patterns : List Sequence) (source : String) (place : Place) : Option (Nat × Token) :=
  (Sequence.firstOf? patterns place.rest).map fun (rule, items, taken) =>
    (rule, (items.matched source place taken).toToken source)

/-- The character that is dropped from a text: the next one, unless something is covered. -/
def droppedFrom (patterns : List Sequence) (text : List Char) : Option Char :=
  match Sequence.firstOf? patterns text with
  | some (_, _, _ :: _) => none
  | _ => text.head?

@[simp] theorem droppedFrom_nil (patterns : List Sequence) : droppedFrom patterns [] = none := by
  rw [droppedFrom]
  split <;> rfl

/-- What a visit passes over of a text: what the first pattern consumes, or the next
character. -/
def passedFrom (patterns : List Sequence) (text : List Char) : List Char :=
  match Sequence.firstOf? patterns text with
  | some (_, _, c :: taken) => c :: taken
  | _ => text.take 1

/-- The visit of a place. -/
def of (patterns : List Sequence) (source : String) (place : Place) : Visit :=
  ⟨place.offset, foundAt patterns source place, droppedFrom patterns place.rest⟩

/-- The next character is dropped, if there is one. -/
theorem passChar_eq (pos : Nat) (hit : Option (Nat × Token)) {cursor : Cursor}
    (settled : cursor.Settled) :
    passChar ⟨pos, hit, none⟩ cursor =
      (⟨pos, hit, cursor.position.rest.head?⟩,
        cursor.advance (cursor.position.rest.take 1)) := by
  cases left : cursor.position.rest with
  | nil =>
      simp [passChar, settled.peekChar_of_end left, settled.advance_nil]
  | cons c rest =>
      have commits := cursor.commit_peeked (List.cons_ne_nil c []) ⟨rest, left.symm⟩
      simp [passChar, settled.peekChar_eq left, commits]

/-- A settled cursor visits its place and passes over what is to be passed over. -/
theorem make_eq (patterns : List Sequence) {cursor : Cursor} (settled : cursor.Settled) :
    make patterns cursor =
      (of patterns cursor.text cursor.position,
        cursor.advance (passedFrom patterns cursor.position.rest)) := by
  rw [make, settled.firstMatch_eq]
  cases first : Sequence.firstOf? patterns cursor.position.rest with
  | none => simp [covered, of, foundAt, droppedFrom, passedFrom, first, passChar_eq _ _ settled]
  | some chosen =>
      rcases chosen with ⟨rule, items, taken⟩
      cases taken with
      | nil =>
          simp [covered, of, foundAt, droppedFrom, passedFrom, first, settled.advance_nil,
            passChar_eq _ _ settled]
      | cons c taken =>
          have positive := mt size_eq_zero_iff.mp (List.cons_ne_nil c taken)
          simp only [covered, Option.map_some, Sequence.length_toToken_matched, positive, if_false,
            of, foundAt, droppedFrom, passedFrom, first]

/-- The text that a visit stands for: the lexeme of its token and the dropped character. -/
def passed (visit : Visit) : List Char :=
  (match visit.hit with
    | some (_, token) => token.lexeme.toList
    | none => []) ++ visit.dropped.toList

/-- The token that is found between two texts is that of the first pattern that matches
there: the patterns with smaller numbers do not. -/
def Finds (patterns : List Sequence) (before rest : List Char) (hit : Option (Nat × Token)) :
    Prop :=
  ∀ rule token, hit = some (rule, token) ↔
    (∃ items found, patterns[rule]? = some items ∧
      ((Cursor.behind before rest []).match? items).1 = some found ∧
      token = found.toToken (String.ofList (before ++ rest))) ∧
    ∀ earlier < rule, ∀ items, patterns[earlier]? = some items →
      ((Cursor.behind before rest []).match? items).1 = none

/-- The visit is the one of the place between two texts. It drops the next character
just where no pattern matches or the token is empty. -/
structure Reports (patterns : List Sequence) (before rest : List Char) (visit : Visit) : Prop where
  pos_eq : visit.pos = size before
  finds : Finds patterns before rest visit.hit
  token_at (rule : Nat) (token : Token) : visit.hit = some (rule, token) →
    token.pos = visit.pos ∧ token.length = size token.lexeme.toList
  dropped_iff (c : Char) : visit.dropped = some c ↔
    rest.head? = some c ∧ ∀ rule token, visit.hit = some (rule, token) → token.length = 0

section Place

variable {patterns : List Sequence} {source : String} {place : Place} {rule : Nat} {token : Token}

/-- The token that is found is that of the first pattern, with what it consumes as its
lexeme. -/
theorem foundAt_eq_some (found : foundAt patterns source place = some (rule, token)) :
    ∃ items taken, Sequence.firstOf? patterns place.rest = some (rule, items, taken) ∧
      token = (items.matched source place taken).toToken source ∧
      token.lexeme.toList = taken ∧ token.length = size taken := by
  rcases Option.map_eq_some_iff.mp found with ⟨⟨number, items, taken⟩, first, same⟩
  cases same
  rcases Sequence.firstOf?_eq_some_iff.mp first with ⟨-, consumed, -⟩
  have begins := Sequence.isPrefix_of_consumed? consumed
  exact ⟨items, taken, first, rfl, Sequence.lexeme_toToken_matched items begins source,
    Sequence.length_toToken_matched items source place taken⟩

theorem passed_of (patterns : List Sequence) (source : String) (place : Place) :
    (of patterns source place).passed = passedFrom patterns place.rest := by
  cases first : Sequence.firstOf? patterns place.rest with
  | none => cases left : place.rest <;> simp_all [of, passed, foundAt, droppedFrom, passedFrom]
  | some chosen =>
      rcases chosen with ⟨rule, items, taken⟩
      rcases Sequence.firstOf?_eq_some_iff.mp first with ⟨-, consumed, -⟩
      have begins := Sequence.isPrefix_of_consumed? consumed
      have lexeme := Sequence.lexeme_toToken_matched items begins source
      cases taken <;> cases left : place.rest <;>
        simp_all [of, passed, foundAt, droppedFrom, passedFrom]

theorem isPrefix_passedFrom (patterns : List Sequence) (text : List Char) :
    passedFrom patterns text <+: text := by
  rw [passedFrom]
  split
  · rename_i first
    rcases Sequence.firstOf?_eq_some_iff.mp first with ⟨-, consumed, -⟩
    exact Sequence.isPrefix_of_consumed? consumed
  · exact List.take_prefix 1 text

theorem passedFrom_ne_nil (patterns : List Sequence) {text : List Char} (nonempty : text ≠ []) :
    passedFrom patterns text ≠ [] := by
  rw [passedFrom]
  split
  · simp
  · simp [nonempty]

/-- The next character is dropped just where no token is found or an empty one. -/
theorem droppedFrom_eq_some_iff (patterns : List Sequence) (source : String) (place : Place)
    (c : Char) :
    droppedFrom patterns place.rest = some c ↔
      place.rest.head? = some c ∧
        ∀ rule token, foundAt patterns source place = some (rule, token) → token.length = 0 := by
  cases first : Sequence.firstOf? patterns place.rest with
  | none => simp [droppedFrom, foundAt, first]
  | some chosen =>
      rcases chosen with ⟨number, items, taken⟩
      cases taken with
      | nil => simp +contextual [droppedFrom, foundAt, first]
      | cons d taken =>
          have positive := mt size_eq_zero_iff.mp (List.cons_ne_nil d taken)
          simp only [droppedFrom, foundAt, first, Option.map_some]
          constructor
          · intro absurd
            cases absurd
          · intro both
            rcases both with ⟨-, idle⟩
            have length := idle number _ rfl
            rw [Sequence.length_toToken_matched] at length
            exact absurd length positive

/-- The visit of a place reports what is there. -/
theorem reports_of (patterns : List Sequence) (before rest : List Char) :
    (of patterns (String.ofList (before ++ rest)) ⟨size before, rest⟩).Reports patterns
      before rest := by
  have settled : (Cursor.behind before rest []).Settled := rfl
  constructor
  · rfl
  · intro rule token
    constructor
    · intro found
      rcases foundAt_eq_some found with ⟨items, taken, first, rfl, -⟩
      rcases Sequence.firstOf?_eq_some_iff.mp first with ⟨member, consumed, fail⟩
      refine ⟨⟨items, _, member,
        settled.match?_eq_some_iff_consumed?.mpr ⟨taken, consumed, rfl⟩, rfl⟩, ?_⟩
      intro earlier less other place
      exact settled.match?_eq_none_iff_consumed?.mpr (fail earlier less other place)
    · intro reported
      rcases reported with ⟨⟨items, found, member, matched, rfl⟩, fail⟩
      rcases settled.match?_eq_some_iff_consumed?.mp matched with ⟨taken, consumed, rfl⟩
      have first : Sequence.firstOf? patterns rest = some (rule, items, taken) := by
        apply Sequence.firstOf?_eq_some_iff.mpr
        refine ⟨member, consumed, ?_⟩
        intro earlier less other place
        exact settled.match?_eq_none_iff_consumed?.mp (fail earlier less other place)
      simp only [of, foundAt, first]
      rfl
  · intro rule token found
    rcases foundAt_eq_some found with ⟨items, taken, -, rfl, lexeme, length⟩
    exact ⟨rfl, by rw [length, lexeme]⟩
  · exact droppedFrom_eq_some_iff patterns (String.ofList (before ++ rest)) ⟨size before, rest⟩

end Place

/-! ## The visits of an input -/

/-- The visits of a text from a place on, without gaps, until nothing is left. -/
inductive Tile (patterns : List Sequence) (source : String) : Place → List Visit → Prop where
  | finish {place : Place} (ends : place.rest = []) : Tile patterns source place []
  | visit {place : Place} {visits : List Visit} (nonempty : place.rest ≠ [])
      (further : Tile patterns source (place.past (passedFrom patterns place.rest)) visits) :
      Tile patterns source place (of patterns source place :: visits)

theorem tile_visitsFrom (patterns : List Sequence) {cursor : Cursor} (settled : cursor.Settled)
    {ahead : List Char} (enough : cursor.position.rest.length ≤ ahead.length) :
    Tile patterns cursor.text cursor.position (visitsFrom patterns ahead cursor) := by
  induction ahead generalizing cursor with
  | nil => exact .finish (List.eq_nil_of_length_eq_zero (Nat.le_zero.mp enough))
  | cons c ahead ih =>
      rw [visitsFrom]
      by_cases nonempty : cursor.position.rest = []
      · rw [if_pos (by simp [Cursor.atEnd, nonempty])]
        exact .finish nonempty
      · rw [if_neg (by simp [Cursor.atEnd, nonempty]), make_eq patterns settled]
        apply Tile.visit nonempty
        apply ih (Cursor.settled_advance _ _)
        have positive := List.length_pos_iff.mpr (passedFrom_ne_nil patterns nonempty)
        simp only [Cursor.position_advance, Place.past, List.length_drop, List.length_cons] at *
        omega

/-- The visits of an input that is not empty. -/
theorem tile_visits (patterns : List Sequence) {input : String} (nonempty : input ≠ "") :
    Tile patterns input (.start input.toList) (visits patterns input) := by
  have goesOn : (Cursor.start input).atEnd = false := by
    simpa [Cursor.atEnd, Cursor.start, Cursor.ofPlace, Place.start] using nonempty
  rw [visits, goesOn]
  exact tile_visitsFrom patterns (Cursor.settled_start input) (Nat.le_refl _)

/-- The empty input is visited once. -/
theorem visits_empty (patterns : List Sequence) :
    visits patterns "" = [of patterns "" (.start [])] := by
  rw [visits, make_eq patterns (Cursor.settled_start "")]
  rfl

section Tile

variable {patterns : List Sequence} {source : String} {place : Place} {path : List Visit}

theorem Tile.flatMap_passed (tile : Tile patterns source place path) :
    path.flatMap passed = place.rest := by
  induction tile with
  | finish ends => exact ends.symm
  | @visit place visits nonempty _ ih =>
      rw [List.flatMap_cons, ih, passed_of]
      exact List.prefix_iff_eq_append.mp (isPrefix_passedFrom patterns place.rest)

/-- Every visit reports a place where something is left. -/
theorem Tile.reports (tile : Tile patterns source place path) {before : List Char}
    (whole : before ++ place.rest = source.toList) (behind : place.offset = size before)
    {visit : Visit} (member : visit ∈ path) :
    ∃ earlier left, earlier ++ left = source.toList ∧ left ≠ [] ∧
      visit.Reports patterns earlier left := by
  induction tile generalizing before with
  | finish => cases member
  | @visit place visits nonempty _ ih =>
      rcases List.mem_cons.mp member with rfl | member
      · have here := reports_of patterns before place.rest
        rw [whole, String.ofList_toList, ← behind] at here
        exact ⟨before, place.rest, whole, nonempty, here⟩
      · rcases isPrefix_passedFrom patterns place.rest with ⟨rest, split⟩
        have left := Place.rest_past_of_split split.symm
        have further : (before ++ passedFrom patterns place.rest) ++
            (place.past (passedFrom patterns place.rest)).rest = source.toList := by
          rw [left, List.append_assoc, split, whole]
        exact ih further (by simp [Place.past, behind]) member

theorem Tile.pairwise_pos (tile : Tile patterns source place path) :
    path.Pairwise (·.pos < ·.pos) ∧ ∀ visit ∈ path, place.offset ≤ visit.pos := by
  induction tile with
  | finish => exact ⟨.nil, by simp⟩
  | @visit place visits nonempty further ih =>
      rcases ih with ⟨increasing, further⟩
      have positive := mt size_eq_zero_iff.mp (passedFrom_ne_nil patterns nonempty)
      have later : ∀ visit ∈ visits, place.offset < visit.pos := by
        intro visit member
        have := further visit member
        simp only [Place.past] at this
        omega
      constructor
      · exact List.pairwise_cons.mpr ⟨later, increasing⟩
      · intro visit member
        rcases List.mem_cons.mp member with rfl | member
        · exact Nat.le_refl _
        · exact Nat.le_of_lt (later visit member)

end Tile

theorem flatMap_passed_visits (patterns : List Sequence) (input : String) :
    (visits patterns input).flatMap passed = input.toList := by
  by_cases empty : input = ""
  · rw [empty, visits_empty, List.flatMap_singleton, passed_of]
    exact List.prefix_nil.mp (isPrefix_passedFrom patterns [])
  · exact (tile_visits patterns empty).flatMap_passed

/-- Every visit of an input reports a place of it, which is the end just where the input
is empty. -/
theorem reports_visits (patterns : List Sequence) {input : String} {visit : Visit}
    (member : visit ∈ visits patterns input) :
    ∃ before rest, before ++ rest = input.toList ∧ (rest = [] → input = "") ∧
      visit.Reports patterns before rest := by
  by_cases empty : input = ""
  · rw [empty, visits_empty, List.mem_singleton] at member
    subst member
    exact ⟨[], [], by simp [empty], fun _ => empty, reports_of patterns [] []⟩
  · have whole : [] ++ (Place.start input.toList).rest = input.toList := rfl
    obtain ⟨before, rest, split, nonempty, reports⟩ :=
      (tile_visits patterns empty).reports whole rfl member
    exact ⟨before, rest, split, fun absurd => (nonempty absurd).elim, reports⟩

theorem pairwise_pos_visits (patterns : List Sequence) (input : String) :
    (visits patterns input).Pairwise (·.pos < ·.pos) := by
  by_cases empty : input = ""
  · rw [empty, visits_empty]
    exact List.pairwise_singleton _ _
  · exact (tile_visits patterns empty).pairwise_pos.1

end Visit

namespace Tokenizer

variable {ε : Type}

/-- Deal with visits in order. -/
def follow (tokenizer : Tokenizer ε) (runOn : String → Option (Outcome ε RunError Unit)) :
    List Visit → Outcome ε RunError Unit
  | [] => .of (.ok ())
  | visit :: visits =>
      (tokenizer.attend runOn visit).andThen fun _ => tokenizer.follow runOn visits

theorem runFrom_eq_follow (tokenizer : Tokenizer ε)
    (runOn : String → Option (Outcome ε RunError Unit)) (ahead : List Char) (cursor : Cursor) :
    tokenizer.runFrom runOn ahead cursor =
      tokenizer.follow runOn (Visit.visitsFrom tokenizer.patterns ahead cursor) := by
  induction ahead generalizing cursor with
  | nil => rfl
  | cons c ahead ih =>
      rw [runFrom, Visit.visitsFrom]
      split
      · rfl
      · simp only [follow, ih]

/-- A run comes to what dealing with the visits of its input comes to. -/
theorem runWith_eq_follow {tokenizer : Tokenizer ε} (pending : tokenizer.pending = none)
    (runOn : String → Option (Outcome ε RunError Unit)) (input : String) :
    tokenizer.runWith runOn input =
      tokenizer.follow runOn (Visit.visits tokenizer.patterns input) := by
  simp only [runWith, pending, Visit.visits]
  split
  · simp [follow]
  · exact tokenizer.runFrom_eq_follow runOn _ _

end Tokenizer

end PatternLexer
